import Falak.Election.Registered

/-! What a listener receives is what was delivered to it, and a drop always has its reason. -/

namespace Falak.Election

namespace Listener

variable {α : Type}

variable (l : Listener) (m : Message)

theorem deliveryTo_delivered (channel : Chan α) :
    l.deliveryTo channel = .delivered ↔
      l.closed = false ∧ channel.buf.length < channel.cap := by
  unfold deliveryTo
  cases l.closed <;> simp

theorem held_of_full {l : Listener} {channel : Chan α} (full : l.deliveryTo channel = .full) :
    channel.cap ≤ channel.buf.length := by
  unfold deliveryTo at full
  split at full
  · cases full
  · split at full
    · cases full
    · omega

theorem closed_of_delivery {l : Listener} {m : Message} (closed : l.delivery m = .closed) :
    l.closed = true := by
  by_contra live
  cases m <;>
  · simp only [delivery, deliveryTo, live, if_false] at closed
    split at closed <;> cases closed

theorem dispatch_claims :
    (l.dispatch m).claims.buf = l.claims.buf ++
      if l.delivery m = .delivered then m.claim?.toList else [] := by
  cases m with
  | claim claim =>
    simp only [dispatch, dispatchClaim, delivery, deliveryTo_delivered]
    cases l.closed with
    | true => simp
    | false =>
      simp only [Chan.trySend_buf, Bool.false_eq_true, if_false, true_and]
      split <;> simp [Message.claim?]
  | failed failed =>
    simp only [dispatch, dispatchFailure]
    split <;> simp [Message.claim?]

theorem dispatch_failures :
    (l.dispatch m).failures.buf = l.failures.buf ++
      if l.delivery m = .delivered then m.failed?.toList else [] := by
  cases m with
  | claim claim =>
    simp only [dispatch, dispatchClaim]
    split <;> simp [Message.failed?]
  | failed failed =>
    simp only [dispatch, dispatchFailure, delivery, deliveryTo_delivered]
    cases l.closed with
    | true => simp
    | false =>
      simp only [Chan.trySend_buf, Bool.false_eq_true, if_false, true_and]
      split <;> simp [Message.failed?]

theorem dispatch_room :
    (l.dispatch m).claims.cap = l.claims.cap ∧ (l.dispatch m).failures.cap = l.failures.cap := by
  cases m with
  | claim claim =>
    simp only [dispatch, dispatchClaim]
    split <;> simp
  | failed failed =>
    simp only [dispatch, dispatchFailure]
    split <;> simp

theorem dispatch_closed : (l.dispatch m).closed = l.closed := by
  cases m with
  | claim claim =>
    simp only [dispatch, dispatchClaim]
    split <;> rfl
  | failed failed =>
    simp only [dispatch, dispatchFailure]
    split <;> rfl

end Listener

def Message.alike (m m' : Message) : Bool := m.claim?.isSome == m'.claim?.isSome

def deliveredTo (offers : List Offer) (l : Nat) : List Message :=
  (offers.filter fun o => o.call == l && o.delivery == .delivered).map (·.arrival.message)

structure Cell.Tied (capacity : Nat) (delivered : List Message) (c : Cell) : Prop where
  claims : c.claims ++ c.listener.claims.buf = delivered.filterMap Message.claim?
  failures : c.failures ++ c.listener.failures.buf = delivered.filterMap Message.failed?
  claimRoom : c.listener.claims.cap = capacity
  failureRoom : c.listener.failures.cap = capacity

section

variable {capacity : Nat} {delivered : List Message} {c : Cell}

theorem deliveredTo_snoc (offers : List Offer) (o : Offer) (l : Nat) :
    deliveredTo (offers ++ [o]) l = deliveredTo offers l ++
      if o.call = l ∧ o.delivery = .delivered then [o.arrival.message] else [] := by
  simp only [deliveredTo, List.filter_append, List.map_append, List.filter_cons, List.filter_nil,
    Bool.and_eq_true, beq_iff_eq]
  split <;> rfl

theorem deliveredTo_eq_nil {offers : List Offer} {l : Nat} (earlier : ∀ o ∈ offers, o.call ≠ l) :
    deliveredTo offers l = [] := by
  simp only [deliveredTo, List.map_eq_nil_iff, List.filter_eq_nil_iff, Bool.and_eq_true,
    beq_iff_eq, not_and]
  intro o there same
  exact absurd same (earlier o there)

theorem Cell.Tied.new (capacity : Nat) :
    Cell.Tied capacity [] ⟨.new capacity, false, [], []⟩ := ⟨rfl, rfl, rfl, rfl⟩

theorem Cell.Tied.close (tied : Cell.Tied capacity delivered c) :
    Cell.Tied capacity delivered c.close := by
  obtain ⟨claims, failures, claimRoom, failureRoom⟩ := tied
  unfold Cell.close Listener.close
  split <;> exact ⟨claims, failures, claimRoom, failureRoom⟩

theorem Cell.Tied.takeClaim {claim : Claim} {rest : Chan Claim}
    (tied : Cell.Tied capacity delivered c)
    (received : c.listener.claims.recv = some (.value claim rest)) :
    Cell.Tied capacity delivered (c.takeClaim claim rest) := by
  obtain ⟨held, rfl⟩ := Chan.recv_value received
  refine ⟨?_, tied.failures, tied.claimRoom, tied.failureRoom⟩
  rw [← tied.claims, held]
  simp [Cell.takeClaim]

theorem Cell.Tied.takeFailure {failed : ElectionFailed} {rest : Chan ElectionFailed}
    (tied : Cell.Tied capacity delivered c)
    (received : c.listener.failures.recv = some (.value failed rest)) :
    Cell.Tied capacity delivered (c.takeFailure failed rest) := by
  obtain ⟨held, rfl⟩ := Chan.recv_value received
  refine ⟨tied.claims, ?_, tied.claimRoom, tied.failureRoom⟩
  rw [← tied.failures, held]
  simp [Cell.takeFailure]

theorem Cell.Tied.dispatch (tied : Cell.Tied capacity delivered c) (m : Message) :
    Cell.Tied capacity
      (delivered ++ if c.listener.delivery m = .delivered then [m] else []) (c.dispatch m) := by
  refine ⟨?_, ?_, ?_, ?_⟩
  · rw [List.filterMap_append, ← tied.claims, List.append_assoc]
    simp only [Cell.dispatch, Listener.dispatch_claims]
    split <;> cases m <;> rfl
  · rw [List.filterMap_append, ← tied.failures, List.append_assoc]
    simp only [Cell.dispatch, Listener.dispatch_failures]
    split <;> cases m <;> rfl
  · exact (Listener.dispatch_room c.listener m).1.trans tied.claimRoom
  · exact (Listener.dispatch_room c.listener m).2.trans tied.failureRoom

theorem capacity_le_countP {kind : Message → Option α} {taken : List α} {channel : Chan α}
    {l : Listener} (total : taken ++ channel.buf = delivered.filterMap kind)
    (room : channel.cap = capacity) (full : l.deliveryTo channel = .full) :
    capacity ≤ delivered.countP fun m => (kind m).isSome := by
  have held := Listener.held_of_full full
  have lengths := congrArg List.length total
  rw [List.length_append, List.length_filterMap_eq_countP] at lengths
  omega

theorem Cell.Tied.full (tied : Cell.Tied capacity delivered c) {m : Message}
    (full : c.listener.delivery m = .full) : capacity ≤ delivered.countP m.alike := by
  -- Each kind of message has a channel of its own.
  cases m with
  | claim claim =>
    have kind : (fun m => (Message.claim? m).isSome) = (Message.claim claim).alike := by
      funext m
      cases m <;> rfl
    exact kind ▸ capacity_le_countP tied.claims tied.claimRoom full
  | failed failed =>
    have kind : (fun m => (Message.failed? m).isSome) = (Message.failed failed).alike := by
      funext m
      cases m <;> rfl
    exact kind ▸ capacity_le_countP tied.failures tied.failureRoom full

end

namespace Exchange

variable {w w' : Exchange} {call : Call} {l : Nat}

inductive CellMove (w w' : Exchange) (l : Nat) : Cell → Cell → Prop
  | still {c : Cell} (quiet : deliveredTo w'.offers l = deliveredTo w.offers l) :
      CellMove w w' l c c
  | offered {c : Cell} {a : Arrival} {replayed : Bool}
      (added : w'.offers = w.offers ++ [⟨a, l, replayed, c.listener.delivery a.message⟩]) :
      CellMove w w' l c (c.dispatch a.message)
  | closed {c : Cell} (quiet : w'.offers = w.offers) (gone : ∀ key, ¬ Registered w' key l) :
      CellMove w w' l c c.close
  | cancelled {c : Cell} (quiet : w'.offers = w.offers) :
      CellMove w w' l c { c with cancelled := true }
  | tookClaim {c : Cell} {claim : Claim} {rest : Chan Claim} (quiet : w'.offers = w.offers)
      (received : c.listener.claims.recv = some (.value claim rest)) :
      CellMove w w' l c (c.takeClaim claim rest)
  | tookFailure {c : Cell} {failed : ElectionFailed} {rest : Chan ElectionFailed}
      (quiet : w'.offers = w.offers)
      (received : c.listener.failures.recv = some (.value failed rest)) :
      CellMove w w' l c (c.takeFailure failed rest)

theorem cell_offer {u : Exchange} {a : Arrival} {i : Nat} {replayed : Bool} {c c' : Cell}
    (cells : u.cells = w.cells) (offers : u.offers = w.offers) (here : w.cells[i]? = some c)
    (there : (u.offer a i replayed c).cells[l]? = some c') :
    ∃ c₀, w.cells[l]? = some c₀ ∧ CellMove w (u.offer a i replayed c) l c₀ c' := by
  simp only [offer, cells] at there
  obtain ⟨c₀, before, ⟨rfl, rfl⟩ | ⟨other, rfl⟩⟩ := modify_some there
  · obtain rfl := Option.some.inj (here.symm.trans before)
    have added : (u.offer a l replayed c).offers
        = w.offers ++ [⟨a, l, replayed, c.listener.delivery a.message⟩] := by
      simp only [offer, offers]
    exact ⟨c, here, .offered added⟩
  · refine ⟨c', before, .still ?_⟩
    simp [offer, offers, deliveredTo_snoc, Ne.symm other]

theorem cell_set {i : Nat} {c c₁ c' : Cell} (offers : w'.offers = w.offers)
    (here : w.cells[i]? = some c) (cells : w'.cells = w.cells.set i c₁)
    (change : CellMove w w' i c c₁) (there : w'.cells[l]? = some c') :
    ∃ c₀, w.cells[l]? = some c₀ ∧ CellMove w w' l c₀ c' := by
  rw [cells] at there
  rcases set_some there with ⟨rfl, rfl⟩ | ⟨-, before⟩
  · exact ⟨c, here, change⟩
  · exact ⟨c', before, .still (by rw [offers])⟩

theorem Move.cell (wired : Wired w) (move : Move w call w') {c' : Cell}
    (there : w'.cells[l]? = some c') :
    (∃ c, w.cells[l]? = some c ∧ CellMove w w' l c c') ∨
      ∃ key size, w' = w.listen key size ∧ l = w.listens.length ∧
        c' = ⟨.new (capacity size), false, [], []⟩ := by
  cases move with
  | tick | buffer | route | sweep => exact .inl ⟨c', there, .still rfl⟩
  | dispatch _ here | replay _ here => exact .inl (cell_offer rfl rfl here there)
  | listen key size =>
    obtain ⟨replaced, cells, length, entry⟩ := listen_cells w key size
    rw [cells] at there
    rcases append_some there with ⟨last, new⟩ | before
    · exact .inr ⟨key, size, rfl, by rw [last, length, wired.aligned], new⟩
    · refine .inl ?_
      rcases entry l with same | ⟨existing, closed⟩
      · exact ⟨c', same ▸ before, .still rfl⟩
      · rw [closed, Option.map_eq_some_iff] at before
        obtain ⟨c, here, rfl⟩ := before
        refine ⟨c, here, .closed rfl fun other registered => ?_⟩
        rw [registered_listen wired] at registered
        have old := (wired.registered key l).mp existing
        split at registered
        · exact absurd old.lt (by omega)
        · rename_i different
          obtain ⟨called, here', own⟩ := old.call
          obtain ⟨called', here'', own'⟩ := registered.call
          obtain rfl := Option.some.inj (here'.symm.trans here'')
          exact different (own'.symm.trans own)
  | cancel _ _ here => exact .inl (cell_set rfl here rfl (.cancelled rfl) there)
  | @close i c here cancelled =>
    refine .inl (cell_set rfl here rfl (.closed rfl fun key registered => ?_) there)
    have active := registered.active
    simp only [setCell, List.getElem?_set_self (lt_of_some here)] at active
    simp [cancelled] at active
  | takeClaim here received => exact .inl (cell_set rfl here rfl (.tookClaim rfl received) there)
  | takeFailure here received =>
    exact .inl (cell_set rfl here rfl (.tookFailure rfl received) there)

theorem Registered.restrict {key : MessageKey} (wired : Wired w) (move : Move w call w')
    (early : l < w.listens.length) (registered : Registered w' key l) : Registered w key l := by
  have longer := move.extends.listens
  obtain ⟨called, here, own⟩ := registered.call
  refine ⟨⟨called, entry_of_grown longer early ▸ here, own⟩, fun l' c' after there => ?_, ?_⟩
  · have made := lt_of_some there
    exact registered.last l' c' after (entry_of_grown longer made ▸ there)
  · -- No move takes back a cancellation.
    obtain ⟨c', there, active⟩ := Option.map_eq_some_iff.mp registered.active
    rcases move.cell wired there with ⟨c, before, change⟩ | ⟨key, size, -, rfl, -⟩
    · rw [before, Option.map_some, Option.some.injEq]
      cases change with
      | cancelled => cases active
      | _ => exact active
    · exact absurd early (Nat.lt_irrefl _)

structure Explained (w : Exchange) (o : Offer) : Prop where
  full : o.delivery = .full → ∃ (c : Listened) (before after : List Offer),
    w.listens[o.call]? = some c ∧ w.offers = before ++ o :: after ∧
      c.capacity ≤ (deliveredTo before o.call).countP o.arrival.message.alike
  /-- The listener was cancelled, or another has taken its place. -/
  closed : o.delivery = .closed → ∀ key, ¬ Registered w key o.call

structure Delivered (w : Exchange) : Prop where
  made : ∀ o ∈ w.offers, o.call < w.listens.length
  tied : ∀ (l : Nat) (c : Cell) (called : Listened), w.cells[l]? = some c →
    w.listens[l]? = some called → c.Tied called.capacity (deliveredTo w.offers l)
  closed : ∀ (l : Nat) (c : Cell), w.cells[l]? = some c → c.listener.closed = true →
    ∀ key, ¬ Registered w key l
  explained : ∀ o ∈ w.offers, Explained w o

theorem Wired.early (wired : Wired w) {c : Cell} (here : w.cells[l]? = some c) :
    l < w.listens.length :=
  wired.aligned ▸ lt_of_some here

theorem Move.offer (move : Move w call w') {o : Offer} (offered : o ∈ w'.offers) :
    o ∈ w.offers ∨ ∃ c, w.cells[o.call]? = some c ∧
      o.delivery = c.listener.delivery o.arrival.message ∧ w'.offers = w.offers ++ [o] := by
  cases move with
  | dispatch _ here | replay _ here =>
    simp only [Exchange.offer, List.mem_append, List.mem_singleton] at offered
    rcases offered with before | rfl
    · exact .inl before
    · exact .inr ⟨_, here, rfl, rfl⟩
  | _ => exact .inl offered

section

variable (delivered : Delivered w)
include delivered

theorem Delivered.made_step (wired : Wired w) (move : Move w call w')
    (o : Offer) (offered : o ∈ w'.offers) : o.call < w'.listens.length := by
  refine Nat.lt_of_lt_of_le ?_ move.extends.listens.length_le
  rcases move.offer offered with before | ⟨c, here, -⟩
  · exact delivered.made o before
  · exact wired.early here

theorem Delivered.tied_step (wired : Wired w) (move : Move w call w')
    (l : Nat) (c' : Cell) (called : Listened) (there : w'.cells[l]? = some c')
    (call : w'.listens[l]? = some called) :
    c'.Tied called.capacity (deliveredTo w'.offers l) := by
  rcases move.cell wired there with ⟨c, here, change⟩ | ⟨key, size, rfl, rfl, rfl⟩
  · rw [entry_of_grown move.extends.listens (wired.early here)] at call
    have tied := delivered.tied l c called here call
    cases change with
    | still quiet => exact quiet ▸ tied
    | offered added =>
      rw [added, deliveredTo_snoc]
      simpa only [true_and] using tied.dispatch _
    | closed quiet => exact quiet ▸ tied.close
    | cancelled quiet =>
      exact quiet ▸ ⟨tied.claims, tied.failures, tied.claimRoom, tied.failureRoom⟩
    | tookClaim quiet received => exact quiet ▸ tied.takeClaim received
    | tookFailure quiet received => exact quiet ▸ tied.takeFailure received
  · -- Nothing has been offered to the new listener.
    have fresh : deliveredTo (w.listen key size).offers w.listens.length = [] :=
      deliveredTo_eq_nil fun o offered => Nat.ne_of_lt (delivered.made o offered)
    rw [fresh]
    simp only [Exchange.listen, List.getElem?_concat_length] at call
    cases call
    exact Cell.Tied.new _

theorem Delivered.closed_step (wired : Wired w) (move : Move w call w')
    (l : Nat) (c' : Cell) (there : w'.cells[l]? = some c') (shut : c'.listener.closed = true)
    (key : MessageKey) : ¬ Registered w' key l := by
  rcases move.cell wired there with ⟨c, here, change⟩ | ⟨key', size, -, -, rfl⟩
  · have old (before : c.listener.closed = true) : ¬ Registered w' key l := fun registered =>
      delivered.closed l c here before key (registered.restrict wired move (wired.early here))
    cases change with
    | offered => exact old (Listener.dispatch_closed _ _ ▸ shut)
    | closed _ gone => exact gone key
    | _ => exact old shut
  · cases shut

theorem Delivered.explained_step (wired : Wired w) (move : Move w call w')
    (o : Offer) (offered : o ∈ w'.offers) : Explained w' o := by
  have longer := move.extends
  have gone (early : o.call < w.listens.length) (closed : ∀ key, ¬ Registered w key o.call) :
      ∀ key, ¬ Registered w' key o.call := fun key registered =>
    closed key (registered.restrict wired move early)
  rcases move.offer offered with before | ⟨c, here, outcome, added⟩
  · have early := delivered.made o before
    refine ⟨fun full => ?_, fun closed => gone early ((delivered.explained o before).closed closed)⟩
    obtain ⟨called, earlier, after, call, split, many⟩ := (delivered.explained o before).full full
    obtain ⟨more, grown⟩ := longer.offers
    refine ⟨called, earlier, after ++ more, ?_, ?_, many⟩
    · rw [entry_of_grown longer.listens early]
      exact call
    · rw [← grown, split]
      simp
  · have early := wired.early here
    refine ⟨fun full => ?_, fun closed => gone early ?_⟩
    · obtain ⟨called, call⟩ : ∃ called, w.listens[o.call]? = some called :=
        ⟨_, List.getElem?_eq_getElem early⟩
      refine ⟨called, w.offers, [], ?_, added, ?_⟩
      · rw [entry_of_grown longer.listens early]
        exact call
      · exact (delivered.tied o.call c called here call).full (outcome ▸ full)
    · exact delivered.closed o.call c here (Listener.closed_of_delivery (outcome ▸ closed))

theorem Delivered.step (wired : Wired w) (move : Move w call w') :
    Delivered w' :=
  ⟨delivered.made_step wired move, delivered.tied_step wired move,
    delivered.closed_step wired move, delivered.explained_step wired move⟩

end

end Exchange

end Falak.Election
