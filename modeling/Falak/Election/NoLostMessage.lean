import Falak.Election.Delivered
import Mathlib.Algebra.Order.BigOperators.Group.Finset

/-! No message is lost between its publication and the call of `Listen` that waits for it. -/

namespace Falak.Election

def Call.continues : Call → Prop
  | .dispatch _ _ | .replay _ => True
  | _ => False

namespace Exchange

variable {w w' : Exchange} {call : Call}

structure Accounted (w : Exchange) : Prop where
  places : Places w
  offers : Offers w
  covered : Covered w
  wired : Wired w
  delivered : Delivered w

theorem accounted_new (now : Int) : Accounted (new now) where
  places := ⟨by simp [new], by simp [new, ClusterTopic.empty], by simp [new, ClusterTopic.empty],
    by simp [new], by simp [new], by simp [new], by simp [new]⟩
  offers := ⟨by simp [new], by simp [new], by simp [new], by simp [new], by simp [new]⟩
  covered := ⟨by simp [new, Recorded], by simp [new, Recorded], by simp [new, Recorded]⟩
  wired := ⟨rfl, by simp [new], fun key l =>
    ⟨by simp [new, ClusterTopic.empty], fun registered => absurd registered.lt (by simp [new])⟩⟩
  delivered := ⟨by simp [new], by simp [new], by simp [new], by simp [new]⟩

theorem Accounted.step (accounted : Accounted w) (move : Move w call w') : Accounted w' where
  places := accounted.places.step move
  offers := accounted.offers.step accounted.places move
  covered := accounted.covered.step accounted.places move
  wired := accounted.wired.step move
  delivered := accounted.delivered.step accounted.wired move

variable {allowed : Exchange → Call → Prop} {l : Nat} {c : Cell} {a : Arrival} {r : Arrived}

theorem Accounted.of_reach (accounted : Accounted w) (reached : Reach Exchange.step allowed w w') :
    Accounted w' :=
  reached.invariant Accounted accounted fun _ _ _ before _ stepped =>
    before.step (step_move stepped)

theorem extends_of_reach (reached : Reach step allowed w w') : Extends w w' := by
  refine reached.invariant (Extends w) ⟨List.prefix_rfl, List.prefix_rfl, List.prefix_rfl⟩ ?_
  intro s call s' before _ stepped
  have next := (step_move stepped).extends
  exact ⟨before.arrivals.trans next.arrivals, before.listens.trans next.listens,
    before.offers.trans next.offers⟩

theorem step_replay {m : BufferedMessage} {queued : List BufferedMessage}
    (next : w.queued l = m :: queued) (here : w.cells[l]? = some c) :
    step w (.replay l) = some
      (({ w with queued := Function.update w.queued l queued } : Exchange).offer
        m.arrival l true c) := by
  simp only [step, next, here, Option.map_some]

theorem step_dispatch (pending : (a, l) ∈ w.dispatches) (here : w.cells[l]? = some c) :
    step w (.dispatch a l) = some
      (({ w with dispatches := w.dispatches.erase (a, l) } : Exchange).offer a l false c) := by
  simp only [step, if_pos pending, here, Option.map_some]

def owed (w : Exchange) : Nat :=
  w.dispatches.length + ∑ l ∈ Finset.range w.listens.length, (w.queued l).length

def Idle (w : Exchange) : Prop := w.dispatches = [] ∧ ∀ l, w.queued l = []

theorem Accounted.exists_offer (accounted : Accounted w) (busy : ¬ Idle w) :
    ∃ call w', Call.continues call ∧ Exchange.step w call = some w' ∧ Accounted w' ∧
      owed w' < owed w := by
  -- Every listener that a call refers to exists.
  have cell {l : Nat} (early : l < w.listens.length) : ∃ c, w.cells[l]? = some c :=
    ⟨_, List.getElem?_eq_getElem (accounted.wired.aligned ▸ early)⟩
  by_cases none : w.dispatches = []
  · obtain ⟨l, waiting⟩ : ∃ l, w.queued l ≠ [] := by
      by_contra all
      simp only [not_exists, not_not] at all
      exact busy ⟨none, all⟩
    obtain ⟨m, rest, next⟩ := List.exists_cons_of_ne_nil waiting
    obtain ⟨r, -, -, answers⟩ := accounted.places.queued l m (by simp [next])
    obtain ⟨c, here⟩ := cell answers.lt
    have stepped := step_replay next here
    refine ⟨.replay l, _, trivial, stepped, accounted.step (step_move stepped), ?_⟩
    simp only [owed, offer]
    refine Nat.add_lt_add_left (Finset.sum_lt_sum (fun l' _ => ?_) ⟨l, ?_, ?_⟩) _
    · by_cases same : l' = l
      · subst same
        simp [next]
      · simp [same]
    · exact Finset.mem_range.mpr answers.lt
    · simp [next]
  · obtain ⟨⟨a, l⟩, rest, first⟩ := List.exists_cons_of_ne_nil none
    have pending : (a, l) ∈ w.dispatches := by simp [first]
    obtain ⟨r, recorded, found⟩ := accounted.places.dispatched _ pending
    obtain ⟨c, here⟩ := cell (accounted.wired.found a.id r l recorded.1 found)
    have stepped := step_dispatch pending here
    refine ⟨.dispatch a l, _, trivial, stepped, accounted.step (step_move stepped), ?_⟩
    simp only [owed, offer, List.length_erase_of_mem pending]
    have nonempty := List.length_pos_of_mem pending
    omega

theorem Accounted.exists_idle (accounted : Accounted w) :
    ∃ w', Reach Exchange.step (fun _ call => call.continues) w w' ∧ Idle w' :=
  Reach.exists_of_rank Accounted owed (fun _ here busy => here.exists_offer busy) w accounted

def Dispatched (w : Exchange) (a : Arrival) (l : Nat) : Prop :=
  (a, l) ∈ w.dispatches ∨
    ∃ o ∈ w.offers, o.arrival = a ∧ o.call = l ∧ o.replayed = false ∧ Explained w o

def Replayed (w : Exchange) (a : Arrival) (l : Nat) : Prop :=
  a ∈ (w.queued l).map (·.arrival) ∨
    ∃ o ∈ w.offers, o.arrival = a ∧ o.call = l ∧ o.replayed = true ∧ Explained w o

theorem Offers.replayed_eq (offers : Offers w) {o : Offer} (offered : o ∈ w.offers)
    (recorded : Recorded w o.arrival r) : o.replayed = r.listener.isNone := by
  obtain ⟨s, fits⟩ := offers.fits o offered
  obtain rfl := fits.recorded.unique recorded rfl
  cases replayed : o.replayed with
  | true => simp [(fits.answers replayed).1]
  | false => simp [fits.found replayed]

theorem Accounted.dispatched (accounted : Accounted w) (recorded : Recorded w a r)
    (found : r.listener = some l) : Dispatched w a l := by
  refine (accounted.covered.routed a r l recorded found).imp_right ?_
  rintro ⟨o, offered, rfl, rfl⟩
  have direct := accounted.offers.replayed_eq offered recorded
  rw [found] at direct
  exact ⟨o, offered, rfl, rfl, direct, accounted.delivered.explained o offered⟩

theorem Accounted.replayed (accounted : Accounted w) {c : Listened} (recorded : Recorded w a r)
    (unheard : r.listener = none) (answers : Answers w r l) (call : w.listens[l]? = some c)
    (soon : c.listenedAt < r.receivedAt + bufferTTL) : Replayed w a l := by
  rcases accounted.covered.answered a r l c recorded unheard answers call with
    waiting | ⟨o, offered, rfl, rfl⟩ | late
  · exact .inl (List.mem_map.mpr ⟨_, waiting, rfl⟩)
  · have indirect := accounted.offers.replayed_eq offered recorded
    rw [unheard] at indirect
    exact .inr ⟨o, offered, rfl, rfl, indirect, accounted.delivered.explained o offered⟩
  · omega

theorem recorded_arrive {m : Message} (arrives : step w (.arrive m) = some w') :
    Recorded w' ⟨w.arrivals.length, m⟩
      ⟨m, w.now, w.topic.listeners.lookup m.key, w.listens.length⟩ := by
  cases arrives
  refine ⟨?_, rfl⟩
  simp [arrive]

/-- No message is lost between its arrival and the call of `Listen` that waits for it. -/
theorem no_lost_message {start : Int} {w w₁ w₂ : Exchange} {m : Message}
    (before : Reach step (fun _ _ => True) (new start) w) (arrives : step w (.arrive m) = some w₁)
    (after : Reach step (fun _ _ => True) w₁ w₂) :
    (w₂.offers.map (·.arrival.id)).Nodup ∧
    (∀ l, Registered w m.key l → Dispatched w₂ ⟨w.arrivals.length, m⟩ l) ∧
    ((∀ l, ¬ Registered w m.key l) → ∀ (l : Nat) (c : Listened), w.listens.length ≤ l →
      w₂.listens[l]? = some c → c.key = m.key →
      (∀ (l' : Nat) (c' : Listened), w.listens.length ≤ l' → l' < l →
        w₂.listens[l']? = some c' → c'.key ≠ m.key) →
      c.listenedAt < w.now + bufferTTL → Replayed w₂ ⟨w.arrivals.length, m⟩ l) ∧
    (w₂.offers.Pairwise fun o o' => o.replayed = true → o'.replayed = true →
      o.call = o'.call → o.arrival.id < o'.arrival.id) ∧
    (∀ (l : Nat) (c : Cell), w₂.cells[l]? = some c →
      c.claims ++ c.listener.claims.buf = (deliveredTo w₂.offers l).filterMap Message.claim? ∧
      c.failures ++ c.listener.failures.buf
        = (deliveredTo w₂.offers l).filterMap Message.failed?) ∧
    ∃ w₃, Reach step (fun _ call => call.continues) w₂ w₃ ∧ Idle w₃ := by
  have first : Accounted w := (accounted_new start).of_reach before
  have final : Accounted w₂ := (first.step (step_move arrives)).of_reach after
  have recorded := (recorded_arrive arrives).extend (extends_of_reach after)
  refine ⟨final.offers.once, ?_, ?_, final.offers.order, ?_, final.exists_idle⟩
  · intro l registered
    exact final.dispatched recorded ((first.wired.registered m.key l).mpr registered)
  · intro unregistered l c late call own earliest soon
    have unheard : w.topic.listeners.lookup m.key = none := by
      cases found : w.topic.listeners.lookup m.key with
      | none => rfl
      | some l => exact absurd ((first.wired.registered m.key l).mp found) (unregistered l)
    exact final.replayed recorded unheard ⟨late, ⟨c, call, own⟩, earliest⟩ call soon
  · intro l c here
    obtain ⟨called, call⟩ : ∃ called, w₂.listens[l]? = some called :=
      ⟨_, List.getElem?_eq_getElem (final.wired.early here)⟩
    have tied := final.delivered.tied l c called here call
    exact ⟨tied.claims, tied.failures⟩

def claimNumber (n : Nat) : Message := .claim ⟨"capsule", "0", "cluster", "node-b", n, 0⟩

def burst : List Call :=
  (List.range 17).map (fun n => .arrive (claimNumber n)) ++ [.listen ⟨"capsule", "0"⟩ 16] ++
    List.replicate 17 (.replay 0)

def overtaken : List Call :=
  [.listen ⟨"capsule", "0"⟩ 16, .arrive (claimNumber 0), .cancel 0, .close 0,
    .dispatch ⟨0, claimNumber 0⟩ 0]

/-- Messages can be dropped. -/
theorem messages_dropped :
    (∃ w, Reach step (fun _ _ => True) (new 0) w ∧
      w.arrivals[16]? = some ⟨claimNumber 16, 0, none, 0⟩ ∧
      w.listens = [⟨⟨"capsule", "0"⟩, 0, 16⟩] ∧ w.queued 0 = [] ∧
      w.offers.filter (·.arrival.id == 16) = [⟨⟨16, claimNumber 16⟩, 0, true, .full⟩]) ∧
    ∃ w, Reach step (fun _ _ => True) (new 0) w ∧
      w.arrivals = [⟨claimNumber 0, 0, some 0, 1⟩] ∧ w.dispatches = [] ∧
      w.offers = [⟨⟨0, claimNumber 0⟩, 0, false, .closed⟩] := by
  constructor
  · exact Reach.exists_of_actions _ _ burst _ (by decide +kernel)
  · exact Reach.exists_of_actions _ _ overtaken _ (by decide +kernel)

/-- A claim that waits for a second is replayed to the listener and delivered. -/
theorem no_lost_message_waited :
    ∃ w, Reach step (fun _ _ => True) ((new 0).arrive (claimNumber 0)) w ∧
      w.listens = [⟨⟨"capsule", "0"⟩, second, 16⟩] ∧
      w.offers.map (·.delivery) = [.delivered] ∧ (w.offers.map (·.arrival.id)).Nodup ∧
      Replayed w ⟨0, claimNumber 0⟩ 0 ∧
      ∃ w', Reach step (fun _ call => call.continues) w w' ∧ Idle w' := by
  obtain ⟨w, reached, listens, delivered⟩ := Reach.exists_of_actions step
    ((new 0).arrive (claimNumber 0)) [.tick second, .listen ⟨"capsule", "0"⟩ 16, .replay 0]
    (fun w => w.listens = [⟨⟨"capsule", "0"⟩, second, 16⟩] ∧
      w.offers.map (·.delivery) = [.delivered]) (by decide +kernel)
  have nothing : Reach step (fun _ _ => True) (new 0) (new 0) := .start
  obtain ⟨once, -, waited, -, -, idle⟩ := no_lost_message nothing rfl reached
  refine ⟨w, reached, listens, delivered, once, ?_, idle⟩
  refine waited (fun l registered => absurd registered.lt (by simp [new])) 0
    ⟨⟨"capsule", "0"⟩, second, 16⟩ (Nat.zero_le _) (by rw [listens]; rfl) rfl ?_ (by decide)
  intro l' c' _ less
  exact absurd less (Nat.not_lt_zero _)

end Exchange

end Falak.Election
