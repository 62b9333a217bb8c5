import Falak.Events.ChannelSafety
import Mathlib.Algebra.Group.Nat.Defs

/-! What the subscribers of the event bus are given, and how many events they miss. -/

namespace Falak.Events

namespace Dispatch

variable {E : Type}

def missed (d : Dispatch E) : List Nat := d.registered.filter (· ∉ d.placed)

theorem length_missed_place (d : Dispatch E) {ch : Nat} (distinct : d.registered.Nodup)
    (listed : ch ∈ d.registered) (fresh : ch ∉ d.placed) :
    ({ d with placed := d.placed ++ [ch] } : Dispatch E).missed.length + 1 = d.missed.length := by
  have member : ch ∈ d.missed := List.mem_filter.mpr ⟨listed, by simpa using fresh⟩
  have erased :
      ({ d with placed := d.placed ++ [ch] } : Dispatch E).missed = d.missed.erase ch := by
    unfold missed
    rw [(distinct.filter _).erase_eq_filter, List.filter_filter]
    refine List.filter_congr fun other _ => ?_
    by_cases same : other = ch <;> simp [same]
  rw [erased, List.length_erase_of_mem member]
  have positive := List.length_pos_of_mem member
  omega

end Dispatch

namespace World

variable {E : Type} {eventType : E → String} {w w' : World E} {a : Action E}

variable (ch : Nat) (dispatches : List (Dispatch E))

def current (w : World E) : List (Dispatch E) :=
  match w.dispatcher with
  | .fanning current _ => [current]
  | _ => []

def unserved (w : World E) : List Nat :=
  match w.dispatcher with
  | .fanning _ rest => rest
  | _ => []

def held (w : World E) : List E :=
  match w.dispatcher with
  | .received e => [e]
  | _ => []

def history (w : World E) : List (Dispatch E) := w.dispatches ++ w.current

def carried (w : World E) (ch : Nat) : List E := w.read ch ++ (w.chans ch).buf

def placedIn : List E :=
  (dispatches.filter fun d => ch ∈ d.placed).map (·.event)

def missedCount : Nat :=
  (dispatches.flatMap Dispatch.missed).length

theorem placedIn_append (d : Dispatch E) :
    placedIn ch (dispatches ++ [d]) =
      placedIn ch dispatches ++ if ch ∈ d.placed then [d.event] else [] := by
  by_cases placed : ch ∈ d.placed <;> simp [placedIn, placed]

theorem missedCount_append (d : Dispatch E) :
    missedCount (dispatches ++ [d]) = missedCount dispatches + d.missed.length := by
  simp [missedCount]

def Quiescent (w : World E) : Prop := w.unserved = []

structure Listed (w : World E) : Prop where
  typed : ∀ t ch, (t, ch) ∈ w.subscribers ↔ ch ∈ w.members ∧ w.kinds ch = some t
  all : ∀ ch, ch ∈ w.allSubs ↔ ch ∈ w.members ∧ w.kinds ch = none
  distinct : w.members.Nodup

structure Booked (eventType : E → String) (w : World E) : Prop where
  queue : w.enqueued = w.history.map (·.event) ++ w.held ++ w.inputCh.buf
  wanted : ∀ d ∈ w.history, ∀ ch ∈ d.registered, ch < w.made ∧ wants eventType (w.kinds ch) d.event
  placed : ∀ d ∈ w.history, ∀ ch ∈ d.placed, ch ∈ d.registered
  carries : ∀ ch, w.carried ch = placedIn ch w.history
  once : ∀ d ∈ w.current, d.registered.Nodup ∧ w.unserved.Nodup ∧
    ∀ ch ∈ w.unserved, ch ∈ d.registered ∧ ch ∉ d.placed
  count : ∃ n, w.droppedCount = UInt64.ofNat n ∧ n + w.unserved.length = missedCount w.history

namespace Listed

theorem new (size : Nat) : Listed (World.new size : World E) := by
  constructor <;> simp [World.new]

variable {ch : Nat} {t : String}

theorem mem_registered (listed : Listed w) : ch ∈ w.registered ↔ ch ∈ w.members := by
  simp only [Bus.registered, List.mem_append, List.mem_map, Prod.exists, exists_eq_right,
    listed.typed, listed.all, ← and_or_left, exists_and_left]
  cases w.kinds ch <;> simp

theorem perm_matching (listed : Listed w) (sound : Sound w) (e : E) :
    (w.subs (eventType e) ++ w.allSubs).Perm (w.matching eventType e) := by
  have distinct : (w.subs (eventType e) ++ w.allSubs).Nodup :=
    sound.distinct.sublist ((List.filter_sublist.map Prod.snd).append_right _)
  refine (List.perm_ext_iff_of_nodup distinct (listed.distinct.filter _)).mpr fun ch => ?_
  simp only [wants, List.mem_append, Bus.mem_subs, List.mem_filter, listed.typed,
    listed.all, Bool.or_eq_true, decide_eq_true_eq]
  tauto

theorem join (listed : Listed w) (fresh : w.made ∉ w.members) (kind : Option String)
    (opts : List Int) {subscribers : List (String × Nat)} {allSubs : List Nat}
    (typed : ∀ t ch, (t, ch) ∈ subscribers ↔ (t, ch) ∈ w.subscribers ∨ ch = w.made ∧ kind = some t)
    (all : ∀ ch, ch ∈ allSubs ↔ ch ∈ w.allSubs ∨ ch = w.made ∧ kind = none) :
    Listed (w.join kind { w.makeChan opts with subscribers, allSubs }) := by
  -- What the others asked for is not changed.
  have kept : ∀ ch ∈ w.members, Function.update w.kinds w.made kind ch = w.kinds ch :=
    fun ch member => Function.update_of_ne (ne_of_mem_of_not_mem member fresh) _ _
  constructor
  · intro t ch
    simp only [World.join, typed, listed.typed, List.mem_append, List.mem_singleton, or_and_right]
    refine or_congr (and_congr_right fun member => by rw [kept ch member]) ?_
    exact and_congr_right fun same => by simp [same]
  · intro ch
    simp only [World.join, all, listed.all, List.mem_append, List.mem_singleton, or_and_right]
    refine or_congr (and_congr_right fun member => by rw [kept ch member]) ?_
    exact and_congr_right fun same => by simp [same]
  · exact List.nodup_append.mpr ⟨listed.distinct, List.nodup_singleton _, by
      simpa using fun ch member => ne_of_mem_of_not_mem member fresh⟩

theorem leave (listed : Listed w) (distinct : w.subscribers.Nodup)
    (present : (t, ch) ∈ w.subscribers) (chans : Nat → Chan E) :
    Listed { w with
      subscribers := w.subscribers.erase (t, ch), chans, members := w.membersWithout t ch } := by
  have kind := ((listed.typed t ch).mp present).2
  have left : w.membersWithout t ch = w.members.erase ch := if_pos kind
  constructor
  · intro t' ch'
    simp only [left, distinct.mem_erase_iff, listed.distinct.mem_erase_iff, listed.typed, ne_eq,
      Prod.mk.injEq, not_and]
    constructor
    · rintro ⟨other, member, same⟩
      refine ⟨⟨fun here => ?_, member⟩, same⟩
      subst here
      exact other (Option.some.inj (same.symm.trans kind)) rfl
    · rintro ⟨⟨other, member⟩, same⟩
      exact ⟨fun _ here => other here, member, same⟩
  · intro ch'
    simp only [left, listed.distinct.mem_erase_iff, listed.all, ne_eq]
    constructor
    · rintro ⟨member, none⟩
      refine ⟨⟨fun here => ?_, member⟩, none⟩
      subst here
      cases kind.symm.trans none
    · rintro ⟨⟨-, member⟩, none⟩
      exact ⟨member, none⟩
  · rw [left]
    exact listed.distinct.erase ch

theorem membersWithout_of_absent (listed : Listed w) (absent : (t, ch) ∉ w.subscribers) :
    w.membersWithout t ch = w.members := by
  unfold membersWithout
  split_ifs with kind
  · exact List.erase_of_not_mem fun member => absent ((listed.typed t ch).mpr ⟨member, kind⟩)
  · rfl

theorem move (listed : Listed w) (sound : Sound w) (moved : Move eventType w a w') : Listed w' := by
  have fresh : w.made ∉ w.members := fun member =>
    Nat.lt_irrefl _ (sound.below _ (listed.mem_registered.mpr member))
  -- Only the moves of subscribers touch the lists.
  cases moved with
  | subscribed t opts free =>
    refine listed.join fresh (some t) opts ?_ ?_
    · intro t' ch
      simp [and_comm, eq_comm]
    · intro ch
      simp [Bus.makeChan]
  | subscribedAll opts free =>
    refine listed.join fresh none opts ?_ ?_
    · intro t ch
      simp [Bus.makeChan]
    · intro ch
      simp
  | unsubscribed t ch b free result =>
    rcases Bus.unsubscribe_ok result with ⟨absent, rfl⟩ | ⟨present, -, rfl⟩
    · rw [listed.membersWithout_of_absent absent]
      exact listed
    · exact listed.leave (List.Nodup.of_map _ (List.nodup_append.mp sound.distinct).1) present _
  | closedInput b live free result =>
    rw [Bus.closeInput_of_open (sound.input.trans live)] at result
    cases result
    exact { listed with }
  | closedSubscribers b closing ended result =>
    rw [Bus.closeSubscribers_of_open sound.distinct (sound.live (.inr closing))] at result
    cases result
    exact { listed with }
  | placed _ _ _ _ _ result | dropped _ _ _ _ _ result =>
    obtain ⟨-, rfl⟩ := Bus.place_ok result
    exact { listed with }
  | _ => exact { listed with }

end Listed

namespace Booked

theorem new (size : Nat) : Booked eventType (World.new size : World E) where
  queue := rfl
  wanted := List.forall_mem_nil _
  placed := List.forall_mem_nil _
  carries := fun _ => rfl
  once := List.forall_mem_nil _
  count := ⟨0, rfl, rfl⟩

variable {ch : Nat} {current : Dispatch E} {rest : List Nat}

section

variable (booked : Booked eventType w)
include booked

theorem placedIn_of_fresh (fresh : w.made ≤ ch) :
    placedIn ch w.history = [] := by
  simp only [placedIn, List.map_eq_nil_iff, List.filter_eq_nil_iff, decide_eq_true_eq]
  intro d dispatched placed
  have made := (booked.wanted d dispatched ch (booked.placed d dispatched ch placed)).1
  omega

theorem join (kind : Option String) (opts : List Int) (subscribers : List (String × Nat))
    (allSubs : List Nat) :
    Booked eventType (w.join kind { w.makeChan opts with subscribers, allSubs }) where
  queue := booked.queue
  wanted := by
    intro d dispatched ch registered
    obtain ⟨made, wanted⟩ := booked.wanted d dispatched ch registered
    have other : ch ≠ w.made := Nat.ne_of_lt made
    exact ⟨Nat.lt_succ_of_lt made, by simpa [World.join, Function.update_of_ne other] using wanted⟩
  placed := booked.placed
  carries := by
    intro ch
    have carried := booked.carries ch
    by_cases same : ch = w.made
    · have nothing : placedIn ch w.history = [] := booked.placedIn_of_fresh (same ▸ Nat.le_refl _)
      rw [nothing] at carried
      have unread : w.read ch = [] := (List.append_eq_nil_iff.mp carried).1
      refine Eq.trans ?_ nothing.symm
      simp [World.carried, World.join, Bus.makeChan, same, Chan.make]
      simpa [same] using unread
    · refine Eq.trans ?_ carried
      simp [World.carried, World.join, Bus.makeChan, Function.update_of_ne same]
  once := booked.once
  count := booked.count

theorem use (ch : Nat) (used : Chan E) (got : List E) (same : got ++ used.buf = w.carried ch)
    (subscribers : List (String × Nat)) (members : List Nat) :
    Booked eventType { w with
      subscribers, members
      chans := Function.update w.chans ch used
      read := Function.update w.read ch got } where
  -- Only what the channel carries has to be compared.
  queue := booked.queue
  wanted := booked.wanted
  placed := booked.placed
  carries := by
    intro other
    refine Eq.trans ?_ (booked.carries other)
    by_cases here : other = ch
    · subst here
      simpa [World.carried] using same
    · simp [World.carried, Function.update_of_ne here]
  once := booked.once
  count := booked.count

theorem place (fans : w.dispatcher = .fanning current (ch :: rest))
    (room : (w.chans ch).hasRoom = true) :
    Booked eventType { w with
      chans := Function.update w.chans ch ((w.chans ch).trySend current.event)
      dispatcher := .fanning { current with placed := current.placed ++ [ch] } rest } := by
  obtain ⟨queue, wanted, placed, carries, once, count⟩ := booked
  simp only [history, World.current, unserved, held, fans, List.forall_mem_append,
    List.forall_mem_singleton, List.nodup_cons, List.forall_mem_cons, placedIn_append,
    missedCount_append] at queue wanted placed carries once count
  obtain ⟨distinct, ⟨last, distinctRest⟩, ⟨registered, fresh⟩, served⟩ := once
  have missed := current.length_missed_place distinct registered fresh
  constructor <;>
    simp only [history, World.current, unserved, held, List.forall_mem_append,
      List.forall_mem_singleton, placedIn_append, missedCount_append]
  · simpa using queue
  · exact wanted
  · exact ⟨placed.1, placed.2, registered⟩
  · intro other
    have before := carries other
    by_cases same : other = ch
    · subst same
      have room : (w.chans other).buf.length < (w.chans other).cap := by
        simpa [Chan.hasRoom] using room
      simp only [fresh, if_false, List.append_nil, World.carried] at before
      simp [World.carried, Chan.trySend_buf, room, ← before]
    · simpa [World.carried, Function.update_of_ne same, same] using before
  · refine ⟨distinct, distinctRest, fun other left => ⟨(served other left).1, ?_⟩⟩
    rw [List.mem_append, List.mem_singleton]
    rintro (given | rfl)
    · exact (served other left).2 given
    · exact last left
  · obtain ⟨n, dropped, sum⟩ := count
    refine ⟨n, dropped, ?_⟩
    rw [List.length_cons] at sum
    omega

theorem drop (fans : w.dispatcher = .fanning current (ch :: rest))
    (full : (w.chans ch).hasRoom = false) :
    Booked eventType { w with
      chans := Function.update w.chans ch ((w.chans ch).trySend current.event)
      droppedCount := w.droppedCount + 1
      dispatcher := .fanning current rest } := by
  have same : (w.chans ch).trySend current.event = w.chans ch := by
    exact Chan.trySend_of_full full
  rw [same, Function.update_eq_self]
  obtain ⟨queue, wanted, placed, carries, once, count⟩ := booked
  simp only [history, World.current, unserved, held, fans, List.forall_mem_singleton,
    List.nodup_cons, List.forall_mem_cons] at queue wanted placed carries once count
  refine ⟨queue, wanted, placed, carries, ?_, ?_⟩
  · simp only [World.current, unserved, List.forall_mem_singleton]
    exact ⟨once.1, once.2.1.2, once.2.2.2⟩
  · obtain ⟨n, dropped, sum⟩ := count
    refine ⟨n + 1, by rw [dropped, UInt64.ofNat_add]; rfl, ?_⟩
    rw [List.length_cons] at sum
    simp only [unserved, history, World.current]
    omega

theorem advance (dispatcher : Dispatcher E)
    (dispatches : List (Dispatch E)) (inputCh : Chan E) (publishing enqueued : List E)
    (served : w.unserved = [])
    (after : let w' := { w with dispatcher, dispatches, inputCh, publishing, enqueued };
      w'.current = [] ∧ w'.unserved = [] ∧ w'.history = w.history ∧
        enqueued = w.history.map (·.event) ++ w'.held ++ inputCh.buf) :
    Booked eventType { w with dispatcher, dispatches, inputCh, publishing, enqueued } := by
  obtain ⟨idle, unserved, same, queue⟩ := after
  -- What was dispatched is the same.
  refine ⟨by rw [same]; exact queue, ?_, ?_, ?_, ?_, ?_⟩
  · rw [same]
    exact booked.wanted
  · rw [same]
    exact booked.placed
  · rw [same]
    exact booked.carries
  · rw [idle]
    exact List.forall_mem_nil _
  · rw [same, unserved, ← served]
    exact booked.count

theorem begin (listed : Listed w) (sound : Sound w) {e : E} (holds : w.dispatcher = .received e) :
    Booked eventType { w with
      dispatcher := .fanning ⟨e, w.matching eventType e, []⟩
        (w.subs (eventType e) ++ w.allSubs) } := by
  have all : (w.subs (eventType e) ++ w.allSubs).Perm (w.matching eventType e) :=
    listed.perm_matching sound e
  have distinct : (w.matching eventType e).Nodup := listed.distinct.filter _
  obtain ⟨queue, wanted, placed, carries, once, count⟩ := booked
  simp only [history, World.current, unserved, held, holds, List.append_nil]
    at queue wanted placed carries count
  constructor <;>
    simp only [history, World.current, unserved, held, List.forall_mem_append,
      List.forall_mem_singleton, placedIn_append, missedCount_append, List.not_mem_nil, if_false,
      List.append_nil, List.map_append, List.map_singleton]
  · exact queue
  · refine ⟨wanted, fun ch meant => ?_⟩
    obtain ⟨member, wants⟩ := List.mem_filter.mp meant
    exact ⟨sound.below ch (listed.mem_registered.mpr member), wants⟩
  · exact ⟨placed, fun _ given => given.elim⟩
  · exact carries
  · refine ⟨distinct, all.nodup_iff.mpr distinct, List.forall_mem_append.mp fun ch left => ?_⟩
    exact ⟨all.subset left, not_false⟩
  · obtain ⟨n, dropped, sum⟩ := count
    refine ⟨n, dropped, ?_⟩
    have missed :
        (⟨e, w.matching eventType e, []⟩ : Dispatch E).missed = w.matching eventType e := by
      simp [Dispatch.missed]
    rw [missed, all.length_eq, ← sum, List.length_nil, Nat.add_zero]

theorem move (listed : Listed w) (sound : Sound w) (live : w.closed = false)
    (calm : w'.panic = none) (other : a ≠ .close) (moved : Move eventType w a w') :
    Booked eventType w' := by
  have queue := booked.queue
  cases moved with
  | sent index e accepts room =>
    have room : w.inputCh.buf.length < w.inputCh.cap := by simpa [Chan.hasRoom] using room
    refine { booked with queue := ?_ }
    change w.enqueued ++ [e] = w.history.map (·.event) ++ w.held ++ (w.inputCh.trySend e).buf
    rw [Chan.trySend_buf, if_pos room, queue, List.append_assoc]
  | handed index e accepts unbuffered waits =>
    have empty : w.inputCh.buf = [] := by
      have fits := w.inputCh.fits
      rw [unbuffered] at fits
      exact List.eq_nil_of_length_eq_zero (Nat.le_zero.mp fits)
    refine booked.advance (.received e) w.dispatches w.inputCh _ _ (by simp [unserved, waits]) ?_
    simp [World.current, unserved, history, held, waits, empty, queue]
  | subscribed | subscribedAll => exact booked.join _ _ _ _
  | unsubscribed t ch b free result =>
    rcases Bus.unsubscribe_ok result with ⟨-, rfl⟩ | ⟨-, -, rfl⟩
    · exact { booked with }
    · have closed := booked.use ch (w.chans ch).close (w.read ch) rfl
        (w.subscribers.erase (t, ch)) (w.membersWithout t ch)
      rwa [Function.update_eq_self] at closed
  | received ch e rest got =>
    obtain ⟨waiting, rfl⟩ := Chan.recv_value got
    refine booked.use ch _ (w.read ch ++ [e]) ?_ w.subscribers w.members
    rw [World.carried, waiting, List.append_assoc]
    rfl
  | closedInput => exact absurd rfl other
  | closedSubscribers b closing ended result =>
    rw [sound.closing closing] at live
    cases live
  | dispatchEnds waits | inputEnds waits =>
    refine booked.advance .ended w.dispatches w.inputCh w.publishing w.enqueued
      (by simp [unserved, waits]) ?_
    simp [World.current, unserved, history, held, waits, queue]
  | dispatched e rest waits got =>
    obtain ⟨waiting, rfl⟩ := Chan.recv_value got
    refine booked.advance (.received e) w.dispatches _ w.publishing w.enqueued
      (by simp [unserved, waits]) ?_
    rw [waiting] at queue
    simp [World.current, unserved, history, held, waits, queue]
  | fanoutStarts e holds => exact booked.begin listed sound holds
  | placed current ch rest b fans result =>
    obtain ⟨room, rfl⟩ := Bus.place_ok result
    exact booked.place fans room.symm
  | dropped current ch rest b fans result =>
    obtain ⟨full, rfl⟩ := Bus.place_ok result
    exact booked.drop fans full.symm
  | fanoutEnds current fans =>
    refine booked.advance .waiting _ w.inputCh w.publishing w.enqueued
      (by simp [unserved, fans]) ?_
    simp [World.current, unserved, history, held, fans, queue]
  | sendPanics | unsubscribePanics | closePanics | closeSubscribersPanics | placePanics =>
    cases calm
  | _ => exact { booked with }

end

end Booked

structure Delivered (eventType : E → String) (w : World E) : Prop where
  ordered : w.history.map (·.event) <+: w.enqueued
  carries : ∀ ch, w.carried ch = placedIn ch w.history
  subsequence : ∀ ch, List.Sublist (w.carried ch)
    ((w.history.filter fun d => ch ∈ d.registered).map (·.event))
  wanted : ∀ d ∈ w.history, ∀ ch ∈ d.registered, wants eventType (w.kinds ch) d.event
  counted : w.Quiescent → w.droppedCount.toNat = missedCount w.history % 2 ^ 64

theorem Booked.delivered (booked : Booked eventType w) : Delivered eventType w where
  ordered := ⟨w.held ++ w.inputCh.buf, by rw [booked.queue, List.append_assoc]⟩
  carries := booked.carries
  subsequence := by
    intro ch
    have narrower : w.history.filter (fun d => ch ∈ d.placed) =
        (w.history.filter fun d => ch ∈ d.registered).filter fun d => ch ∈ d.placed := by
      rw [List.filter_filter]
      refine List.filter_congr fun d dispatched => ?_
      have meant := booked.placed d dispatched ch
      by_cases placed : ch ∈ d.placed
      · simp [placed, meant placed]
      · simp [placed]
    rw [booked.carries, placedIn, narrower]
    exact List.filter_sublist.map _
  wanted := fun d dispatched ch meant => (booked.wanted d dispatched ch meant).2
  counted := by
    intro quiescent
    obtain ⟨n, dropped, sum⟩ := booked.count
    rw [quiescent, List.length_nil, Nat.add_zero] at sum
    rw [dropped, sum, UInt64.toNat_ofNat']

theorem Move.closed_of_ne_close (moved : Move eventType w a w') (sound : Sound w)
    (live : w.closed = false) (other : a ≠ .close) : w'.closed = false := by
  cases moved with
  | unsubscribed t ch b free result =>
    rcases Bus.unsubscribe_ok result with ⟨-, rfl⟩ | ⟨-, -, rfl⟩ <;> exact live
  | closedInput | closePanics => exact absurd rfl other
  | closedSubscribers b closing ended result =>
    rw [sound.closing closing] at live
    cases live
  | placed current ch rest b fans result | dropped current ch rest b fans result =>
    obtain ⟨-, rfl⟩ := Bus.place_ok result
    exact live
  | _ => exact live

theorem booked_of_reach {size : Nat}
    (reached : Reach (step eventType) (fun _ a => a ≠ .close) (new size) w) :
    Sound w ∧ w.closed = false ∧ Listed w ∧ Booked eventType w := by
  refine reached.invariant (fun w => Sound w ∧ w.closed = false ∧ Listed w ∧ Booked eventType w)
    ⟨.new size, rfl, .new size, .new size⟩ ?_
  rintro w a w' ⟨sound, live, listed, booked⟩ other taken
  have moved := (step_move taken).2
  -- On an open bus every step is careful.
  have careful : Careful w a := by
    cases a with
    | select index case => cases case <;> first | exact live | exact trivial
    | unsubscribe t ch => simp [Careful, sound.early (.inl live)]
    | _ => exact trivial
  have sound' := sound.move careful moved
  exact ⟨sound', moved.closed_of_ne_close sound live other, listed.move sound moved,
    booked.move listed sound live sound'.calm other moved⟩

/--
Without `Close`, every subscriber carries a subsequence of the events that it asked for, in the
order in which they were enqueued, and the counter of drops is exact between two fanouts.
-/
theorem delivery_accounted (eventType : E → String) (size : Nat) (w : World E)
    (reached : Reach (step eventType) (fun _ a => a ≠ .close) (new size) w) :
    Delivered eventType w :=
  (booked_of_reach reached).2.2.2.delivered

def crowded : List (Action String) :=
  [.subscribe "started" [1], .subscribeAll [0], .publish "started", .select 0 .send,
    .dispatchNext, .fanout, .fanoutNext, .fanoutNext, .fanoutNext, .publish "started",
    .select 0 .send, .dispatchNext, .fanout, .fanoutNext, .fanoutNext, .fanoutNext]

def staysOpen : Action E → Bool
  | .close => false
  | _ => true

theorem ne_close_of_staysOpen (ok : staysOpen a = true) : a ≠ .close := by
  rintro rfl
  cases ok

/-- The subscriber with room for one event misses the second one, and this is counted. -/
theorem delivery_accounted_crowded :
    ∃ w, Reach (step id) (fun _ a => a ≠ .close) (new 1) w ∧ w.droppedCount = 1 ∧
      w.carried 0 = ["started"] ∧ Delivered id w := by
  obtain ⟨w, reached, dropped, carried⟩ := Reach.exists_of_accepted (fun _ a => staysOpen a)
    (fun _ _ => ne_close_of_staysOpen) (step id) (new 1) crowded
    (fun w => w.droppedCount = 1 ∧ w.carried 0 = ["started"]) (by decide +kernel)
  exact ⟨w, reached, dropped, carried, delivery_accounted id 1 w reached⟩

end World

end Falak.Events
