import Falak.Events.Bus
import Mathlib.Data.List.Nodup

/-! When the event bus sends on a closed channel or closes a channel twice. -/

namespace Falak.Events.World

variable {E : Type} {eventType : E → String} {w w' : World E} {a : Action E}

def Careful (w : World E) : Action E → Prop
  | .select _ .send => w.closed = false
  | .unsubscribe t ch => ch ∈ w.subs t → ch ∉ w.shut
  | _ => True

/-- What holds of the channels as long as every step is careful. -/
structure Sound (w : World E) : Prop where
  calm : w.panic = none
  input : w.inputCh.closed = w.closed
  below : ∀ ch ∈ w.registered, ch < w.made
  distinct : w.registered.Nodup
  shut_iff : ∀ ch ∈ w.registered, (w.chans ch).closed = true ↔ ch ∈ w.shut
  shut_below : ∀ ch ∈ w.shut, ch < w.made
  early : w.closed = false ∨ w.closing = true → w.shut = []
  afterwards : w.closed = true → w.closing = false → w.dispatcher = .ended
  closing : w.closing = true → w.closed = true
  fans : ∀ current rest, w.dispatcher = .fanning current rest → ∀ ch ∈ rest, ch ∈ w.registered

namespace Sound

theorem new (size : Nat) : Sound (World.new size : World E) where
  calm := rfl
  input := rfl
  below := List.forall_mem_nil _
  distinct := List.nodup_nil
  shut_iff := List.forall_mem_nil _
  shut_below := List.forall_mem_nil _
  early := fun _ => rfl
  afterwards := fun closed => by cases closed
  closing := fun closing => by cases closing
  fans := fun _ _ fans => by cases fans

theorem live (sound : Sound w) (early : w.closed = false ∨ w.closing = true) :
    ∀ ch ∈ w.registered, (w.chans ch).closed = false := by
  intro ch listed
  have open_iff := sound.shut_iff ch listed
  simpa [sound.early early] using open_iff

theorem early_of_dispatcher (sound : Sound w) (works : w.dispatcher ≠ .ended) :
    w.closed = false ∨ w.closing = true := by
  cases closed : w.closed with
  | false => exact .inl rfl
  | true =>
    cases closing : w.closing with
    | true => exact .inr rfl
    | false => exact absurd (sound.afterwards closed closing) works

theorem not_fanning (free : w.locked = false) (current : Dispatch E) (rest : List Nat) :
    w.dispatcher ≠ .fanning current rest := by
  intro fans
  simp [locked, fans] at free

theorem join (sound : Sound w) (free : w.locked = false) (kind : Option String) (opts : List Int)
    (subscribers : List (String × Nat)) (allSubs : List Nat)
    (grown : (subscribers.map Prod.snd ++ allSubs).Perm (w.made :: w.registered)) :
    Sound (w.join kind { w.makeChan opts with subscribers, allSubs }) := by
  have fresh : w.made ∉ w.registered := fun listed => Nat.lt_irrefl _ (sound.below _ listed)
  exact {
    calm := sound.calm
    input := sound.input
    below := by
      intro ch listed
      rcases List.mem_cons.mp (grown.subset listed) with rfl | old
      · exact Nat.lt_succ_self _
      · exact Nat.lt_succ_of_lt (sound.below ch old)
    distinct := grown.nodup_iff.mpr (List.nodup_cons.mpr ⟨fresh, sound.distinct⟩)
    shut_iff := by
      intro ch listed
      rcases List.mem_cons.mp (grown.subset listed) with rfl | old
      · have other : w.made ∉ w.shut := fun shut => Nat.lt_irrefl _ (sound.shut_below _ shut)
        simp [World.join, Bus.makeChan, Chan.make, other]
      · have other : ch ≠ w.made := ne_of_mem_of_not_mem old fresh
        simpa [World.join, Bus.makeChan, Function.update_of_ne other] using sound.shut_iff ch old
    shut_below := fun ch shut => Nat.lt_succ_of_lt (sound.shut_below ch shut)
    early := sound.early
    afterwards := sound.afterwards
    closing := sound.closing
    fans := fun current rest fans => absurd fans (not_fanning free current rest) }

theorem leave (sound : Sound w) (free : w.locked = false) {t : String} {ch : Nat}
    (listed : (t, ch) ∈ w.subscribers) (closed : Chan E) (members : List Nat) :
    Sound { w with
      subscribers := w.subscribers.erase (t, ch)
      chans := Function.update w.chans ch closed
      members } := by
  have split : w.registered.Perm
      (ch :: ((w.subscribers.erase (t, ch)).map Prod.snd ++ w.allSubs)) :=
    ((List.perm_cons_erase listed).map Prod.snd).append_right w.allSubs
  have distinct := List.nodup_cons.mp (split.nodup_iff.mp sound.distinct)
  have kept : ∀ other ∈ (w.subscribers.erase (t, ch)).map Prod.snd ++ w.allSubs,
      other ∈ w.registered :=
    fun other stays => split.symm.subset (List.mem_cons_of_mem _ stays)
  exact {
    calm := sound.calm
    input := sound.input
    below := fun other stays => sound.below other (kept other stays)
    distinct := distinct.2
    shut_iff := by
      intro other stays
      have differs : other ≠ ch := ne_of_mem_of_not_mem stays distinct.1
      simpa [Function.update_of_ne differs] using sound.shut_iff other (kept other stays)
    shut_below := sound.shut_below
    early := sound.early
    afterwards := sound.afterwards
    closing := sound.closing
    fans := fun current rest fans => absurd fans (not_fanning free current rest) }

theorem use (sound : Sound w) (ch : Nat) (used : Chan E) (same : used.closed = (w.chans ch).closed)
    (dispatcher : Dispatcher E) (droppedCount : UInt64) (read : Nat → List E)
    (works : dispatcher = .ended ↔ w.dispatcher = .ended)
    (fans : ∀ current rest, dispatcher = .fanning current rest → ∀ ch ∈ rest, ch ∈ w.registered) :
    Sound { w with
      chans := Function.update w.chans ch used
      droppedCount
      dispatcher
      read } where
  calm := sound.calm
  input := sound.input
  below := sound.below
  distinct := sound.distinct
  shut_iff := by
    intro other listed
    rw [← sound.shut_iff other listed]
    by_cases here : other = ch
    · subst here
      simp [same]
    · simp [Function.update_of_ne here]
  shut_below := sound.shut_below
  early := sound.early
  afterwards := fun closed closing => works.mpr (sound.afterwards closed closing)
  closing := sound.closing
  fans := fans

theorem move (sound : Sound w) (careful : Careful w a) (moved : Move eventType w a w') :
    Sound w' := by
  cases moved with
  | refused | drained | closedBefore => exact sound
  | admitted | left | cancelled => exact { sound with }
  | sent => exact { sound with input := by simpa using sound.input }
  | handed index e live unbuffered waits =>
    exact { sound with
      afterwards := fun closed => by simp [← sound.input, live] at closed
      fans := fun _ _ fans => by cases fans }
  | sendPanics index closed =>
    rw [sound.input, careful] at closed
    cases closed
  | subscribed t opts free =>
    refine sound.join free (some t) opts _ w.allSubs ?_
    simp [Bus.registered]
  | subscribedAll opts free =>
    refine sound.join free none opts w.subscribers _ ?_
    rw [← List.append_assoc]
    exact List.perm_append_singleton w.made w.registered
  | unsubscribed t ch b free result =>
    rcases Bus.unsubscribe_ok result with ⟨-, rfl⟩ | ⟨listed, -, rfl⟩
    · exact { sound with }
    · exact sound.leave free listed _ _
  | unsubscribePanics t ch p result =>
    obtain ⟨listed, closed⟩ := Bus.unsubscribe_error result
    have shut := (sound.shut_iff ch (Bus.mem_registered listed)).mp closed
    exact absurd shut (careful (Bus.mem_subs.mpr listed))
  | received ch e rest got =>
    obtain ⟨-, rfl⟩ := Chan.recv_value got
    exact sound.use ch _ (Chan.rest_closed _) w.dispatcher w.droppedCount _ Iff.rfl sound.fans
  | closedInput b live free result =>
    have early : w.shut = [] := sound.early (.inl live)
    rw [Bus.closeInput_of_open (sound.input.trans live)] at result
    cases result
    exact { sound with
      input := rfl
      early := fun _ => early
      afterwards := fun _ closing => by cases closing
      closing := fun _ => rfl }
  | closePanics p live result =>
    rw [Bus.closeInput_of_open (sound.input.trans live)] at result
    cases result
  | closedSubscribers b closing ended result =>
    rw [Bus.closeSubscribers_of_open sound.distinct (sound.live (.inr closing))] at result
    cases result
    exact { sound with
      shut_iff := fun ch listed => by
        have listed : ch ∈ w.registered := listed
        simp [listed]
      shut_below := sound.below
      early := fun early => by simp [sound.closing closing] at early
      afterwards := fun _ _ => ended
      closing := fun closing => by cases closing }
  | closeSubscribersPanics p closing result =>
    rw [Bus.closeSubscribers_of_open sound.distinct (sound.live (.inr closing))] at result
    cases result
  | dispatchEnds waits | inputEnds waits =>
    exact { sound with
      afterwards := fun _ _ => rfl
      fans := fun _ _ fans => by cases fans }
  | dispatched e rest waits got =>
    obtain ⟨-, rfl⟩ := Chan.recv_value got
    exact { sound with
      afterwards := fun closed closing => by
        cases waits.symm.trans (sound.afterwards closed closing)
      fans := fun _ _ fans => by cases fans }
  | fanoutStarts e holds =>
    exact { sound with
      afterwards := fun closed closing => by
        cases holds.symm.trans (sound.afterwards closed closing)
      fans := fun current rest fans ch listed => by
        cases fans
        rcases List.mem_append.mp listed with typed | all
        · exact Bus.mem_registered (Bus.mem_subs.mp typed)
        · exact List.mem_append_right _ all }
  | placed _ ch _ _ fans result | dropped _ ch _ _ fans result =>
    obtain ⟨-, rfl⟩ := Bus.place_ok result
    refine sound.use ch _ (Chan.trySend_closed _ _) _ _ w.read (by simp [fans]) ?_
    intro _ _ still other listed
    cases still
    exact sound.fans _ _ fans other (List.mem_cons_of_mem _ listed)
  | placePanics current ch rest p fans result =>
    have early := sound.early_of_dispatcher (by simp [fans])
    have live := sound.live early ch (sound.fans _ _ fans ch List.mem_cons_self)
    rw [Bus.place_error result] at live
    cases live
  | fanoutEnds current fans =>
    exact { sound with
      afterwards := fun closed closing => by cases fans.symm.trans (sound.afterwards closed closing)
      fans := fun _ _ fans => by cases fans }

end Sound

theorem panics_of_not_careful (sound : Sound w) (careless : ¬ Careful w a)
    (moved : Move eventType w a w') : w'.panic ≠ none := by
  cases moved with
  | sendPanics | unsubscribePanics | closePanics | closeSubscribersPanics | placePanics =>
    exact Option.some_ne_none _
  | sent _ _ live | handed _ _ live => exact absurd (sound.input.symm.trans live) careless
  | unsubscribed t ch b free result =>
    refine absurd (fun listed shut => ?_) careless
    have closed := (sound.shut_iff ch (Bus.mem_registered (Bus.mem_subs.mp listed))).mpr shut
    rw [Bus.unsubscribe_of_closed (Bus.mem_subs.mp listed) closed] at result
    cases result
  | left index case other =>
    cases case with
    | send => exact absurd rfl other
    | ctxDone | default => exact absurd trivial careless
  | _ => exact absurd trivial careless

theorem sound_of_careful {size : Nat} {actions : List (Action E)}
    (ran : Trace (step eventType) Careful (new size) actions w) : Sound w :=
  ran.reach.invariant Sound (Sound.new size)
    fun _ _ _ sound careful taken => sound.move careful (step_move taken).2

/--
A run of the bus neither sends on a closed channel nor closes one twice exactly if every step of
it stays clear of `Close`.
-/
theorem panic_free_iff (eventType : E → String) (size : Nat) (actions : List (Action E))
    (w : World E) (ran : Trace (step eventType) (fun _ _ => True) (new size) actions w) :
    w.panic = none ↔ Trace (step eventType) Careful (new size) actions w := by
  refine ⟨fun calm => ?_, fun careful => (sound_of_careful careful).calm⟩
  induction ran with
  | start => exact .start
  | @next s s' actions a before ok taken ih =>
    obtain ⟨calmBefore, moved⟩ := step_move taken
    have careful := ih calmBefore
    refine .next careful ?_ taken
    by_contra careless
    exact panics_of_not_careful (sound_of_careful careful) careless moved calm

def served : List (Action String) :=
  [.subscribe "started" [], .publish "started", .select 0 .send, .dispatchNext, .fanout,
    .fanoutNext, .fanoutNext, .receive 0, .unsubscribe "started" 0, .close]

/-- Nothing panics while the subscribers leave and the publishers finish before the end. -/
theorem panic_free_iff_served :
    ∃ w, Trace (step id) Careful (new 1) served w := by
  obtain ⟨w, ran, calm⟩ := Trace.exists_of_actions (step id) (new 1) served
    (fun w => w.panic = none) (by decide +kernel)
  exact ⟨w, (panic_free_iff id 1 served w ran).mp calm⟩

/--
A publisher that finds the bus open sends after `Close` has closed the input channel.
A subscriber that leaves after `Close`, once and with its own channel, closes it again.
-/
theorem close_races :
    (∃ w, Trace (step id) (fun _ _ => True) (new 1)
        [.publish "started", .close, .select 0 .send] w ∧ w.panic = some .sendOnClosed) ∧
      ∃ w, Trace (step id) (fun _ _ => True) (new 1)
        [.subscribe "started" [], .close, .dispatchDone, .closeSubscribers,
          .unsubscribe "started" 0] w ∧ w.panic = some .closeOfClosed := by
  exact ⟨Trace.exists_of_actions _ _ _ _ (by decide +kernel),
    Trace.exists_of_actions _ _ _ _ (by decide +kernel)⟩

end Falak.Events.World
