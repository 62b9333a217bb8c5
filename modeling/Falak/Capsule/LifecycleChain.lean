import Falak.Capsule.Lifecycle
import Falak.Lib.Reach

/-!
Concurrent calls of `Fire` on one lifecycle.

A call notes the state and its trigger under the lock, releases the lock, and then asks the machine.
The entry action reports what was noted last, by whichever call.
-/

namespace Falak.Capsule

namespace Lifecycle

def enter (l : Lifecycle) (id : CapsuleID) (trigger : Trigger) :
    Option (Lifecycle × LifecycleEvent) :=
  (permit l.state trigger).attach.map fun target =>
    ({ l with state := target.1, known := valid_of_permit target.2 },
      ⟨id, l.prevState, target.1, l.lastTrigger⟩)

theorem enter_eq_some {l l' : Lifecycle} {id : CapsuleID} {trigger : Trigger}
    {event : LifecycleEvent} (entered : l.enter id trigger = some (l', event)) :
    permit l.state trigger = some l'.state ∧
      event = ⟨id, l.prevState, l'.state, l.lastTrigger⟩ := by
  obtain ⟨target, -, made⟩ := Option.map_eq_some_iff.mp entered
  cases made
  exact ⟨target.2, rfl⟩

theorem fire_eq_enter (l : Lifecycle) (id : CapsuleID) (trigger : Trigger) :
    (l.fire id trigger).1
        = (((l.note trigger).enter id trigger).map Prod.fst).getD (l.note trigger) ∧
      (l.fire id trigger).2.toOption = ((l.note trigger).enter id trigger).map Prod.snd := by
  -- Both ask the same table, in the same state.
  unfold fire
  split
  · rename_i target permitted
    have entered : (l.note trigger).enter id trigger
        = some (⟨target, l.state, trigger, valid_of_permit permitted⟩,
          ⟨id, l.state, target, trigger⟩) :=
      Option.map_eq_some_iff.mpr
        ⟨⟨target, permitted⟩, Option.attach_eq_some_iff.mpr permitted, rfl⟩
    rw [entered]
    exact ⟨rfl, rfl⟩
  · rename_i forbidden
    have refused : (l.note trigger).enter id trigger = none :=
      Option.map_eq_none_iff.mpr (Option.attach_eq_none_iff.mpr forbidden)
    rw [refused]
    exact ⟨rfl, rfl⟩

end Lifecycle

structure Fired where
  event : LifecycleEvent
  cause : Trigger
  deriving DecidableEq

structure Firings where
  lifecycle : Lifecycle
  pending : List Trigger := []
  fired : List Fired := []
  /-- Every transition so far found what its own call had noted. -/
  undisturbed : Bool := true

inductive FireStep
  | note (trigger : Trigger)
  | enter (call : Nat)

def Path (initial : CapsuleStatus) : List Fired → Prop
  | [] => True
  | f :: earlier =>
    f.event.source = (earlier.head?.map fun g => g.event.target).getD initial ∧
      f.event.trigger = f.cause ∧ permit f.event.source f.cause = some f.event.target ∧
      Path initial earlier

instance Path.decidable (initial : CapsuleStatus) :
    (fired : List Fired) → Decidable (Path initial fired)
  | [] => .isTrue trivial
  | _ :: earlier =>
    have := Path.decidable initial earlier
    inferInstanceAs (Decidable (_ ∧ _ ∧ _ ∧ _))

namespace Firings

variable {id : CapsuleID} {initial : CapsuleStatus}

def start (initial : CapsuleStatus) : Firings := { lifecycle := .new initial }

def step (id : CapsuleID) (s : Firings) : FireStep → Option Firings
  | .note trigger =>
    some { s with lifecycle := s.lifecycle.note trigger, pending := s.pending ++ [trigger] }
  | .enter call =>
    (s.pending[call]?).map fun trigger =>
      match s.lifecycle.enter id trigger with
      | none => { s with pending := s.pending.eraseIdx call }
      | some (l, event) =>
        { lifecycle := l
          pending := s.pending.eraseIdx call
          fired := ⟨event, trigger⟩ :: s.fired
          undisturbed := s.undisturbed &&
            (s.lifecycle.prevState = s.lifecycle.state && s.lifecycle.lastTrigger = trigger) }

def Traced (initial : CapsuleStatus) (s : Firings) : Prop :=
  s.lifecycle.state
      = (s.fired.head?.map fun f => f.event.target).getD (Lifecycle.new initial).state ∧
    (Path (Lifecycle.new initial).state s.fired ↔ s.undisturbed = true)

theorem Traced.step {s s' : Firings} {a : FireStep} (traced : Traced initial s)
    (taken : s.step id a = some s') : Traced initial s' := by
  obtain ⟨here, path⟩ := traced
  cases a with
  | note trigger =>
    cases taken
    exact ⟨here, path⟩
  | enter call =>
    obtain ⟨trigger, -, rfl⟩ := Option.map_eq_some_iff.mp taken
    split
    · exact ⟨here, path⟩
    · rename_i l event entered
      obtain ⟨permitted, rfl⟩ := Lifecycle.enter_eq_some entered
      refine ⟨rfl, ?_⟩
      simp only [Path, ← here, path, Bool.and_eq_true, decide_eq_true_eq]
      constructor
      · exact fun ⟨source, cause, _, before⟩ => ⟨before, source, cause⟩
      · exact fun ⟨before, source, cause⟩ => ⟨source, cause, source ▸ permitted, before⟩

end Firings

end Falak.Capsule
