import Falak.Capsule.Types

/-! The state machine of one capsule: which trigger leads from which state to which. -/

namespace Falak.Capsule

/-- What drives a lifecycle, or a text that drives none. -/
inductive Trigger
  | announce
  | electionStarted
  | electionWon
  | electionTimeout
  | executionStart
  | executionFailed
  | containerReady
  | stopRequested
  | containerStopped
  | nodeFailed
  | scaleUpNeeded
  | scaleDownNeeded
  | unknown (text : String)
  deriving DecidableEq, Repr

instance : Named Trigger where
  text
    | .announce => "announce"
    | .electionStarted => "election_started"
    | .electionWon => "election_won"
    | .electionTimeout => "election_timeout"
    | .executionStart => "execution_started"
    | .executionFailed => "execution_failed"
    | .containerReady => "container_ready"
    | .stopRequested => "stop_requested"
    | .containerStopped => "container_stopped"
    | .nodeFailed => "node_failed"
    | .scaleUpNeeded => "scale_up_needed"
    | .scaleDownNeeded => "scale_down_needed"
    | .unknown text => text
  known := [.announce, .electionStarted, .electionWon, .electionTimeout, .executionStart,
    .executionFailed, .containerReady, .stopRequested, .containerStopped, .nodeFailed,
    .scaleUpNeeded, .scaleDownNeeded]
  unknown := .unknown
  text_unknown _ := rfl
  distinct := by decide

def permit : CapsuleStatus → Trigger → Option CapsuleStatus
  | .created, .announce => some .announced
  | .announced, .electionStarted => some .electing
  | .electing, .electionWon => some .assigned
  | .electing, .electionTimeout => some .announced
  | .assigned, .executionStart => some .executing
  | .assigned, .executionFailed => some .announced
  | .executing, .containerReady => some .running
  | .executing, .executionFailed => some .announced
  | .running, .stopRequested => some .stopping
  | .running, .nodeFailed => some .announced
  | .running, .scaleUpNeeded => some .announced
  | .running, .scaleDownNeeded => some .stopping
  | .stopping, .containerStopped => some .stopped
  | .stopped, .announce => some .announced
  | _, _ => none

theorem valid_of_permit {source target : CapsuleStatus} {trigger : Trigger}
    (permitted : permit source trigger = some target) : target.valid = true := by
  unfold permit at permitted
  split at permitted <;> cases permitted <;> rfl

structure Lifecycle where
  state : CapsuleStatus
  prevState : CapsuleStatus
  lastTrigger : Trigger
  /-- No machine stands at a text that names no state. -/
  known : state.valid = true

structure LifecycleEvent where
  capsuleID : CapsuleID
  source : CapsuleStatus
  target : CapsuleStatus
  trigger : Trigger
  deriving DecidableEq

namespace Lifecycle

def new (initial : CapsuleStatus) : Lifecycle :=
  { state := if initial.valid then initial else .created
    prevState := initial
    lastTrigger := .unknown ""
    known := by
      split
      · assumption
      · rfl }

@[simp] theorem new_state {initial : CapsuleStatus} (valid : initial.valid = true) :
    (new initial).state = initial := by
  simp [new, valid]

/-- What `Fire` records before it asks the machine. -/
def note (l : Lifecycle) (trigger : Trigger) : Lifecycle :=
  { l with prevState := l.state, lastTrigger := trigger }

@[simp] theorem note_state (l : Lifecycle) (trigger : Trigger) : (l.note trigger).state = l.state :=
  rfl

def unpermitted (state : CapsuleStatus) (trigger : Trigger) : String :=
  "stateless: no valid leaving transitions are permitted from state '" ++ Named.text state ++
    "' for trigger '" ++ Named.text trigger ++ "', consider ignoring the trigger"

def fire (l : Lifecycle) (id : CapsuleID) (trigger : Trigger) :
    Lifecycle × Except String LifecycleEvent :=
  match permitted : permit l.state trigger with
  | some target =>
    ({ state := target
       prevState := l.state
       lastTrigger := trigger
       known := valid_of_permit permitted }, .ok ⟨id, l.state, target, trigger⟩)
  | none =>
    (l.note trigger, .error ("lifecycle transition failed: trigger=" ++ Named.text trigger ++
      ", err=" ++ unpermitted l.state trigger))

theorem fire_of_permit {l : Lifecycle} (id : CapsuleID) {trigger : Trigger} {target : CapsuleStatus}
    (permitted : permit l.state trigger = some target) :
    (l.fire id trigger).1.state = target ∧
      (l.fire id trigger).2 = .ok ⟨id, l.state, target, trigger⟩ := by
  unfold fire
  split
  · rename_i other found
    rw [permitted] at found
    cases found
    exact ⟨rfl, rfl⟩
  · rename_i none
    rw [permitted] at none
    cases none

theorem fire_of_forbidden {l : Lifecycle} (id : CapsuleID) {trigger : Trigger}
    (forbidden : permit l.state trigger = none) :
    (l.fire id trigger).1 = l.note trigger ∧ ∃ err, (l.fire id trigger).2 = .error err := by
  unfold fire
  split
  · rename_i target found
    rw [forbidden] at found
    cases found
  · exact ⟨rfl, _, rfl⟩

end Lifecycle

end Falak.Capsule
