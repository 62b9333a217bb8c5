import Falak.Node.RuntimeStore

/-!
The container runtime as the handler sees it, with the semantics of its mock.

Every call is given the error that is injected into it, if there is one.
-/

namespace Falak.Runtime

open Node (RuntimeSpec RuntimeNetworkMode ResourceLimits)

inductive ContainerStatus
  | created
  | running
  | stopped
  | checkpointed
  | failed
  deriving DecidableEq

def ContainerStatus.text : ContainerStatus → String
  | .created => "created"
  | .running => "running"
  | .stopped => "stopped"
  | .checkpointed => "checkpointed"
  | .failed => "failed"

structure PullConfig where
  username : Bytes := []
  password : Bytes := []
  forcePull : Bool := false
  deriving DecidableEq

structure CreateConfig where
  networkMode : RuntimeNetworkMode := .bridge
  ports : List Capsule.PortMapping := []
  resources : ResourceLimits := ⟨0, 0, 0, 0⟩
  env : Capsule.Labels := ∅
  labels : Capsule.Labels := ∅
  workingDir : String := ""
  command : List String := []
  logRetention : Capsule.LogRetention := ⟨10, 10⟩

abbrev CreateOption := CreateConfig → CreateConfig

def withNetworkMode (mode : RuntimeNetworkMode) : CreateOption := ({ · with networkMode := mode })

def withPortMappings (ports : List Capsule.PortMapping) : CreateOption :=
  ({ · with ports := ports })

def withResourceLimits (limits : ResourceLimits) : CreateOption := ({ · with resources := limits })

def withEnv (env : Capsule.Labels) : CreateOption := ({ · with env := env })

def withCommand (command : List String) : CreateOption := ({ · with command := command })

def withLogRetention (retention : Capsule.LogRetention) : CreateOption :=
  ({ · with logRetention := retention })

def applyCreateOptions (opts : List CreateOption) : CreateConfig :=
  opts.foldl (fun c opt => opt c) {}

structure Container where
  image : String
  config : Option CreateConfig
  status : ContainerStatus
  exitCode : Int

abbrev Slot := Option Container

namespace Slot

variable (fault : Option String) (id : String)

def notFound : String := "mock: container " ++ id ++ " not found"

def onContainer (change : Container → Except String Slot) (slot : Slot) : Except String Slot :=
  match fault, slot with
  | some err, _ => .error err
  | none, none => .error (notFound id)
  | none, some c => change c

def create (image : String) (config : CreateConfig) (slot : Slot) : Except String Slot :=
  match fault, slot with
  | some err, _ => .error err
  | none, some _ => .error ("mock: container " ++ id ++ " already exists")
  | none, none => .ok (some ⟨image, some config, .created, 0⟩)

/-- Start a container, whatever its state is. -/
def start : Slot → Except String Slot :=
  onContainer fault id fun c => .ok (some { c with status := .running })

def stop : Slot → Except String Slot :=
  onContainer fault id fun c => .ok (some { c with status := .stopped, exitCode := 0 })

def remove : Slot → Except String Slot := onContainer fault id fun _ => .ok none

def checkpoint : Slot → Except String Slot :=
  onContainer fault id fun c =>
    if c.status = .running then .ok (some { c with status := .checkpointed })
    else .error ("mock: container " ++ id ++ " is not running (status: " ++ c.status.text ++ ")")

def restore (_ : Slot) : Except String Slot :=
  match fault with
  | some err => .error err
  | none => .ok (some ⟨"", none, .running, 0⟩)

def inspect (slot : Slot) : Except String Container :=
  match fault, slot with
  | some err, _ => .error err
  | none, none => .error (notFound id)
  | none, some c => .ok c

def Runs (slot : Slot) : Prop := ∃ c, slot = some c ∧ c.status = .running

instance (slot : Slot) : Decidable slot.Runs :=
  match slot with
  | none => .isFalse fun ⟨_, there, _⟩ => nomatch there
  | some c => decidable_of_iff (c.status = .running) ⟨fun status => ⟨c, rfl, status⟩,
      fun ⟨_, same, status⟩ => Option.some.inj same ▸ status⟩

end Slot

structure Engine where
  containers : String → Slot
  pulled : List (String × PullConfig)

namespace Engine

variable (e : Engine) (id : String)

def put (slot : Slot) : Engine :=
  { e with containers := Function.update e.containers id slot }

def call (change : Slot → Except String Slot) : Except String Engine :=
  (change (e.containers id)).map (e.put id)

def tryCall (change : Slot → Except String Slot) : Engine :=
  (e.call id change).toOption.getD e

def pull (fault : Option String) (image : String) (config : PullConfig) :
    Except String Engine :=
  match fault with
  | some err => .error err
  | none => .ok { e with pulled := (image, config) :: e.pulled }

section Laws

variable {e : Engine} {id other : String} {slot slot' : Slot} {change : Slot → Except String Slot}

@[simp] theorem containers_put_self : (e.put id slot).containers id = slot :=
  Function.update_self ..

theorem containers_put_of_ne (apart : other ≠ id) :
    (e.put id slot).containers other = e.containers other := Function.update_of_ne apart ..

@[simp] theorem put_put : (e.put id slot).put id slot' = e.put id slot' := by
  simp [put, Function.update_idem]

theorem call_ok (made : change (e.containers id) = .ok slot) :
    e.call id change = .ok (e.put id slot) := by
  rw [call, made]
  rfl

theorem call_put_ok (made : change slot = .ok slot') :
    (e.put id slot).call id change = .ok (e.put id slot') := by
  rw [call, containers_put_self, made]
  simp [Except.map]

theorem call_error {err : String} (refused : change (e.containers id) = .error err) :
    e.call id change = .error err := by
  rw [call, refused]
  rfl

theorem tryCall_eq :
    e.tryCall id change
      = e.put id ((change (e.containers id)).toOption.getD (e.containers id)) := by
  unfold tryCall
  cases made : change (e.containers id) with
  | error err =>
    rw [call_error made]
    simp [put, Except.toOption]
  | ok slot =>
    rw [call_ok made]
    rfl

end Laws

end Engine

end Falak.Runtime
