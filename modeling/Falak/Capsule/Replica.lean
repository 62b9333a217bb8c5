import Falak.Lib.Clock
import Mathlib.Data.String.Basic

/-! The replica slots of a capsule and the record of which node hosts each of them. -/

namespace Falak.Capsule

/-- A lifecycle state of a capsule, or a text that names none. -/
inductive CapsuleStatus
  | created
  | announced
  | electing
  | assigned
  | executing
  | running
  | stopping
  | stopped
  | unknown (text : String)
  deriving DecidableEq, Repr

structure ReplicaState where
  replicaID : String
  nodeID : String
  status : CapsuleStatus
  startedAt : Int
  deriving DecidableEq, Repr

def assignReplica (replicaID nodeID : String) (now : Int) : List ReplicaState → List ReplicaState
  | [] => [⟨replicaID, nodeID, .assigned, now⟩]
  | r :: rest =>
    if r.replicaID = replicaID then
      { r with nodeID := nodeID, status := .assigned, startedAt := now } :: rest
    else r :: assignReplica replicaID nodeID now rest

def hostOf (replicaID : String) (replicas : List ReplicaState) : Option String :=
  (replicas.find? fun r => r.replicaID = replicaID).map ReplicaState.nodeID

theorem hostOf_assignReplica (replicaID nodeID : String) (now : Int)
    (replicas : List ReplicaState) :
    hostOf replicaID (assignReplica replicaID nodeID now replicas) = some nodeID := by
  induction replicas with
  | nil => simp [assignReplica, hostOf]
  | cons r rest ih =>
    by_cases same : r.replicaID = replicaID
    · simp [assignReplica, hostOf, same]
    · simpa [assignReplica, hostOf, same] using ih

theorem map_assignReplica (replicaID nodeID : String) (now : Int) (replicas : List ReplicaState) :
    (assignReplica replicaID nodeID now replicas).map ReplicaState.replicaID
      = if replicaID ∈ replicas.map ReplicaState.replicaID then replicas.map ReplicaState.replicaID
        else replicas.map ReplicaState.replicaID ++ [replicaID] := by
  induction replicas with
  | nil => simp [assignReplica]
  | cons r rest ih =>
    by_cases same : r.replicaID = replicaID
    · simp [assignReplica, same]
    · have other : ¬ replicaID = r.replicaID := fun equal => same equal.symm
      simp only [assignReplica, same, if_false, List.map_cons, ih, List.mem_cons, other, false_or]
      split <;> rfl

end Falak.Capsule
