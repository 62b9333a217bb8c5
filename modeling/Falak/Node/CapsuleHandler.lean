import Falak.Capsule.Manager
import Falak.Election.Delay
import Falak.Lib.Scan
import Falak.Node.Events
import Falak.Wire.CapsuleProto

/-!
The capsule handler of a node: what it does when the capsule manager, the bus, the orbit or the
scaling monitor reports something.
-/

namespace Falak.Node

variable (announcers : Announcers) (m : Manager) (now : Int) (c : Capsule)

open Falak.Capsule
open Falak.Election (replicaSlotID)

def priorityInitial : Int := 50

def priorityScaleUp : Int := 60

def priorityNodeFailure : Int := 100

inductive Effect
  | publish (event : BusEvent)
  | announce (c : Wire.CapsulePb)
  | withdraw (orbit : String) (capsuleID : CapsuleID) (reason : String)
  | registerScaling (capsuleID : CapsuleID) (rules : List ScalingRule)
  | unregisterScaling (capsuleID : CapsuleID)
  | forgetCapsule (capsuleID : CapsuleID)

abbrev Announcers := String → Option (Except String Unit)

def requestElection (req : ElectionRequested) : Effect := .publish (.electionRequested req)

def requests (effects : List Effect) : List ElectionRequested :=
  effects.filterMap fun
    | .publish (.electionRequested req) => some req
    | _ => none

def initialReplicaCount (r : ReplicaConfig) : Int :=
  if r.exact > 0 then r.exact else if r.min > 0 then r.min else 1

def initialRequest (i : Int) : ElectionRequested :=
  { capsuleID := c.id
    replicaID := replicaSlotID i
    reason := .initial
    clusterPath := c.clusterID
    previousNodeID := ""
    priority := priorityInitial }

def requestInitialElections : List Effect :=
  (List.range (initialReplicaCount c.spec.replicas).toNat).map fun i : Nat =>
    requestElection (initialRequest c i)

def parseReplicaSlot (id : String) : Int := (scanInt id).getD (-1)

def highestSlot (replicas : List ReplicaState) : Int :=
  replicas.foldl (fun highest r => max highest (parseReplicaSlot r.replicaID)) (-1)

def nextReplicaSlot : String := replicaSlotID (int32 (highestSlot c.replicas + 1))

def announceCapsule : List Effect :=
  match announcers c.clusterID with
  | none => []
  | some (.error _) => [.announce (Wire.capsuleToProto c)]
  | some (.ok ()) =>
    [.announce (Wire.capsuleToProto c),
      .publish (.capsuleAnnounced c.id c.spec.name c.spec.orbit c.clusterID)]

def withdrawCapsule (reason : String) : List Effect :=
  match announcers c.clusterID with
  | none => []
  | some _ => [.withdraw c.spec.orbit c.id reason]

def registerScaling : List Effect :=
  if c.spec.scalingRules.isEmpty then [] else [.registerScaling c.id c.spec.scalingRules]

def onManagerEvent (event : ManagerEvent) : List Effect :=
  let c := event.capsule
  match event.type with
  | .created =>
    [.publish (.capsuleCreated event.capsuleID c.spec.name c.spec.orbit c.clusterID)] ++
      announceCapsule announcers c ++ requestInitialElections c
  | .updated =>
    [.publish (.capsuleUpdated event.capsuleID c.spec.name c.clusterID)] ++
      announceCapsule announcers c
  -- Whether the capsule was known before is not asked.
  | .received =>
    [.publish (.capsuleReceived event.capsuleID c.spec.name c.spec.orbit c.clusterID)] ++
      registerScaling c ++ requestInitialElections c
  | .deleted =>
    [.publish (.capsuleWithdrawn event.capsuleID c.clusterID "deleted")] ++
      withdrawCapsule announcers c "deleted" ++
      [.unregisterScaling event.capsuleID, .forgetCapsule event.capsuleID]
  | _ => []

inductive OrbitPayload
  | announcement (c : Option Wire.CapsulePb)
  | status (capsuleID : CapsuleID) (status : String)
  | withdrawal (capsuleID : CapsuleID)

/-- The call of the manager that a message of an orbit leads to. -/
def orbitCall (fault : Option String) : OrbitPayload → Call Unit
  -- An announcement without a capsule is dropped.
  | .announcement none => ⟨m, [], .ok ()⟩
  | .announcement (some pb) => m.receive now fault (Wire.protoToCapsule pb)
  | .status id status => m.syncStatus now fault id (Named.ofText status)
  | .withdrawal id => m.delete now fault id

def onOrbitMessage (fault : Option String) (clusterPath : String)
    (message : Except String OrbitPayload) : Manager × List Effect :=
  match announcers clusterPath, message with
  | some _, .ok payload =>
    let call := orbitCall m now fault payload
    (call.manager, call.events.flatMap (onManagerEvent announcers))
  | _, _ => (m, [])

def orphanRequest (failed : NodeFailed) (c : Capsule) (r : ReplicaState) : ElectionRequested :=
  { capsuleID := c.id
    replicaID := r.replicaID
    reason := .nodeFailure
    clusterPath := failed.clusterPath
    previousNodeID := failed.nodeID
    priority := priorityNodeFailure }

def onNodeFailed (failed : NodeFailed) : List Effect :=
  -- The loop goes over the capsules of all clusters.
  m.list.flatMap fun c =>
    (c.replicas.filter fun r => r.nodeID = failed.nodeID).map fun r =>
      requestElection (orphanRequest failed c r)

def crashRequest (r : ReplicaState) : ElectionRequested :=
  { capsuleID := c.id
    replicaID := r.replicaID
    reason := .nodeFailure
    clusterPath := c.clusterID
    previousNodeID := ""
    priority := priorityNodeFailure }

def handleContainerCrash (nodeID : String) (m : Manager) (failed : CapsuleExecutionFailed) :
    List Effect :=
  match m.get failed.capsuleID with
  | none => []
  | some c =>
    (c.replicas.filter fun r => r.nodeID = nodeID).map fun r =>
      requestElection { crashRequest c r with capsuleID := failed.capsuleID }

def handleElectionWon (fault : Option String) (won : ElectionWon) :
    Manager :=
  (m.assignReplica now fault won.capsuleID won.replicaID won.nodeID).manager

def handleElectionLost (fault assignFault : Option String) (lost : ElectionLost) : Manager :=
  let m := (m.syncStatus now fault lost.capsuleID .assigned).manager
  if lost.winnerNodeID ≠ "" then
    (m.assignReplica now assignFault lost.capsuleID lost.replicaID lost.winnerNodeID).manager
  else m

/-- Take a capsule back to `announced` after a failed election. -/
def handleElectionFailed (fault : Option String) (failed : ElectionFailed) : Manager :=
  (m.syncStatus now fault failed.capsuleID .announced).manager

def scaleUpRequest (event : ScaleEvent) (c : Capsule) : ElectionRequested :=
  { capsuleID := event.capsuleID
    replicaID := nextReplicaSlot c
    reason := .scaleUp
    clusterPath := c.clusterID
    previousNodeID := ""
    priority := priorityScaleUp }

def onScaleEvent (event : ScaleEvent) : List Effect :=
  let c := m.get event.capsuleID
  let clusterPath := (c.map Capsule.clusterID).getD ""
  match event.action with
  | .scaleUp =>
    [.publish (.scaleUpNeeded event.capsuleID event.ruleName clusterPath)] ++
      (c.map fun c => requestElection (scaleUpRequest event c)).toList
  | .scaleDown => [.publish (.scaleDownNeeded event.capsuleID event.ruleName clusterPath)]
  | .scaleToZero => [.publish (.scaleToZero event.capsuleID event.ruleName clusterPath)]
  | .unknown _ => []

@[simp] theorem requests_append (a b : List Effect) :
    requests (a ++ b) = requests a ++ requests b :=
  List.filterMap_append

@[simp] theorem requests_flatMap {α : Type} (f : α → List Effect) (xs : List α) :
    requests (xs.flatMap f) = xs.flatMap fun x => requests (f x) := by
  induction xs with
  | nil => rfl
  | cons x xs ih => simp [ih]

@[simp] theorem requests_map_requestElection {α : Type} (f : α → ElectionRequested) (xs : List α) :
    requests (xs.map fun x => requestElection (f x)) = xs.map f := by
  induction xs with
  | nil => rfl
  | cons x xs ih => exact congrArg (f x :: ·) ih

theorem requests_requestInitialElections :
    requests (requestInitialElections c)
      = (List.range (initialReplicaCount c.spec.replicas).toNat).map fun i : Nat =>
          initialRequest c i :=
  requests_map_requestElection _ _

theorem mem_requests_initial {c : Capsule} {req : ElectionRequested} :
    req ∈ requests (requestInitialElections c) ↔
      ∃ i : Nat, i < initialReplicaCount c.spec.replicas ∧ req = initialRequest c i := by
  simp only [requests_requestInitialElections, List.mem_map, List.mem_range, Int.lt_toNat, eq_comm]

theorem initialReplicaCount_pos (r : ReplicaConfig) : 0 < initialReplicaCount r := by
  unfold initialReplicaCount
  split
  · assumption
  · split
    · assumption
    · decide

theorem requests_initial_cons :
    ∃ rest, requests (requestInitialElections c) = initialRequest c 0 :: rest := by
  have positive := initialReplicaCount_pos c.spec.replicas
  obtain ⟨k, more⟩ : ∃ k, (initialReplicaCount c.spec.replicas).toNat = k + 1 :=
    Nat.exists_eq_add_one.mpr (by omega)
  rw [requests_requestInitialElections, more, List.range_succ_eq_map, List.map_cons]
  exact ⟨_, rfl⟩

theorem mem_announceCapsule {announcers : Announcers} {c : Capsule} {pb : Wire.CapsulePb} :
    .announce pb ∈ announceCapsule announcers c ↔
      announcers c.clusterID ≠ none ∧ pb = Wire.capsuleToProto c := by
  unfold announceCapsule
  split <;> simp_all

@[simp] theorem requests_announceCapsule :
    requests (announceCapsule announcers c) = [] := by
  unfold announceCapsule
  split <;> rfl

@[simp] theorem requests_registerScaling : requests (registerScaling c) = [] := by
  unfold registerScaling
  split <;> rfl

theorem requests_onManagerEvent (event : ManagerEvent)
    (fresh : event.type = .created ∨ event.type = .received) :
    requests (onManagerEvent announcers event)
      = requests (requestInitialElections event.capsule) := by
  rcases fresh with created | received
  · simp only [onManagerEvent, created, requests_append, requests_announceCapsule]
    rfl
  · simp only [onManagerEvent, received, requests_append, requests_registerScaling]
    rfl

end Falak.Node
