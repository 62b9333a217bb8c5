import Falak.Capsule.ManagerLaws
import Falak.Election.Manager
import Falak.Node.CapsuleHandler

/-! The election handler of a node: how a requested election reaches the two managers. -/

namespace Falak.Node

open Falak.Capsule (CapsuleID)

structure Managers where
  elections : Election.Manager
  capsules : Capsule.Manager

structure Dispatched where
  managers : Managers
  started : Option (Except String Unit)

def toRequest (ev : ElectionRequested) : Election.Request :=
  ⟨ev.capsuleID, ev.replicaID, ev.clusterPath⟩

def dispatch (n : Managers) (now : Int) (fault : Option String) (around : Election.Surroundings)
    (ev : ElectionRequested) : Dispatched :=
  let req := toRequest ev
  match n.elections.handleRequest req
      { around with found := (n.capsules.get ev.capsuleID).isSome } with
  | .error _ => ⟨n, none⟩
  | .ok elections =>
    if (n.elections.inflight req.key).isSome then ⟨n, none⟩
    else
      let call := n.capsules.startElection now fault ev.capsuleID
      ⟨⟨elections, call.manager⟩, some call.result⟩

def dispatchAll (n : Managers) (now : Int) (fault : Option String)
    (around : Election.Surroundings) : List ElectionRequested → Managers × List (Except String Unit)
  | [] => (n, [])
  | ev :: rest =>
    let d := dispatch n now fault around ev
    let more := dispatchAll d.managers now fault around rest
    (more.1, d.started.toList ++ more.2)

@[simp] theorem dispatchAll_nil (n : Managers) (now : Int) (fault : Option String)
    (around : Election.Surroundings) : dispatchAll n now fault around [] = (n, []) := rfl

def nodesRunningCapsule (m : Capsule.Manager) (clusterPath capsuleName : String) : List String :=
  (m.list.filter fun c => c.clusterID = clusterPath ∧ c.spec.name = capsuleName).flatMap fun c =>
    (c.replicas.filter fun r => r.nodeID ≠ "").map Capsule.ReplicaState.nodeID

structure Ready (w : Election.Manager) (around : Election.Surroundings) (clusterPath : String)
    (id : CapsuleID) : Prop where
  started : w.ctx ≠ .unset
  configured : around.configured = true
  joined : (w.topics.lookup clusterPath).isSome = true
  strategy : around.strategy.isSome = true
  idle : ∀ replicaID, w.inflight ⟨id, replicaID⟩ = none

variable {n : Managers} {now : Int} {fault : Option String} {around : Election.Surroundings}
  {ev : ElectionRequested}

theorem dispatch_started (ready : Ready n.elections around ev.clusterPath ev.capsuleID)
    (stored : (n.capsules.get ev.capsuleID).isSome = true) :
    (dispatch n now fault around ev).started
      = some (n.capsules.startElection now fault ev.capsuleID).result := by
  obtain ⟨t, topic⟩ := Option.isSome_iff_exists.mp ready.joined
  obtain ⟨strategy, chosen⟩ := Option.isSome_iff_exists.mp ready.strategy
  have joined : n.elections.topics.lookup (toRequest ev).clusterPath = some t := topic
  have idle : n.elections.inflight (toRequest ev).key = none := ready.idle ev.replicaID
  simp [dispatch, Election.Manager.handleRequest, ready.started, ready.configured, stored, idle,
    chosen, joined]

theorem dispatchAll_head (rest : List ElectionRequested)
    (ready : Ready n.elections around ev.clusterPath ev.capsuleID)
    (stored : (n.capsules.get ev.capsuleID).isSome = true) :
    (dispatchAll n now fault around (ev :: rest)).2.head?
      = some (n.capsules.startElection now fault ev.capsuleID).result := by
  simp [dispatchAll, dispatch_started ready stored]

end Falak.Node
