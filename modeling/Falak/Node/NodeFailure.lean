import Falak.Node.CapsuleHandler

/-! The elections that are requested when a node fails. -/

namespace Falak.Node

variable (m : Manager)

open Falak.Capsule

def replicasOn (nodeID : String) (c : Capsule) : List ReplicaState :=
  c.replicas.filter fun r => r.nodeID = nodeID

def ownedRequests (failed : NodeFailed) : List ElectionRequested :=
  (m.list.filter fun c => c.clusterID = failed.clusterPath).flatMap fun c =>
    (replicasOn failed.nodeID c).map fun r =>
      { orphanRequest failed c r with clusterPath := c.clusterID }

def strayRequests (failed : NodeFailed) : List ElectionRequested :=
  (m.list.filter fun c => !decide (c.clusterID = failed.clusterPath)).flatMap fun c =>
    (replicasOn failed.nodeID c).map (orphanRequest failed c)

theorem requests_onNodeFailed (failed : NodeFailed) :
    requests (onNodeFailed m failed)
      = m.list.flatMap fun c => (replicasOn failed.nodeID c).map (orphanRequest failed c) := by
  simp only [onNodeFailed, requests_flatMap, requests_map_requestElection, replicasOn]

theorem requests_perm_owned (failed : NodeFailed) :
    (requests (onNodeFailed m failed)).Perm (ownedRequests m failed ++ strayRequests m failed) := by
  rw [requests_onNodeFailed]
  have owned : ownedRequests m failed
      = (m.list.filter fun c => c.clusterID = failed.clusterPath).flatMap fun c =>
          (replicasOn failed.nodeID c).map (orphanRequest failed c) := by
    refine List.flatMap_congr fun c inside => List.map_congr_left fun r _ => ?_
    have same := of_decide_eq_true (List.mem_filter.mp inside).2
    rw [same]
    rfl
  rw [owned, strayRequests, ← List.flatMap_append]
  exact (List.filter_append_perm _ _).symm.flatMap_right _

theorem strayRequests_eq_nil (failed : NodeFailed) :
    strayRequests m failed = [] ↔
      ∀ c ∈ m.list, c.clusterID ≠ failed.clusterPath →
        ∀ r ∈ c.replicas, r.nodeID ≠ failed.nodeID := by
  simp only [strayRequests, replicasOn, List.flatMap_eq_nil_iff, List.map_eq_nil_iff,
    List.filter_eq_nil_iff, List.mem_filter, Bool.not_eq_true', decide_eq_false_iff_not,
    decide_eq_true_eq, and_imp]

/--
A failure requests exactly the elections that belong to it, one for each orphan in its cluster.
-/
theorem node_failure_requests (m : Manager) (failed : NodeFailed) :
    (requests (onNodeFailed m failed)).Perm (ownedRequests m failed) ↔
      ∀ c ∈ m.list, c.clusterID ≠ failed.clusterPath →
        ∀ r ∈ c.replicas, r.nodeID ≠ failed.nodeID := by
  rw [← strayRequests_eq_nil]
  have split := requests_perm_owned m failed
  constructor
  · intro same
    have lengths := (split.symm.trans same).length_eq
    rw [List.length_append] at lengths
    exact List.length_eq_zero_iff.mp (by omega)
  · intro none
    rwa [none, List.append_nil] at split

def twoClusters : Manager :=
  let spec := bareSpec ⟨0, 0, 0⟩
  let m := ((Manager.new .new).create 0 none none "web" "east" spec).manager
  let m := (m.create 0 none none "db" "west" spec).manager
  let m := (m.assignReplica 0 none "web" "0" "node-b").manager
  (m.assignReplica 0 none "db" "0" "node-b").manager

/-- A failure in one cluster also requests an election for the capsule of the other cluster. -/
theorem failure_requests_stray :
    (twoClusters.get "db").map Capsule.clusterID = some "west" ∧
      ⟨"db", "0", .nodeFailure, "east", "node-b", 100⟩
        ∈ requests (onNodeFailed twoClusters ⟨"node-b", "east"⟩) ∧
      ¬ (requests (onNodeFailed twoClusters ⟨"node-b", "east"⟩)).Perm
        (ownedRequests twoClusters ⟨"node-b", "east"⟩) := by
  decide +kernel

end Falak.Node
