import Falak.Health.Pubsub
import Falak.Health.Status

/-! The score of a node after the updates of other nodes were processed in some order. -/

namespace Falak.Health

open Phonebook

variable {P : Type}

def ScoreUpdate.reported (u : ScoreUpdate) : Rat := if u.alive then 0 else u.score

def ScoreUpdate.revise (eff : EffectiveThresholds) (was : Rat × NodeStatus) (u : ScoreUpdate) :
    Rat × NodeStatus :=
  (u.reported, if u.alive then .active else (crossing eff was.1 u.score).mark none was.2)

def Monitor.onScoreUpdates (env : MonitorEnv P) (cfg : MonitorConfig) (m : Monitor)
    (updates : List (ScoreUpdate × Int)) : Monitor :=
  updates.foldl (fun m u => m.onScoreUpdate env cfg u.2 {} u.1.targetNodeID u.1.score u.1.alive
    u.1.reason) m

namespace Tracked

variable {cfg : ScoreConfig} {clusterPath : String}

variable (cfg clusterPath) in
theorem standing_setScore (s : Tracked) (now : Int) (u : ScoreUpdate) :
    ((s.setScore cfg clusterPath now {} u.targetNodeID u.score u.alive u.reason).state.record
        clusterPath u.targetNodeID).standing
      = (s.record clusterPath u.targetNodeID).standing.map fun was =>
          u.revise (s.effective cfg clusterPath none) was := by
  cases alive : u.alive with
  | true =>
    rw [record_setScore_alive]
    cases there : (s.record clusterPath u.targetNodeID).row <;>
      simp [NodeRecord.setAlive, NodeRecord.standing, NodeRecord.write, there, ScoreUpdate.revise,
        ScoreUpdate.reported, alive, Row.withScore, Row.withStatus]
  | false =>
    rw [record_setScore]
    cases there : (s.record clusterPath u.targetNodeID).row with
    | none => simp [NodeRecord.setScore, NodeRecord.read, there, NodeRecord.standing]
    | some row =>
      simp only [NodeRecord.setScore, NodeRecord.read, there, Option.isSome_none,
        Bool.false_eq_true, if_false, NodeRecord.standing_checkThresholds,
        NodeRecord.standing_withScore]
      simp [NodeRecord.standing, there, ScoreUpdate.revise, ScoreUpdate.reported, alive]

theorem effective_setScore (s : Tracked) (now : Int) (faults : ScoreFaults) (nodeID reason : String)
    (score : Rat) (alive : Bool) :
    (s.setScore cfg clusterPath now faults nodeID score alive reason).state.effective cfg
        clusterPath none = s.effective cfg clusterPath none := by
  cases alive with
  | false =>
    exact Rating.effective_apply cfg clusterPath nodeID reason s now faults (.setScore score)
  | true =>
    refine (effective_trySetStatus (s := _) faults.status none nodeID .active).trans ?_
    cases faults.score with
    | some err => rfl
    | none => exact effective_modifyRow nodeID _ none _

end Tracked

section Orders

variable (env : MonitorEnv P) (cfg : MonitorConfig) (target : String)

theorem standing_onScoreUpdates (updates : List (ScoreUpdate × Int)) (m : Monitor)
    (about : ∀ u ∈ updates, u.1.targetNodeID = target) :
    ((m.onScoreUpdates env cfg updates).tracked.record env.clusterPath target).standing
      = (m.tracked.record env.clusterPath target).standing.map fun was =>
          (updates.map Prod.fst).foldl
            (ScoreUpdate.revise (m.tracked.effective cfg.score env.clusterPath none)) was := by
  induction updates generalizing m with
  | nil => simp [Monitor.onScoreUpdates]
  | cons u rest ih =>
    obtain ⟨here, others⟩ := List.forall_mem_cons.mp about
    have first := m.tracked.standing_setScore cfg.score env.clusterPath u.2 u.1
    rw [here] at first
    refine (ih _ others).trans ?_
    simp only [Monitor.onScoreUpdate, Tracked.effective_setScore, here, first, Option.map_map,
      List.map_cons, List.foldl_cons]
    rfl

theorem foldl_revise_alive (eff : EffectiveThresholds) {common : List ScoreUpdate}
    (alive : ∃ u rest, common = u :: rest ∧ u.alive = true) (front front' : List ScoreUpdate)
    (was was' : Rat × NodeStatus) :
    (front ++ common).foldl (ScoreUpdate.revise eff) was
      = (front' ++ common).foldl (ScoreUpdate.revise eff) was' := by
  obtain ⟨u, rest, rfl, alive⟩ := alive
  have reset (was : Rat × NodeStatus) : u.revise eff was = (0, .active) := by
    simp [ScoreUpdate.revise, ScoreUpdate.reported, alive]
  simp only [List.foldl_append, List.foldl_cons, reset]

/-- Each node follows the order in which it processes the updates. -/
theorem gossip_follows_order (m m' : Monitor) (row : Row)
    (there : m.tracked.book.get target env.clusterPath = some row)
    (there' : m'.tracked.book.get target env.clusterPath = some row)
    (size : (m.tracked.book.getByCluster env.clusterPath).length
      = (m'.tracked.book.getByCluster env.clusterPath).length)
    (order order' : List (ScoreUpdate × Int))
    (about : ∀ u ∈ order, u.1.targetNodeID = target)
    (about' : ∀ u ∈ order', u.1.targetNodeID = target) :
    let ends (m : Monitor) (order : List (ScoreUpdate × Int)) :=
      ((m.onScoreUpdates env cfg order).tracked.record env.clusterPath target).standing
    (∀ front last, order.map Prod.fst = front ++ [last] →
      ∃ status, ends m order = some (last.reported, status) ∧
        (last.alive = true → status = .active)) ∧
    ∀ front front' common, order.map Prod.fst = front ++ common →
      order'.map Prod.fst = front' ++ common →
      (front = front' ∨ ∃ u rest, common = u :: rest ∧ u.alive = true) →
      ends m order = ends m' order' := by
  intro ends
  let eff := m.tracked.effective cfg.score env.clusterPath none
  let was : Rat × NodeStatus := (row.tracking.reliabilityScore, row.status)
  have ends_eq : ends m order
      = some ((order.map Prod.fst).foldl (ScoreUpdate.revise eff) was) := by
    refine (standing_onScoreUpdates env cfg target order m about).trans ?_
    simp [NodeRecord.standing, Tracked.record, there, was, eff]
  have ends_eq' : ends m' order'
      = some ((order'.map Prod.fst).foldl (ScoreUpdate.revise eff) was) := by
    have same : m'.tracked.effective cfg.score env.clusterPath none = eff := by
      simp [eff, Tracked.effective, Tracked.clusterSize, size]
    refine (standing_onScoreUpdates env cfg target order' m' about').trans ?_
    simp [NodeRecord.standing, Tracked.record, there', was, same]
  constructor
  · intro front last split
    rw [ends_eq, split, List.foldl_append]
    refine ⟨_, rfl, fun alive => ?_⟩
    rw [alive]
    rfl
  · intro front front' common split split' agree
    rw [ends_eq, ends_eq', split, split']
    rcases agree with rfl | alive
    · rfl
    · rw [foldl_revise_alive eff alive front front' was was]

end Orders

namespace Inbox

def earlier : ScoreUpdate := reportBy "node-b"

def later : ScoreUpdate :=
  ⟨"node-x", 0, true, "node-c", some (.new second), "indirect_ping_success"⟩

end Inbox

open Inbox

/-- Two nodes that process the same two updates in different orders end with different scores. -/
theorem gossip_diverges :
    later.timestamp.map Timestamp.asTime = some second ∧
    earlier.timestamp.map Timestamp.asTime = some 0 ∧
    ((listening.onScoreUpdates environment {} [(earlier, 2 * second), (later, 3 * second)]).tracked
        |>.record "r/d/c" "node-x").standing = some (0, .active) ∧
    ((listening.onScoreUpdates environment {} [(later, 2 * second), (earlier, 3 * second)]).tracked
        |>.record "r/d/c" "node-x").standing = some (10, .quarantined) := by
  decide +kernel

/-- Two nodes that process the later update last both end with an active peer. -/
theorem gossip_follows_order_alive :
    ((listening.onScoreUpdates environment {} [(earlier, 2 * second), (later, 3 * second)]).tracked
        |>.record "r/d/c" "node-x").standing = some (0, .active) ∧
    ((listening.onScoreUpdates environment {} [(earlier, 2 * second), (later, 3 * second)]).tracked
        |>.record "r/d/c" "node-x").standing
      = ((listening.onScoreUpdates environment {} [(later, second)]).tracked
        |>.record "r/d/c" "node-x").standing := by
  have there : listening.tracked.book.get "node-x" environment.clusterPath = some (peer [3]) := by
    decide +kernel
  obtain ⟨last, agree⟩ :=
    gossip_follows_order environment {} "node-x" listening listening (peer [3]) there there rfl
      [(earlier, 2 * second), (later, 3 * second)] [(later, second)] (by decide +kernel)
      (by decide +kernel)
  obtain ⟨status, ends, active⟩ := last [earlier] later rfl
  refine ⟨ends.trans ?_, agree [earlier] [] [later] rfl rfl (.inr ⟨later, [], rfl, rfl⟩)⟩
  rw [active rfl]
  decide +kernel

end Falak.Health
