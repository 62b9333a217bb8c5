import Falak.Capsule.Consistency
import Falak.Election.Alone
import Falak.Gravity.Eligibility
import Falak.Node.ElectionHandler

/-! The election of a replica whose container has crashed, on the node that hosted it. -/

namespace Falak.Node

variable (m : Capsule.Manager) (wired : Bool)

open Falak.Capsule (Capsule CapsuleID ReplicaState)
open Falak.Election (RoundParams DelayStrategy)
open Falak.Election.Cluster (alone Undisturbed ReportsWon)
open Falak.Gravity

def nodesRunningWithout (id : CapsuleID) (slot clusterPath name : String) :
    List String :=
  (m.list.filter fun c => c.clusterID = clusterPath ∧ c.spec.name = name).flatMap fun c =>
    (c.replicas.filter fun r => r.nodeID ≠ "" ∧ ¬ (c.id = id ∧ r.replicaID = slot)).map
      ReplicaState.nodeID

def lookupOf (lookup : CapsuleTargetLookup) : Option CapsuleTargetLookup :=
  if wired then some lookup else none

structure Setup where
  strategy : DelayStrategy
  score : Capsule → NodeState → Score
  random : Option (Fin (2 ^ 64))
  timeout : Int
  tiebreakWindow : Int

def reelection (setup : Setup) (m : Capsule.Manager) (wired : Bool) (c : Capsule) (r : ReplicaState)
    (node : NodeState) : Unit → RoundParams := fun _ =>
  let req := toRequest (crashRequest c r)
  let result := Calculator.calculate ⟨lookupOf wired (nodesRunningCapsule m), setup.score⟩ c node
  { nodeID := node.nodeID
    req := req
    decide := setup.strategy.decide (.ok result) req setup.random
    timeout := setup.timeout
    tiebreakWindow := setup.tiebreakWindow }

structure Hosts (m : Capsule.Manager) (node : NodeState) (c : Capsule) (r : ReplicaState) :
    Prop where
  stored : m.get c.id = some c
  recorded : r ∈ c.replicas
  host : r.nodeID = node.nodeID
  named : node.nodeID ≠ ""
  member : node.clusterPath = c.clusterID

def FitApart (c : Capsule) (r : ReplicaState) (node : NodeState) : Prop :=
  (isEligible c node (lookupOf wired (nodesRunningWithout m c.id r.replicaID))).reason = .ok

structure Recovers (setup : Setup) (m : Capsule.Manager) (wired flag : Bool) (c : Capsule)
    (r : ReplicaState) (node : NodeState) (t latency : Int) : Prop where
  admitted :
    (isEligible c node (lookupOf wired (nodesRunningCapsule m))).reason ≠ .excluded
  contends : ∀ w, Reach (Election.Cluster.step (reelection setup m wired c r node))
    (Undisturbed (reelection setup m wired c r node) latency) (alone flag t (.new 16)) w →
    Election.Round.aside (w.rounds ()).pc = false
  wins : ((reelection setup m wired c r node ()).decide t).publishAt < t + setup.timeout →
    ReportsWon (reelection setup m wired c r node) latency (alone flag t (.new 16))

variable {setup : Setup} {m : Capsule.Manager} {wired : Bool} {c : Capsule} {r : ReplicaState}
  {node : NodeState}

theorem reelection_eligible (now : Int) :
    ((reelection setup m wired c r node ()).decide now).eligible = true ↔
      (isEligible c node (lookupOf wired (nodesRunningCapsule m))).reason = .ok := by
  rw [← calculate_eligible ⟨lookupOf wired (nodesRunningCapsule m), setup.score⟩]
  simp only [reelection, DelayStrategy.decide]
  split <;> simp_all

theorem Hosts.listed (hosts : Hosts m node c r) :
    runsAlready c node (some (nodesRunningCapsule m)) = true := by
  have present : node.nodeID ∈ nodesRunningCapsule m node.clusterPath c.spec.name := by
    refine List.mem_flatMap.mpr ⟨c, List.mem_filter.mpr ⟨?_, ?_⟩, ?_⟩
    · exact Capsule.Store.mem_list.mpr hosts.stored
    · simp [hosts.member]
    · refine List.mem_map.mpr ⟨r, List.mem_filter.mpr ⟨hosts.recorded, ?_⟩, hosts.host⟩
      simpa [hosts.host] using hosts.named
  simpa [runsAlready] using present

theorem Hosts.requested (hosts : Hosts m node c r) (reason : String) :
    crashRequest c r ∈ requests (handleContainerCrash node.nodeID m ⟨c.id, reason⟩) := by
  simp only [handleContainerCrash, hosts.stored, requests_map_requestElection]
  exact List.mem_map.mpr ⟨r, List.mem_filter.mpr ⟨hosts.recorded, by simp [hosts.host]⟩, rfl⟩

/--
A crashed replica can be elected again on its node only without a lookup and with a free flag.
-/
theorem crash_recovers (setup : Setup) (flag : Bool) (hosts : Hosts m node c r)
    (fit : FitApart m wired c r node) (reason : String) (t latency : Int) :
    crashRequest c r ∈ requests (handleContainerCrash node.nodeID m ⟨c.id, reason⟩) ∧
    (Recovers setup m wired flag c r node t latency ↔ wired = false ∧ flag = false) ∧
    (¬ (wired = false ∧ flag = false) →
      ∀ w, Reach (Election.Cluster.step (reelection setup m wired c r node))
        (Undisturbed (reelection setup m wired c r node) latency) (alone flag t (.new 16)) w →
        ∀ v ∈ (w.rounds ()).past.reports, v.outcome ≠ .won) := by
  have excluded : wired = true →
      (isEligible c node (lookupOf wired (nodesRunningCapsule m))).reason = .excluded := by
    rintro rfl
    exact (excluded_iff _ _ _).mpr hosts.listed
  refine ⟨hosts.requested reason, ⟨fun recovers => ?_, ?_⟩, fun blocked w reached => ?_⟩
  · have unwired : wired = false := by
      by_contra wires
      exact recovers.admitted (excluded (by simpa using wires))
    refine ⟨unwired, ?_⟩
    by_contra taken
    obtain ⟨w, reached, aside⟩ := Election.Cluster.aside_of_barred latency (.new 16)
      (p := reelection setup m wired c r node) (t := t) (.inr (by simpa using taken))
    rw [recovers.contends w reached] at aside
    cases aside
  · rintro ⟨rfl, rfl⟩
    have eligible (now : Int) :
        ((reelection setup m false c r node ()).decide now).eligible = true :=
      (reelection_eligible now).mpr fit
    refine ⟨?_, fun w reached => ?_, ?_⟩
    · rw [show (isEligible c node (lookupOf false (nodesRunningCapsule m))).reason = .ok from fit]
      decide
    · exact (Election.Cluster.contends_of_free eligible reached).not_aside
    · exact Election.Cluster.reportsWon_of_free latency (eligible t)
  · refine Election.Cluster.not_won_of_barred ?_ reached
    by_cases wires : wired = true
    · refine .inl fun now => ?_
      by_contra eligible
      have admitted := (reelection_eligible now).mp (by simpa using eligible)
      rw [excluded wires] at admitted
      cases admitted
    · have unwired : wired = false := by simpa using wires
      exact .inr (by simpa [Bool.not_eq_true] using fun free => blocked ⟨unwired, free⟩)

def hostedCapsule : Capsule :=
  { Capsule.Manager.webCapsule .running with replicas := [⟨"0", "node-a", .assigned, 0⟩] }

def hostedManager : Capsule.Manager := .new (Capsule.Store.new.put hostedCapsule)

def roomyNode : NodeState := ⟨"node-a", "cluster", "dc", ∅, 8, 8192, 8192, .active⟩

def defaultSetup : Setup := ⟨.new, fun _ _ => 80, none, 10 * second, 300 * millisecond⟩

def webRound (m : Capsule.Manager) (wired : Bool) : Unit → RoundParams :=
  reelection defaultSetup m wired hostedCapsule ⟨"0", "node-a", .assigned, 0⟩ roomyNode

def winningRun : List (Election.Action Unit) :=
  [.run () .go, .run () .go, .run () .go, .run () .go, .tick (100 * millisecond), .run () .timer,
    .run () .go, .run () .go, .run () .published, .run () .go, .tick (400 * millisecond),
    .run () .timer, .run () .go]

def waitingRun : List (Election.Action Unit) :=
  [.run () .go, .run () .go, .run () .go, .run () .go, .tick (10 * second), .run () .timer,
    .run () .go]

def verdicts (w : Election.Cluster Unit) : List (Election.Outcome × String) :=
  (w.rounds ()).past.reports.map fun v => (v.outcome, v.reason)

/-- A node wins a replica alone, and after a crash it can never win it again. -/
theorem crash_blocks_itself :
    (∃ w, Reach (Election.Cluster.step (webRound (.new .new) true))
      (Undisturbed (webRound (.new .new) true) 0) (alone false 0 (.new 16)) w ∧
        verdicts w = [(.won, "")] ∧ w.localClaims "node-a" "web" = true) ∧
    requests (handleContainerCrash "node-a" hostedManager ⟨"web", "exit 1"⟩)
      = [⟨"web", "0", .nodeFailure, "cluster", "", 100⟩] ∧
    isEligible hostedCapsule roomyNode (some (nodesRunningCapsule hostedManager))
      = ⟨.excluded, "node node-a is already running capsule web"⟩ ∧
    ∃ w, Reach (Election.Cluster.step (webRound hostedManager false))
      (Undisturbed (webRound hostedManager false) 0) (alone true 0 (.new 16)) w ∧
        verdicts w = [(.failed, "election timeout (no claim heard)")] := by
  refine ⟨?_, by decide +kernel, by decide +kernel, ?_⟩
  · exact Reach.exists_of_accepted
      (fun w a => decide (Undisturbed (webRound (.new .new) true) 0 w a))
      (fun _ _ => of_decide_eq_true) _ _ winningRun _ (by decide +kernel)
  · exact Reach.exists_of_accepted
      (fun w a => decide (Undisturbed (webRound hostedManager false) 0 w a))
      (fun _ _ => of_decide_eq_true) _ _ waitingRun _ (by decide +kernel)

theorem hosts_web : Hosts hostedManager roomyNode hostedCapsule ⟨"0", "node-a", .assigned, 0⟩ where
  stored := by simp [hostedManager, Capsule.Manager.get, Capsule.Manager.new]
  recorded := List.mem_cons_self
  host := rfl
  named := by decide
  member := rfl

/-- Without a lookup and with a free flag the crashed replica is won again. -/
theorem crash_recovers_unwired :
    ReportsWon (webRound hostedManager false) 0 (alone false 0 (.new 16)) := by
  have fit :
      FitApart hostedManager false hostedCapsule ⟨"0", "node-a", .assigned, 0⟩ roomyNode := by
    unfold FitApart
    decide +kernel
  have recovers :=
    (crash_recovers defaultSetup false hosts_web fit "exit 1" 0 0).2.1.mpr ⟨rfl, rfl⟩
  exact recovers.wins (by decide +kernel)

end Falak.Node
