import Falak.Capsule.Types
import Falak.Gravity.Types

/-! Which nodes a capsule may be placed on, and what the calculator makes of them. -/

namespace Falak.Gravity

variable (c : Capsule) (rule : PlacementRule)

open Falak.Capsule (Capsule Labels PlacementRule)

inductive NodeStatus
  | active
  | suspected
  | quarantined
  | failed
  | unknown (text : String)
  deriving DecidableEq, Repr

instance : Named NodeStatus where
  text
    | .active => "active"
    | .suspected => "suspected"
    | .quarantined => "quarantined"
    | .failed => "failed"
    | .unknown text => text
  known := [.active, .suspected, .quarantined, .failed]
  unknown := .unknown
  text_unknown _ := rfl
  distinct := by decide

def NodeStatus.isHealthy (s : NodeStatus) : Bool := s = .active

structure NodeState where
  nodeID : String
  clusterPath : String
  datacenter : String
  labels : Labels
  cpuCoresFree : Int
  memoryMBFree : Int
  diskMBFree : Int
  status : NodeStatus
  deriving DecidableEq

abbrev CapsuleTargetLookup := String → String → List String

def labelsMatchAll (candidate required : Labels) : Bool :=
  required.entries.all fun label => candidate.lookup label.1 = some label.2

def namesAdmit (names : List String) (name : String) : Bool := names.isEmpty || names.contains name

def matchNodeRule (node : NodeState) : Bool :=
  namesAdmit rule.names node.nodeID && labelsMatchAll node.labels rule.labels

def matchClusterRule (node : NodeState) : Bool :=
  namesAdmit rule.names node.clusterPath && rule.labels.entries.isEmpty

def matchDatacenterRule (node : NodeState) : Bool :=
  namesAdmit rule.names node.datacenter && rule.labels.entries.isEmpty

def matchCapsuleRule (node : NodeState) (lookup : Option CapsuleTargetLookup) : Bool :=
  match lookup with
  -- Without a lookup nothing is known to be near.
  | none => rule.mode = .away
  | some nodesRunning =>
    let targetIDs := rule.names.flatMap (nodesRunning node.clusterPath)
    if rule.names.isEmpty || targetIDs.isEmpty then rule.mode = .away
    else
      match rule.mode with
      | .near => targetIDs.contains node.nodeID
      | .away => !targetIDs.contains node.nodeID
      | .unknown _ => false

def ruleMatchesNode (node : NodeState) (lookup : Option CapsuleTargetLookup) : Bool :=
  match rule.type with
  | .node => matchNodeRule rule node
  | .cluster => matchClusterRule rule node
  | .datacenter => matchDatacenterRule rule node
  | .capsule => matchCapsuleRule rule node lookup
  | .unknown _ => false

def runsAlready (node : NodeState) (lookup : Option CapsuleTargetLookup) : Bool :=
  lookup.any fun nodesRunning =>
    (nodesRunning node.clusterPath c.spec.name).contains node.nodeID

def isEligible (node : NodeState) (lookup : Option CapsuleTargetLookup) :
    Ineligibility :=
  if runsAlready c node lookup then
    ⟨.excluded, "node " ++ node.nodeID ++ " is already running capsule " ++ c.spec.name⟩
  else if !node.status.isHealthy then ⟨.notHealthy, "node status is " ++ Named.text node.status⟩
  else if c.spec.resources.cpuCores > 0 ∧ node.cpuCoresFree < c.spec.resources.cpuCores then
    ⟨.resourcesCPU, "insufficient free CPU"⟩
  else if c.spec.resources.memoryMB > 0 ∧ node.memoryMBFree < c.spec.resources.memoryMB then
    ⟨.resourcesMemory, "insufficient free memory"⟩
  else if c.spec.resources.diskMB > 0 ∧ node.diskMBFree < c.spec.resources.diskMB then
    ⟨.resourcesDisk, "insufficient free disk"⟩
  else
    match c.spec.placementRules.find? fun rule =>
      rule.required && !ruleMatchesNode rule node lookup with
    | some rule => ⟨.placementRule, "hard rule failed: " ++ rule.name⟩
    | none => ⟨.ok, ""⟩

structure Calculator where
  lookup : Option CapsuleTargetLookup
  score : Capsule → NodeState → Score

def Calculator.calculate (k : Calculator) (c : Capsule) (node : NodeState) : Result :=
  let inelig := isEligible c node k.lookup
  if inelig.reason = .ok then ⟨k.score c node, true, inelig⟩ else ⟨0, false, inelig⟩

theorem excluded_iff (node : NodeState) (lookup : Option CapsuleTargetLookup) :
    (isEligible c node lookup).reason = .excluded ↔ runsAlready c node lookup = true := by
  unfold isEligible
  split
  · simp_all
  · rename_i apart
    refine iff_of_false ?_ apart
    -- None of the other filters gives this reason.
    split_ifs <;> [simp; simp; simp; simp; skip]
    split <;> simp

theorem ruleMatchesNode_of_empty {lookup : CapsuleTargetLookup}
    (empty : ∀ clusterPath name, lookup clusterPath name = []) (rule : PlacementRule)
    (node : NodeState) :
    ruleMatchesNode rule node (some lookup) = ruleMatchesNode rule node none := by
  have none : rule.names.flatMap (lookup node.clusterPath) = [] := by
    rw [List.flatMap_eq_nil_iff]
    exact fun name _ => empty node.clusterPath name
  cases type : rule.type <;> simp [ruleMatchesNode, matchCapsuleRule, type, none]

theorem isEligible_of_empty {lookup : CapsuleTargetLookup}
    (empty : ∀ clusterPath name, lookup clusterPath name = []) (c : Capsule) (node : NodeState) :
    isEligible c node (some lookup) = isEligible c node none := by
  have apart : runsAlready c node (some lookup) = runsAlready c node none := by
    simp [runsAlready, empty]
  have rules : (fun rule : PlacementRule =>
      rule.required && !ruleMatchesNode rule node (some lookup))
        = fun rule => rule.required && !ruleMatchesNode rule node none := by
    funext rule
    rw [ruleMatchesNode_of_empty empty]
  unfold isEligible
  rw [apart, rules]

theorem calculate_eligible (k : Calculator) (c : Capsule) (node : NodeState) :
    (k.calculate c node).eligible = true ↔ (isEligible c node k.lookup).reason = .ok := by
  unfold Calculator.calculate
  simp only
  split <;> simp_all

end Falak.Gravity
