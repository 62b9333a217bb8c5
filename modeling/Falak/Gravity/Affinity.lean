import Falak.Capsule.Spec
import Falak.Gravity.Eligibility

/-!
The affinity of capsules to each other, as the election filter and the placement evaluator see it.
-/

namespace Falak.Placement

open Falak.Capsule (Labels PlacementRule PlacementMode CapsuleSpec validateSpec sameKeyword)
open Gravity (NodeState CapsuleTargetLookup labelsMatchAll namesAdmit ruleMatchesNode)

structure Entity where
  name : String
  labels : Labels

structure EntityProvider where
  clusters : List Entity
  datacenters : List Entity
  capsuleNodes : List String → List Entity

structure Result where
  nodeName : String
  eligible : Bool
  score : Nat
  failedRules : List String
  matchedSoft : List String
  deriving DecidableEq

def select (entities : List Entity) (names : List String) (labels : Labels) : List Entity :=
  entities.filter fun e => namesAdmit names e.name && labelsMatchAll e.labels labels

def sameKeys (rule : PlacementRule) : List String :=
  (rule.labels.entries.filter fun label => label.2 = sameKeyword).map fun label => label.1

def agreeOn (labels labels' : Labels) (key : String) : Bool :=
  (labels.lookup key).any fun value => labels'.lookup key = some value

namespace EntityProvider

variable (p : EntityProvider)

def evaluateGroupRule (entities : List Entity) (label : String) (node : Entity)
    (rule : PlacementRule) : Bool :=
  (node.labels.lookup label).any fun name =>
    (select entities rule.names rule.labels).any fun e => e.name = name

def evaluateCapsuleRule (node : Entity) (rule : PlacementRule) : Bool :=
  let targetNodes := p.capsuleNodes rule.names
  if targetNodes.isEmpty then rule.mode = .away
  else if (sameKeys rule).isEmpty then true
  else
    let sharesLabels := targetNodes.any fun target =>
      (sameKeys rule).all (agreeOn node.labels target.labels)
    match rule.mode with
    | .near => sharesLabels
    | .away => !sharesLabels
    | .unknown _ => false

def evaluateRule (node : Entity) (rule : PlacementRule) : Bool :=
  match rule.type with
  | .node => namesAdmit rule.names node.name && labelsMatchAll node.labels rule.labels
  | .cluster => evaluateGroupRule p.clusters "cluster" node rule
  | .datacenter => evaluateGroupRule p.datacenters "datacenter" node rule
  | .capsule => p.evaluateCapsuleRule node rule
  | .unknown _ => false

def evaluateNode (node : Entity) (rules : List PlacementRule) : Result :=
  let failed := rules.filter fun rule => rule.required && !p.evaluateRule node rule
  let soft := rules.filter fun rule => !rule.required && p.evaluateRule node rule
  { nodeName := node.name
    eligible := failed.isEmpty
    score := soft.length
    failedRules := failed.map PlacementRule.name
    matchedSoft := soft.map PlacementRule.name }

end EntityProvider

def verdict (mode : PlacementMode) (close : Bool) : Bool :=
  match mode with
  | .near => close
  | .away => !close
  | .unknown _ => false

structure Mesh where
  runners : String → List String
  labels : String → Labels

namespace Mesh

variable (mesh : Mesh)

variable (rule : PlacementRule) (nodeID : String)

def lookup : CapsuleTargetLookup := fun _ name => mesh.runners name

def provider (clusters datacenters : List Entity) : EntityProvider :=
  { clusters, datacenters
    capsuleNodes := fun names => (names.flatMap mesh.runners).map fun id => ⟨id, mesh.labels id⟩ }

def targets : List String := rule.names.flatMap mesh.runners

def close (runner : String) : Bool :=
  if (sameKeys rule).isEmpty then nodeID = runner
  else (sameKeys rule).all (agreeOn (mesh.labels nodeID) (mesh.labels runner))

def closeToTarget : Bool :=
  (mesh.targets rule).any (mesh.close rule nodeID)

def means : Bool :=
  verdict rule.mode (mesh.closeToTarget rule nodeID)

end Mesh

theorem mode_valid {spec : CapsuleSpec} (accepted : validateSpec spec = []) {rule : PlacementRule}
    (listed : rule ∈ spec.placementRules) (capsule : rule.type = .capsule) :
    rule.mode.valid = true := by
  obtain ⟨i, here⟩ := List.mem_iff_getElem?.mp listed
  have passed : ∀ entry ∈ spec.placementRules.zipIdx,
      Falak.Capsule.validatePlacementRule entry.1 entry.2 = none := by
    simp only [validateSpec, List.append_eq_nil_iff] at accepted
    simpa [List.filterMap_eq_nil_iff] using accepted.1.2
  have checked := passed (rule, i) (List.mem_zipIdx_iff_getElem?.mpr here)
  by_contra invalid
  rw [Bool.not_eq_true] at invalid
  simp [Falak.Capsule.validatePlacementRule, capsule, invalid,
    Falak.Capsule.PlacementType.valid] at checked

variable {mesh : Mesh} {rule : PlacementRule} {node : NodeState}
  {clusters datacenters : List Entity}

theorem ruleMatchesNode_eq (valid : rule.mode.valid = true) (capsule : rule.type = .capsule)
    (named : rule.names ≠ []) :
    ruleMatchesNode rule node (some mesh.lookup)
      = verdict rule.mode ((mesh.targets rule).contains node.nodeID) := by
  have same : rule.names.flatMap (mesh.lookup node.clusterPath) = mesh.targets rule := rfl
  simp only [ruleMatchesNode, Gravity.matchCapsuleRule, capsule, same,
    List.isEmpty_eq_false_iff.mpr named, Bool.false_or]
  cases mode : rule.mode <;> cases mesh.targets rule <;>
    simp_all [verdict, Falak.Capsule.PlacementMode.valid]

theorem closeToTarget_eq (nodeID : String) :
    mesh.closeToTarget rule nodeID = if (sameKeys rule).isEmpty then
      (mesh.targets rule).contains nodeID
    else (mesh.targets rule).any fun runner =>
      (sameKeys rule).all (agreeOn (mesh.labels nodeID) (mesh.labels runner)) := by
  change (mesh.targets rule).any (fun runner => mesh.close rule nodeID runner) = _
  simp only [Mesh.close]
  split
  · rw [Bool.eq_iff_iff]
    simp
  · rfl

theorem evaluateRule_eq (valid : rule.mode.valid = true) (capsule : rule.type = .capsule)
    (own : node.labels = mesh.labels node.nodeID) :
    (mesh.provider clusters datacenters).evaluateRule ⟨node.nodeID, node.labels⟩ rule
      = if (sameKeys rule).isEmpty then !(mesh.targets rule).isEmpty || rule.mode = .away
        else mesh.means rule node.nodeID := by
  have same : (mesh.provider clusters datacenters).capsuleNodes rule.names
      = (mesh.targets rule).map fun id => ⟨id, mesh.labels id⟩ := rfl
  simp only [EntityProvider.evaluateRule, EntityProvider.evaluateCapsuleRule, capsule, same,
    Mesh.means, closeToTarget_eq, own, List.isEmpty_map, List.any_map, Function.comp_def]
  cases mode : rule.mode <;> cases mesh.targets rule <;> cases (sameKeys rule).isEmpty <;>
    simp_all [verdict, Falak.Capsule.PlacementMode.valid]

/--
Both evaluators take an accepted rule at its meaning, and a hard rule keeps the capsule away from
the nodes that run its target, exactly when one of two things holds. If the rule marks no key, no
node runs a target or the node meets the rule. If it marks some, the node runs a target just when
it is close to a node that does.
-/
theorem affinity_iff (clusters datacenters : List Entity) {spec : CapsuleSpec}
    (accepted : validateSpec spec = []) (listed : rule ∈ spec.placementRules)
    (capsule : rule.type = .capsule) (named : rule.names ≠ [])
    (own : node.labels = mesh.labels node.nodeID) :
    let entity : Entity := ⟨node.nodeID, node.labels⟩
    let evaluator := mesh.provider clusters datacenters
    (ruleMatchesNode rule node (some mesh.lookup) = mesh.means rule node.nodeID ∧
      evaluator.evaluateRule entity rule = mesh.means rule node.nodeID ∧
      (rule.mode = .away → rule.required = true → node.nodeID ∈ mesh.targets rule →
        ruleMatchesNode rule node (some mesh.lookup) = false ∧
          (evaluator.evaluateNode entity [rule]).eligible = false)) ↔
    if (sameKeys rule).isEmpty then mesh.targets rule = [] ∨ mesh.means rule node.nodeID = true
    else node.nodeID ∈ mesh.targets rule ↔ mesh.closeToTarget rule node.nodeID = true := by
  intro entity evaluator
  have valid := mode_valid accepted listed capsule
  have filter : ruleMatchesNode rule node (some mesh.lookup) = _ :=
    ruleMatchesNode_eq valid capsule named
  have evaluated : evaluator.evaluateRule entity rule = _ := evaluateRule_eq valid capsule own
  have alone : (evaluator.evaluateNode entity [rule]).eligible
      = !(rule.required && !evaluator.evaluateRule entity rule) := by
    cases passed : rule.required && !evaluator.evaluateRule entity rule <;>
      simp [EntityProvider.evaluateNode, passed]
  simp only [alone, entity, evaluator, filter, evaluated, Mesh.means, closeToTarget_eq]
  by_cases unmarked : (sameKeys rule).isEmpty = true
  · cases mode : rule.mode <;> cases mesh.targets rule <;>
      simp_all [verdict, Falak.Capsule.PlacementMode.valid]
  · generalize (mesh.targets rule).any _ = shares
    cases mode : rule.mode <;> cases shares <;>
      simp_all [verdict, Falak.Capsule.PlacementMode.valid]

def ruleFor (mode : PlacementMode) (keys : List String) : PlacementRule :=
  { name := "db"
    type := .capsule
    mode := mode
    names := ["db"]
    labels := keys.foldl (fun labels key => labels.insert key sameKeyword) ∅
    required := true }

def specWith (rule : PlacementRule) : CapsuleSpec :=
  { Falak.Capsule.defaultSpec (Falak.Capsule.bareSpec ⟨0, 0, 0⟩) with placementRules := [rule] }

def database : Mesh :=
  ⟨fun name => if name = "db" then ["node-b"] else [], fun _ => AList.singleton "zone" "z1"⟩

def inZone (nodeID : String) : NodeState :=
  ⟨nodeID, "cluster", "", AList.singleton "zone" "z1", 8, 8192, 8192, .active⟩

theorem affinity_of_runner :
    ruleMatchesNode (ruleFor .near ["zone"]) (inZone "node-b") (some database.lookup)
      = database.means (ruleFor .near ["zone"]) "node-b" := by
  have accepted : validateSpec (specWith (ruleFor .near ["zone"])) = [] := by decide +kernel
  have own : (inZone "node-b").labels = database.labels (inZone "node-b").nodeID := rfl
  exact ((affinity_iff [] [] accepted (List.mem_singleton_self _) rfl (by decide) own).mpr
    (by decide +kernel)).1

/--
The filter misses a node in the zone of a runner, and the evaluator admits a runner that the rule
keeps away.
-/
theorem affinity_missed :
    database.means (ruleFor .near ["zone"]) "node-a" = true ∧
    ruleMatchesNode (ruleFor .near ["zone"]) (inZone "node-a") (some database.lookup) = false ∧
    validateSpec (specWith (ruleFor .near ["zone"])) = [] ∧
    ((database.provider [] []).evaluateNode ⟨"node-b", (inZone "node-b").labels⟩
      [ruleFor .away []]).eligible = true ∧
    validateSpec (specWith (ruleFor .away [])) = [] := by
  decide +kernel

end Falak.Placement
