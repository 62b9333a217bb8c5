import Falak.Capsule.Spec
import Falak.Gravity.Calculator
import Falak.Lib.Weighted

/-!
The score of a node grows with what the node has to offer, and stays between zero and a hundred.
-/

namespace Falak.Gravity

open Falak.Capsule (Capsule PlacementRule)

def Weights.fields (w : Weights) : List Rat :=
  [w.cpuHeadroom, w.memoryHeadroom, w.diskHeadroom, w.softPlacementMatch, w.affinityProximity,
    w.hardwareLabelMatch, w.loadPenalty, w.reliability, w.diversity, w.snapshotLocality]

def Weights.Nonneg (w : Weights) : Prop := ∀ weight ∈ w.fields, 0 ≤ weight

instance (w : Weights) : Decidable w.Nonneg := inferInstanceAs (Decidable (∀ _ ∈ w.fields, _))

section Clamp

variable {v v' : Rat}

theorem clamp01_nonneg (v : Rat) : 0 ≤ clamp01 v := by
  unfold clamp01
  split_ifs <;> linarith

theorem clamp01_le_one (v : Rat) : clamp01 v ≤ 1 := by
  unfold clamp01
  split_ifs <;> linarith

theorem clamp01_mono (le : v ≤ v') : clamp01 v ≤ clamp01 v' := by
  unfold clamp01
  split_ifs <;> linarith

theorem clamp01_eq_one_iff : clamp01 v = 1 ↔ 1 ≤ v := by
  unfold clamp01
  split_ifs with negative above
  · exact iff_of_false (by norm_num) (by linarith)
  · exact iff_of_true rfl above.le
  · exact ⟨Eq.ge, fun least => le_antisymm (not_lt.mp above) least⟩

end Clamp

section Terms

def terms (factors : List Factor) : List (Rat × Rat) :=
  factors.filterMap fun f => f.contribution.map fun value => (value, f.weight)

theorem foldl_addFactor (factors : List Factor) (t : Tally) :
    (factors.foldl Tally.addFactor t).weightedSum
        = t.weightedSum + Weighted.sum (terms factors) ∧
      (factors.foldl Tally.addFactor t).maxWeightedSum
        = t.maxWeightedSum + Weighted.weight (terms factors) := by
  induction factors generalizing t with
  | nil => simp [terms, Weighted.sum, Weighted.weight]
  | cons f rest ih =>
    obtain ⟨name, contribution, weight⟩ := f
    obtain ⟨total, most⟩ := ih (t.addFactor ⟨name, contribution, weight⟩)
    rw [List.foldl_cons, total, most]
    cases contribution with
    | none => exact ⟨rfl, rfl⟩
    | some value =>
      simp only [Tally.addFactor, terms, List.filterMap_cons, Option.map_some, Weighted.sum_cons,
        Weighted.weight_cons]
      exact ⟨by rw [add_assoc], by rw [add_assoc]⟩

variable (k : WeightedCalculator) (c : Capsule) (node : FullNodeState)

theorem tally_weightedSum :
    (k.tally c node).weightedSum = Weighted.sum (terms (k.factors c node)) - k.penalty node := by
  simp [WeightedCalculator.tally, foldl_addFactor]

theorem tally_maxWeightedSum :
    (k.tally c node).maxWeightedSum
      = Weighted.weight (terms (k.factors c node)) + k.weights.loadPenalty := by
  simp [WeightedCalculator.tally, foldl_addFactor]

theorem score_eq :
    k.score c node =
      if (k.tally c node).maxWeightedSum ≤ 0 then 50
      else clamp01 ((k.tally c node).weightedSum / (k.tally c node).maxWeightedSum) * 100 := by
  have clamps (v : Rat) : (if (if v < 0 then 0 else v) > 1 then 1 else if v < 0 then 0 else v)
      = clamp01 v := by
    unfold clamp01
    split_ifs <;> first | rfl | linarith
  simp only [WeightedCalculator.score, clamps]

theorem score_mem : 0 ≤ k.score c node ∧ k.score c node ≤ 100 := by
  rw [score_eq]
  split
  · norm_num
  · -- A value in the range is taken a hundred times.
    have low := clamp01_nonneg ((k.tally c node).weightedSum / (k.tally c node).maxWeightedSum)
    have high := clamp01_le_one ((k.tally c node).weightedSum / (k.tally c node).maxWeightedSum)
    exact ⟨by linarith, by linarith⟩

variable {k c node}

theorem terms_weight_nonneg (nonneg : k.weights.Nonneg) :
    ∀ term ∈ terms (k.factors c node), 0 ≤ term.2 := by
  intro term member
  obtain ⟨f, listed, applies⟩ := List.mem_filterMap.mp member
  obtain ⟨value, -, rfl⟩ := Option.map_eq_some_iff.mp applies
  apply nonneg
  simp only [WeightedCalculator.factors, List.mem_cons, List.not_mem_nil, or_false] at listed
  rcases listed with rfl | rfl | rfl | rfl | rfl | rfl | rfl | rfl | rfl <;> simp [Weights.fields]

def InRange (f : FactorContribution) : Prop := ∀ value ∈ f, value ≤ 1

theorem inRange_applied (v : Rat) : InRange (applied v) := by
  rintro value ⟨rfl⟩
  exact clamp01_le_one v

theorem inRange_notApplicable : InRange notApplicable := by
  rintro value ⟨⟩

theorem inRange_headroom (required free total : Int) : InRange (headroom required free total) := by
  unfold headroom
  dsimp only
  split_ifs <;> first | exact inRange_applied _ | exact inRange_notApplicable

theorem inRange_share {α : Type} (test : α → Bool) (elements : List α) :
    InRange (share test elements) := by
  unfold share
  split_ifs <;> first | exact inRange_applied _ | exact inRange_notApplicable

theorem inRange_factors : ∀ f ∈ k.factors c node, InRange f.contribution := by
  have affinity : InRange (factorAffinityProximity c node k.lookup) := by
    unfold factorAffinityProximity
    split <;> first | exact inRange_share _ _ | exact inRange_notApplicable
  have diversity : InRange (factorDiversity c node) := by
    unfold factorDiversity
    split_ifs <;> first | exact inRange_applied _ | exact inRange_notApplicable
  have snapshot : InRange (factorSnapshotLocality c k.snapLookup) := by
    unfold factorSnapshotLocality
    split
    · exact inRange_notApplicable
    · dsimp only
      split_ifs <;> exact inRange_applied _
  simp only [WeightedCalculator.factors, List.forall_mem_cons]
  exact ⟨inRange_headroom _ _ _, inRange_headroom _ _ _, inRange_headroom _ _ _,
    inRange_share _ _, affinity, inRange_share _ _, inRange_applied _, diversity, snapshot,
    List.forall_mem_nil _⟩

end Terms

section Better

abbrev AtMost : FactorContribution → FactorContribution → Prop := Option.Rel (· ≤ ·)

theorem AtMost.rfl {f : FactorContribution} : AtMost f f := by
  cases f with
  | none => exact .none
  | some v => exact .some le_rfl

theorem atMost_applied {v v' : Rat} (le : v ≤ v') : AtMost (applied v) (applied v') :=
  .some (clamp01_mono le)

theorem headroom_mono (required total : Int) {free free' : Int} (more : free ≤ free') :
    AtMost (headroom required free total) (headroom required free' total) := by
  unfold headroom
  dsimp only
  split_ifs
  · exact .rfl
  · exact .rfl
  · exact .rfl
  · refine atMost_applied (div_nonneg ?_ ?_) <;> exact_mod_cast by omega
  · omega
  · refine atMost_applied ((div_le_div_iff_of_pos_right ?_).mpr ?_) <;> exact_mod_cast by omega

theorem share_mono {α : Type} {test test' : α → Bool} {elements : List α}
    (weaker : ∀ e ∈ elements, test e = true → test' e = true) :
    AtMost (share test elements) (share test' elements) := by
  unfold share
  split
  · exact .rfl
  · refine atMost_applied (div_le_div_of_nonneg_right ?_ (Nat.cast_nonneg _))
    exact_mod_cast List.countP_mono_left weaker

theorem ruleMatchesNode_near {rule : PlacementRule} {node : NodeState}
    {nodesRunning : CapsuleTargetLookup} (type : rule.type = .capsule) (mode : rule.mode = .near) :
    ruleMatchesNode rule node (some nodesRunning)
      = rule.names.any fun name => (nodesRunning node.clusterPath name).contains node.nodeID := by
  simp only [ruleMatchesNode, type, matchCapsuleRule, mode]
  rw [Bool.eq_iff_iff]
  split
  · rename_i nowhere
    simp only [Bool.or_eq_true, List.isEmpty_iff, List.flatMap_eq_nil_iff] at nowhere
    refine iff_of_false (by simp) ?_
    simp only [List.any_eq_true, List.contains_iff_mem, not_exists, not_and]
    intro name listed runs
    rcases nowhere with none | none
    · rw [none] at listed
      cases listed
    · rw [none name listed] at runs
      cases runs
  · simp

theorem ruleMatchesNode_of_eligible {c : Capsule} {node : NodeState}
    {lookup : Option CapsuleTargetLookup} (eligible : (isEligible c node lookup).reason = .ok)
    {rule : PlacementRule} (listed : rule ∈ c.spec.placementRules) (hard : rule.required = true) :
    ruleMatchesNode rule node lookup = true := by
  unfold isEligible at eligible
  split_ifs at eligible
  split at eligible
  · cases eligible
  · rename_i passed
    simpa [hard] using List.find?_eq_none.mp passed rule listed

structure Dominates (k : WeightedCalculator) (c : Capsule) (a b : FullNodeState) : Prop where
  clusterPath : a.clusterPath = b.clusterPath
  cpuCoresTotal : a.cpuCoresTotal = b.cpuCoresTotal
  memoryMBTotal : a.memoryMBTotal = b.memoryMBTotal
  diskMBTotal : a.diskMBTotal = b.diskMBTotal
  cpuCoresFree : b.cpuCoresFree ≤ a.cpuCoresFree
  memoryMBFree : b.memoryMBFree ≤ a.memoryMBFree
  diskMBFree : b.diskMBFree ≤ a.diskMBFree
  reliabilityScore : b.reliabilityScore ≤ a.reliabilityScore
  runningCapsuleCount : a.runningCapsuleCount ≤ b.runningCapsuleCount
  softRules : ∀ rule ∈ c.spec.placementRules, rule.required = false →
    ruleMatchesNode rule b.toNodeState k.lookup = true →
    ruleMatchesNode rule a.toNodeState k.lookup = true
  labels : ∀ label ∈ c.spec.labels.entries, b.labels.lookup label.1 = some label.2 →
    a.labels.lookup label.1 = some label.2
  datacenter : b.datacenter ≠ "" → a.datacenter ≠ ""

variable {k : WeightedCalculator} {c : Capsule} {a b : FullNodeState}

theorem Dominates.affinity (better : Dominates k c a b)
    (eligible : (isEligible c a.toNodeState k.lookup).reason = .ok) :
    AtMost (factorAffinityProximity c b k.lookup) (factorAffinityProximity c a k.lookup) := by
  have soft := better.softRules
  cases lookup : k.lookup with
  | none => exact .rfl
  | some nodesRunning =>
    rw [lookup] at soft eligible
    refine share_mono fun rule member passed => ?_
    simp only [List.mem_filter, Bool.and_eq_true, decide_eq_true_eq] at member
    obtain ⟨listed, type, mode⟩ := member
    rw [← ruleMatchesNode_near type mode] at passed ⊢
    cases hard : rule.required with
    | true => exact ruleMatchesNode_of_eligible eligible listed hard
    | false => exact soft rule listed hard passed

theorem Dominates.diversity (better : Dominates k c a b) :
    AtMost (factorDiversity c b) (factorDiversity c a) := by
  unfold factorDiversity
  split_ifs with _ without without'
  · exact .rfl
  · exact .rfl
  · exact atMost_applied zero_le_one
  · exact absurd (by assumption) (better.datacenter without)
  · exact .rfl

theorem Dominates.factors (better : Dominates k c a b)
    (eligible : (isEligible c a.toNodeState k.lookup).reason = .ok) :
    List.Forall₂ (fun f g => AtMost f.contribution g.contribution ∧ f.weight = g.weight)
      (k.factors c b) (k.factors c a) := by
  have cpu := headroom_mono c.spec.resources.cpuCores b.cpuCoresTotal better.cpuCoresFree
  have memory := headroom_mono c.spec.resources.memoryMB b.memoryMBTotal better.memoryMBFree
  have disk := headroom_mono c.spec.resources.diskMB b.diskMBTotal better.diskMBFree
  have soft : AtMost (factorSoftPlacementMatch c b k.lookup)
      (factorSoftPlacementMatch c a k.lookup) := by
    refine share_mono fun rule member passed => ?_
    obtain ⟨listed, soft⟩ := List.mem_filter.mp member
    exact better.softRules rule listed (by simpa using soft) passed
  have labels : AtMost (factorHardwareLabelMatch c b) (factorHardwareLabelMatch c a) :=
    share_mono fun label listed carried => by
      simpa using better.labels label listed (by simpa using carried)
  simp only [WeightedCalculator.factors, factorCPUHeadroom, factorMemoryHeadroom,
    factorDiskHeadroom, better.cpuCoresTotal, better.memoryMBTotal, better.diskMBTotal,
    List.forall₂_cons, and_true]
  exact ⟨cpu, memory, disk, soft, better.affinity eligible, labels,
    atMost_applied better.reliabilityScore, better.diversity, .rfl, .nil⟩

theorem terms_mono {factors factors' : List Factor}
    (pairwise : List.Forall₂ (fun f g => AtMost f.contribution g.contribution ∧ f.weight = g.weight)
      factors factors') :
    List.Forall₂ (fun term term' => term.1 ≤ term'.1 ∧ term.2 = term'.2) (terms factors)
      (terms factors') := by
  induction pairwise with
  | nil => exact .nil
  | @cons f g rest rest' this _ ih =>
    obtain ⟨name, contribution, weight⟩ := f
    obtain ⟨name', contribution', weight'⟩ := g
    obtain ⟨atMost, same⟩ := this
    cases atMost with
    | none => exact ih
    | some le => exact .cons ⟨le, same⟩ ih

theorem Dominates.penalty (better : Dominates k c a b) (nonneg : k.weights.Nonneg) :
    k.penalty a ≤ k.penalty b := by
  have load : 0 ≤ k.weights.loadPenalty := nonneg _ (by simp [Weights.fields])
  have fewer : (a.runningCapsuleCount : Rat) / 50 ≤ b.runningCapsuleCount / 50 :=
    div_le_div_of_nonneg_right (by exact_mod_cast better.runningCapsuleCount) (by norm_num)
  have free : factorLoadPenalty b ≤ factorLoadPenalty a := by
    refine clamp01_mono (sub_le_sub_left ?_ 1)
    split_ifs <;> linarith
  exact mul_le_mul_of_nonneg_right (by linarith) load

theorem Dominates.score_le (better : Dominates k c a b) (nonneg : k.weights.Nonneg)
    (eligible : (isEligible c a.toNodeState k.lookup).reason = .ok) :
    k.score c b ≤ k.score c a := by
  obtain ⟨more, weights⟩ := Weighted.sum_mono (terms_weight_nonneg nonneg)
    (terms_mono (better.factors eligible))
  have charged := better.penalty nonneg
  have same : (k.tally c b).maxWeightedSum = (k.tally c a).maxWeightedSum := by
    rw [tally_maxWeightedSum, tally_maxWeightedSum, weights]
  have values : (k.tally c b).weightedSum ≤ (k.tally c a).weightedSum := by
    rw [tally_weightedSum, tally_weightedSum]
    linarith
  rw [score_eq, score_eq, same]
  split
  · exact le_rfl
  · rename_i positive
    have quotient := clamp01_mono
      (div_le_div_of_nonneg_right values (not_le.mp positive).le)
    linarith

end Better

/-- Every score is between zero and a hundred, and a node with more to offer has a higher one. -/
theorem calculate_monotone_bounded (k : WeightedCalculator) (nonneg : k.weights.Nonneg)
    (c : Capsule) (a b : FullNodeState) (eligibleA : (k.calculate c a).eligible = true)
    (eligibleB : (k.calculate c b).eligible = true) (better : Dominates k c a b) :
    (0 ≤ (k.calculate c a).score ∧ (k.calculate c a).score ≤ 100) ∧
      (0 ≤ (k.calculate c b).score ∧ (k.calculate c b).score ≤ 100) ∧
      (k.calculate c b).score ≤ (k.calculate c a).score := by
  rw [score_calculate eligibleA, score_calculate eligibleB]
  exact ⟨score_mem k c a, score_mem k c b,
    better.score_le nonneg (eligible_calculate.mp eligibleA)⟩

def labelledCapsule : Capsule where
  id := "web"
  clusterID := "cluster"
  spec :=
    { Capsule.bareSpec ⟨0, 0, 2⟩ with
      labels := AList.singleton "disk" "ssd"
      resources := ⟨1, 0, 0, 0, 0⟩
      placementRules := [⟨"near-db", .capsule, .near, ["db"], ∅, false⟩] }
  status := .announced
  replicas := []
  momentum := ⟨0, 0, 0⟩
  version := ""
  createdAt := 0
  updatedAt := 0

def idleNode : FullNodeState where
  nodeID := "node-a"
  clusterPath := "cluster"
  datacenter := "dc-1"
  labels := AList.singleton "disk" "ssd"
  cpuCoresFree := 8
  memoryMBFree := 0
  diskMBFree := 0
  status := .active
  region := ""
  cpuCoresTotal := 8
  memoryMBTotal := 0
  diskMBTotal := 0
  reliabilityScore := 1
  runningCapsuleCount := 0

def busyNode : FullNodeState :=
  { idleNode with
    nodeID := "node-b"
    datacenter := ""
    labels := ∅
    cpuCoresFree := 2
    reliabilityScore := 1 / 2
    runningCapsuleCount := 10 }

def databaseCalculator : WeightedCalculator where
  weights := defaultWeights
  lookup := some fun _ name => if name = "db" then ["node-a"] else []
  snapLookup := none

/-- The node without load has the higher score. -/
theorem calculate_monotone_bounded_idle :
    (databaseCalculator.calculate labelledCapsule busyNode).score
      ≤ (databaseCalculator.calculate labelledCapsule idleNode).score := by
  refine (calculate_monotone_bounded databaseCalculator (by decide +kernel) labelledCapsule idleNode
    busyNode (by decide +kernel) (by decide +kernel) ?_).2.2
  constructor <;> decide +kernel

end Falak.Gravity
