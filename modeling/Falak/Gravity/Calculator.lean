import Falak.Gravity.Eligibility
import Falak.Gravity.Weights

/-!
The gravity of a capsule on a node: what each factor contributes, and the score they add up to.

The finite values of the source's float64 are exact rationals here.
-/

namespace Falak.Gravity

variable (c : Capsule) (node : FullNodeState)

open Falak.Capsule (Capsule)

structure FullNodeState extends NodeState where
  region : String
  cpuCoresTotal : Int
  memoryMBTotal : Int
  diskMBTotal : Int
  reliabilityScore : Rat
  runningCapsuleCount : Int
  deriving DecidableEq

def clamp01 (v : Rat) : Rat := if v < 0 then 0 else if v > 1 then 1 else v

abbrev FactorContribution := Option Rat

def applied (v : Rat) : FactorContribution := some (clamp01 v)

def notApplicable : FactorContribution := none

def headroom (required free total : Int) : FactorContribution :=
  if required ≤ 0 then notApplicable
  else if total ≤ 0 then notApplicable
  else
    let remaining := free - required
    if remaining < 0 then applied 0 else applied (remaining / total)

def factorCPUHeadroom : FactorContribution :=
  headroom c.spec.resources.cpuCores node.cpuCoresFree node.cpuCoresTotal

def factorMemoryHeadroom : FactorContribution :=
  headroom c.spec.resources.memoryMB node.memoryMBFree node.memoryMBTotal

def factorDiskHeadroom : FactorContribution :=
  headroom c.spec.resources.diskMB node.diskMBFree node.diskMBTotal

def share {α : Type} (test : α → Bool) (elements : List α) : FactorContribution :=
  if elements.length = 0 then notApplicable
  else applied (elements.countP test / elements.length)

def factorSoftPlacementMatch (lookup : Option CapsuleTargetLookup) : FactorContribution :=
  share (ruleMatchesNode · node.toNodeState lookup) (c.spec.placementRules.filter (!·.required))

/-- The share of the near rules whose targets run on a node. -/
def factorAffinityProximity (lookup : Option CapsuleTargetLookup) : FactorContribution :=
  match lookup with
  | none => notApplicable
  | some nodesRunning =>
    share (fun rule => rule.names.any fun name =>
        (nodesRunning node.clusterPath name).contains node.nodeID)
      (c.spec.placementRules.filter fun rule => rule.type = .capsule && rule.mode = .near)

def factorHardwareLabelMatch : FactorContribution :=
  share (fun label => node.labels.lookup label.1 = some label.2) c.spec.labels.entries

def factorLoadPenalty : Rat :=
  let softCap : Rat := 50
  let utilization := node.runningCapsuleCount / softCap
  let utilization := if utilization > 1 then 1 else utilization
  clamp01 (1 - utilization)

def factorReliability : FactorContribution := applied node.reliabilityScore

def factorDiversity : FactorContribution :=
  if c.spec.replicas.min < 2 ∧ c.spec.replicas.exact < 2 then notApplicable
  else if node.datacenter = "" then applied 0
  else applied 1

abbrev SnapshotLookup := String → String → Bool

def factorSnapshotLocality (snapLookup : Option SnapshotLookup) :
    FactorContribution :=
  match snapLookup with
  | none => notApplicable
  | some hasLocalSnapshot =>
    let tag := if c.spec.imageDigest = "" then c.spec.image else c.spec.imageDigest
    if hasLocalSnapshot c.id tag then applied 1 else applied 0

structure WeightedCalculator where
  weights : Weights
  lookup : Option CapsuleTargetLookup
  snapLookup : Option SnapshotLookup

structure Factor where
  name : String
  contribution : FactorContribution
  weight : Rat
  deriving DecidableEq

structure Tally where
  factors : List (String × Rat) := []
  weightedSum : Rat := 0
  maxWeightedSum : Rat := 0

def Tally.addFactor (t : Tally) (f : Factor) : Tally :=
  match f.contribution with
  | none => t
  | some value =>
    { factors := t.factors ++ [(f.name, value)]
      weightedSum := t.weightedSum + value * f.weight
      maxWeightedSum := t.maxWeightedSum + f.weight }

structure Calculation extends Result where
  factors : List (String × Rat)
  weights : Weights

namespace WeightedCalculator

variable (k : WeightedCalculator) (c : Capsule) (node : FullNodeState)

def factors : List Factor :=
  [⟨"cpu_headroom", factorCPUHeadroom c node, k.weights.cpuHeadroom⟩,
    ⟨"memory_headroom", factorMemoryHeadroom c node, k.weights.memoryHeadroom⟩,
    ⟨"disk_headroom", factorDiskHeadroom c node, k.weights.diskHeadroom⟩,
    ⟨"soft_placement_match", factorSoftPlacementMatch c node k.lookup,
      k.weights.softPlacementMatch⟩,
    ⟨"affinity_proximity", factorAffinityProximity c node k.lookup, k.weights.affinityProximity⟩,
    ⟨"hardware_label_match", factorHardwareLabelMatch c node, k.weights.hardwareLabelMatch⟩,
    ⟨"reliability", factorReliability node, k.weights.reliability⟩,
    ⟨"diversity", factorDiversity c node, k.weights.diversity⟩,
    ⟨"snapshot_locality", factorSnapshotLocality c k.snapLookup, k.weights.snapshotLocality⟩]

def penalty : Rat := (1 - factorLoadPenalty node) * k.weights.loadPenalty

def tally : Tally :=
  let t := (k.factors c node).foldl Tally.addFactor {}
  { factors := t.factors ++ [("load_penalty", factorLoadPenalty node)]
    weightedSum := t.weightedSum - k.penalty node
    maxWeightedSum := t.maxWeightedSum + k.weights.loadPenalty }

def score : Score :=
  let t := k.tally c node
  if t.maxWeightedSum ≤ 0 then 50
  else
    let normalized := t.weightedSum / t.maxWeightedSum
    let normalized := if normalized < 0 then 0 else normalized
    let normalized := if normalized > 1 then 1 else normalized
    normalized * 100

def calculate : Calculation :=
  let inelig := isEligible c node.toNodeState k.lookup
  if inelig.reason = .ok then
    { score := k.score c node
      eligible := true
      inelig := inelig
      factors := (k.tally c node).factors
      weights := k.weights }
  else
    { score := 0, eligible := false, inelig := inelig, factors := [], weights := k.weights }

end WeightedCalculator

variable {k : WeightedCalculator} {c : Capsule} {node : FullNodeState}

theorem toResult_calculate :
    (k.calculate c node).toResult
      = (Calculator.mk k.lookup fun _ _ => k.score c node).calculate c node.toNodeState := by
  simp only [WeightedCalculator.calculate, Calculator.calculate]
  split <;> rfl

theorem score_calculate (eligible : (k.calculate c node).eligible = true) :
    (k.calculate c node).score = k.score c node := by
  unfold WeightedCalculator.calculate at eligible ⊢
  simp only at eligible ⊢
  split at eligible
  · rename_i passed
    rw [if_pos passed]
  · cases eligible

theorem eligible_calculate :
    (k.calculate c node).eligible = true ↔
      (isEligible c node.toNodeState k.lookup).reason = .ok := by
  rw [toResult_calculate, calculate_eligible]

end Falak.Gravity
