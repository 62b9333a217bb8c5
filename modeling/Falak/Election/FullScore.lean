import Falak.Election.DelayLaws
import Falak.Gravity.Monotone

/-! Which nodes have the full score and publish without a base wait. -/

namespace Falak.Election

open Falak.Capsule (Capsule)
open Falak.Gravity

def baseWait (score : Score) (maxWait : Rat) : Rat :=
  let score := if score < 0 then 0 else score
  let score := if score > 100 then 100 else score
  (100 - score) / 100 * maxWait

theorem baseWait_eq_zero_iff {score : Score} (low : 0 ≤ score) (high : score ≤ 100) {maxWait : Rat}
    (positive : 0 < maxWait) : baseWait score maxWait = 0 ↔ score = 100 := by
  simp only [baseWait, not_lt.mpr low, not_lt.mpr high, if_false, mul_eq_zero,
    positive.ne', or_false, div_eq_zero_iff, sub_eq_zero]
  -- The scale itself is not zero.
  constructor
  · rintro (full | none)
    · exact full.symm
    · norm_num at none
  · exact fun full => .inl full.symm

def Maximal (k : WeightedCalculator) (c : Capsule) (node : FullNodeState) : Prop :=
  ∀ f ∈ k.factors c node, ∀ value ∈ f.contribution, 0 < f.weight → value = 1

def Weighed (k : WeightedCalculator) (c : Capsule) (node : FullNodeState) : Prop :=
  (∃ f ∈ k.factors c node, f.contribution.isSome ∧ 0 < f.weight) ∨ 0 < k.weights.loadPenalty

variable {k : WeightedCalculator} {c : Capsule} {node : FullNodeState}

theorem mem_terms {term : Rat × Rat} :
    term ∈ terms (k.factors c node) ↔
      ∃ f ∈ k.factors c node, f.contribution = some term.1 ∧ f.weight = term.2 := by
  simp only [terms, List.mem_filterMap, Option.map_eq_some_iff, Prod.ext_iff]
  constructor
  · rintro ⟨f, listed, value, applies, rfl, weight⟩
    exact ⟨f, listed, applies, weight⟩
  · rintro ⟨f, listed, applies, weight⟩
    exact ⟨f, listed, term.1, applies, rfl, weight⟩

theorem sum_eq_weight_iff_maximal (c : Capsule) (node : FullNodeState) (nonneg : k.weights.Nonneg) :
    Weighted.sum (terms (k.factors c node)) ≤ Weighted.weight (terms (k.factors c node)) ∧
      (Weighted.sum (terms (k.factors c node)) = Weighted.weight (terms (k.factors c node)) ↔
        Maximal k c node) := by
  have values : ∀ term ∈ terms (k.factors c node), term.1 ≤ 1 := by
    intro term member
    obtain ⟨f, listed, applies, -⟩ := mem_terms.mp member
    exact inRange_factors f listed term.1 applies
  have weights : ∀ term ∈ terms (k.factors c node), 0 ≤ term.2 := terms_weight_nonneg nonneg
  refine ⟨Weighted.sum_le_weight weights values, ?_⟩
  rw [Weighted.sum_eq_weight_iff weights values]
  constructor
  · intro full f listed value applies
    exact full (value, f.weight) (mem_terms.mpr ⟨f, listed, applies, rfl⟩)
  · intro full term member positive
    obtain ⟨f, listed, applies, weight⟩ := mem_terms.mp member
    exact full f listed term.1 applies (weight ▸ positive)

theorem maxWeightedSum_pos (nonneg : k.weights.Nonneg) (weighed : Weighed k c node) :
    0 < (k.tally c node).maxWeightedSum := by
  have load : 0 ≤ k.weights.loadPenalty := nonneg _ (by simp [Weights.fields])
  have weights : ∀ term ∈ terms (k.factors c node), 0 ≤ term.2 := terms_weight_nonneg nonneg
  have total : 0 ≤ Weighted.weight (terms (k.factors c node)) :=
    List.sum_nonneg (by simpa using fun weight value member => weights (value, weight) member)
  rw [tally_maxWeightedSum]
  rcases weighed with ⟨f, listed, applies, positive⟩ | positive
  · obtain ⟨value, applies⟩ := Option.isSome_iff_exists.mp applies
    have member : f.weight ∈ (terms (k.factors c node)).map Prod.snd :=
      List.mem_map.mpr ⟨(value, f.weight), mem_terms.mpr ⟨f, listed, applies, rfl⟩, rfl⟩
    -- One weight is at most the sum of all of them.
    have below : f.weight ≤ Weighted.weight (terms (k.factors c node)) :=
      List.single_le_sum (by simpa using fun weight value member => weights (value, weight) member)
        _ member
    linarith
  · linarith

theorem penalty_nonneg (nonneg : k.weights.Nonneg) : 0 ≤ k.penalty node := by
  have free : factorLoadPenalty node ≤ 1 := clamp01_le_one _
  exact mul_nonneg (by linarith) (nonneg _ (by simp [Weights.fields]))

theorem score_eq_hundred_iff (nonneg : k.weights.Nonneg) (weighed : Weighed k c node) :
    k.score c node = 100 ↔ Maximal k c node ∧ k.weights.loadPenalty = 0 := by
  have positive := maxWeightedSum_pos nonneg weighed
  have load : 0 ≤ k.weights.loadPenalty := nonneg _ (by simp [Weights.fields])
  have charged : 0 ≤ k.penalty node := penalty_nonneg nonneg
  obtain ⟨atMost, full⟩ := sum_eq_weight_iff_maximal c node nonneg
  have share : k.score c node = 100 ↔
      clamp01 ((k.tally c node).weightedSum / (k.tally c node).maxWeightedSum) = 1 := by
    rw [score_eq, if_neg (not_le.mpr positive)]
    exact ⟨fun same => by linarith, fun same => by rw [same, one_mul]⟩
  rw [share, clamp01_eq_one_iff, one_le_div positive, tally_weightedSum, tally_maxWeightedSum,
    ← full]
  constructor
  · intro least
    exact ⟨by linarith, by linarith⟩
  · rintro ⟨same, none⟩
    have free : k.penalty node = 0 := by rw [WeightedCalculator.penalty, none, mul_zero]
    linarith

def ScaleUsed (k : WeightedCalculator) (c : Capsule) (node : FullNodeState) : Prop :=
  ((k.calculate c node).score = 100 ↔ Maximal k c node ∧ k.penalty node = 0) ∧
    ∀ maxWait : Rat, 0 < maxWait →
      (baseWait (k.calculate c node).score maxWait = 0 ↔ Maximal k c node ∧ k.penalty node = 0)

/--
The gravity scale is fully used for a node exactly if the load penalty has no weight, or the node
is none of the best.
-/
theorem scaleUsed_iff (k : WeightedCalculator) (nonneg : k.weights.Nonneg) (c : Capsule)
    (node : FullNodeState) (eligible : (k.calculate c node).eligible = true)
    (weighed : Weighed k c node) :
    ScaleUsed k c node ↔
      k.weights.loadPenalty = 0 ∨ ¬ (Maximal k c node ∧ k.penalty node = 0) := by
  have scale := score_mem k c node
  have full := score_eq_hundred_iff nonneg weighed
  have waits : ScaleUsed k c node ↔
      (k.score c node = 100 ↔ Maximal k c node ∧ k.penalty node = 0) := by
    unfold ScaleUsed
    rw [score_calculate eligible]
    refine ⟨And.left, fun same => ⟨same, fun maxWait positive => ?_⟩⟩
    rw [baseWait_eq_zero_iff scale.1 scale.2 positive, same]
  rw [waits, full]
  -- Without a weight there is no penalty either.
  have free : k.weights.loadPenalty = 0 → k.penalty node = 0 := fun none => by
    rw [WeightedCalculator.penalty, none, mul_zero]
  constructor
  · intro same
    by_cases none : k.weights.loadPenalty = 0
    · exact .inl none
    · exact .inr fun best => none (same.mpr best).2
  · rintro (none | notBest)
    · exact ⟨fun both => ⟨both.1, free none⟩, fun both => ⟨both.1, none⟩⟩
    · refine iff_of_false (fun both => notBest ⟨both.1, free both.2⟩) notBest

def plainCapsule : Capsule :=
  { labelledCapsule with spec := Capsule.bareSpec ⟨0, 0, 0⟩ }

def defaultCalculator : WeightedCalculator := ⟨defaultWeights, none, none⟩

/-- With the default weights, a node that is as good as can be is below the full score and waits. -/
theorem full_score_missed :
    (defaultCalculator.calculate plainCapsule idleNode).eligible = true ∧
      Maximal defaultCalculator plainCapsule idleNode ∧ defaultCalculator.penalty idleNode = 0 ∧
      (defaultCalculator.calculate plainCapsule idleNode).score = 400 / 9 ∧
      baseWait (defaultCalculator.calculate plainCapsule idleNode).score 9 = 5 := by
  refine ⟨by decide +kernel, ?_, by decide +kernel, by decide +kernel, by decide +kernel⟩
  unfold Maximal
  decide +kernel

/-- Without a weight for the load penalty the scale is fully used. -/
theorem scaleUsed_iff_unloaded :
    ScaleUsed ⟨{ defaultWeights with loadPenalty := 0 }, none, none⟩ plainCapsule idleNode :=
  (scaleUsed_iff _ (by decide +kernel) _ _ (by decide +kernel)
    (.inl ⟨⟨"reliability", some 1, 2 / 5⟩, by decide +kernel, rfl, by decide +kernel⟩)).mpr
    (.inl rfl)

end Falak.Election
