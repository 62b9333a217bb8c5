import Falak.Election.Delay
import Mathlib.Algebra.Order.Field.Basic
import Mathlib.Tactic.Linarith

/-! How the delay strategy orders the nodes and the slots of a capsule. -/

namespace Falak.Election

theorem waitForScore_eq (score : Score) (maxWait : Int) :
    waitForScore score maxWait =
      truncate ((100 - min 100 (max 0 score)) / 100 * maxWait) := by
  have low : (if score < 0 then 0 else score) = max 0 score := by
    split
    · rename_i negative
      rw [max_eq_left negative.le]
    · rename_i positive
      rw [max_eq_right (not_lt.mp positive)]
  have high : (if max 0 score > 100 then 100 else max 0 score) = min 100 (max 0 score) := by
    split
    · rename_i above
      rw [min_eq_left (le_of_lt above)]
    · rename_i below
      rw [min_eq_right (not_lt.mp below)]
  simp only [waitForScore, low, high]

theorem truncate_mono {x y : Rat} (positive : 0 ≤ x) (below : x ≤ y) : truncate x ≤ truncate y := by
  have first : ¬ x < 0 := not_lt.mpr positive
  have second : ¬ y < 0 := not_lt.mpr (positive.trans below)
  simp only [truncate, first, second, if_false]
  exact Rat.floor_monotone below

theorem truncate_nonneg {x : Rat} (positive : 0 ≤ x) : 0 ≤ truncate x := by
  have first : ¬ x < 0 := not_lt.mpr positive
  simp only [truncate, first, if_false]
  exact Rat.le_floor_iff.mpr (by simpa using positive)

variable {maxWait : Int}

theorem fraction_nonneg (positive : 0 ≤ maxWait) (score : Score) :
    0 ≤ (100 - min 100 (max 0 score)) / 100 * (maxWait : Rat) := by
  have scale : min 100 (max 0 score) ≤ (100 : Rat) := min_le_left _ _
  have wait : (0 : Rat) ≤ maxWait := by exact_mod_cast positive
  refine mul_nonneg (div_nonneg ?_ ?_) wait
  · linarith
  · linarith

theorem waitForScore_nonneg (positive : 0 ≤ maxWait) (score : Score) :
    0 ≤ waitForScore score maxWait := by
  rw [waitForScore_eq]
  exact truncate_nonneg (fraction_nonneg positive score)

theorem waitForScore_anti (positive : 0 ≤ maxWait) {lower higher : Score} (below : lower ≤ higher) :
    waitForScore higher maxWait ≤ waitForScore lower maxWait := by
  rw [waitForScore_eq, waitForScore_eq]
  refine truncate_mono (fraction_nonneg positive higher) ?_
  have wait : (0 : Rat) ≤ maxWait := by exact_mod_cast positive
  have clamped : min 100 (max 0 lower) ≤ min 100 (max 0 higher) :=
    min_le_min_left _ (max_le_max_left _ below)
  refine mul_le_mul_of_nonneg_right ?_ wait
  linarith

theorem replicaSlotStagger_slot {i : Nat} {stagger : Int} (positive : 0 < stagger)
    (fits : i * stagger < 2 ^ 63) : replicaSlotStagger (replicaSlotID i) stagger = i * stagger := by
  have product : (i : Int) * 1 ≤ i * stagger := Int.mul_le_mul_of_nonneg_left positive (by omega)
  have small : i < 2 ^ 63 := by omega
  have parsed : atoi (replicaSlotID i) = some (i : Int) := atoi_repr small
  have notNegative : ¬ (i : Int) < 0 := by omega
  simp only [replicaSlotStagger, parsed, Int.not_le.mpr positive, notNegative, if_false]
  exact int64_of_fits (by omega) fits

theorem waitForScore_le (positive : 0 ≤ maxWait) (score : Score) :
    waitForScore score maxWait ≤ maxWait := by
  have worst : waitForScore (min 0 score) maxWait = maxWait := by
    have low : max 0 (min 0 score) = 0 := max_eq_left (min_le_left _ _)
    have whole : (0 : Rat) ≤ maxWait := by exact_mod_cast positive
    rw [waitForScore_eq, low, truncate]
    norm_num [whole]
  calc waitForScore score maxWait ≤ waitForScore (min 0 score) maxWait :=
        waitForScore_anti positive (min_le_right _ _)
    _ = maxWait := worst

theorem jitter_bounds {max : Int} (positive : 0 < max) (random : Option (Fin (2 ^ 64))) :
    0 ≤ jitter max random ∧ jitter max random < max := by
  simp only [jitter, not_le.mpr positive, if_false]
  cases random with
  | none => exact ⟨le_rfl, positive⟩
  | some n => exact ⟨Int.emod_nonneg _ positive.ne', Int.emod_lt_of_pos _ positive⟩

namespace DelayStrategy

def wait (s : DelayStrategy) (score : Score) (replicaID : String) (random : Option (Fin (2 ^ 64))) :
    Int :=
  int64 (int64 (waitForScore score s.maxWait + replicaSlotStagger replicaID s.replicaStagger)
    + jitter s.maxJitter random)

theorem decide_ok (s : DelayStrategy) (score : Score) (inelig : Gravity.Ineligibility)
    (req : Request) (random : Option (Fin (2 ^ 64))) (now : Int) :
    s.decide (.ok ⟨score, true, inelig⟩) req random now =
      ⟨true, score, now + s.wait score req.replicaID random, "delay strategy: eligible"⟩ := rfl

variable {score : Score} {random : Option (Fin (2 ^ 64))}

theorem wait_slot (s : DelayStrategy) {i : Nat}
    (wait : 0 ≤ s.maxWait) (stagger : 0 < s.replicaStagger)
    (jitters : 0 ≤ jitter s.maxJitter random)
    (fits : waitForScore score s.maxWait + i * s.replicaStagger + jitter s.maxJitter random
      < 2 ^ 63) :
    s.wait score (replicaSlotID i) random =
      waitForScore score s.maxWait + i * s.replicaStagger + jitter s.maxJitter random := by
  have base := waitForScore_nonneg wait score
  have slots : 0 ≤ (i : Int) * s.replicaStagger := Int.mul_nonneg (by omega) (by omega)
  have inner : int64 (waitForScore score s.maxWait + i * s.replicaStagger)
      = waitForScore score s.maxWait + i * s.replicaStagger :=
    int64_of_fits (by omega) (by omega)
  rw [DelayStrategy.wait, replicaSlotStagger_slot stagger (by omega), inner,
    int64_of_fits (by omega) fits]

theorem decide_eligible (s : DelayStrategy) {i : Nat} {capsuleID clusterPath : String}
    (wait : 0 ≤ s.maxWait) (stagger : 0 < s.replicaStagger) (still : jitter s.maxJitter random = 0)
    (fits : waitForScore score s.maxWait + i * s.replicaStagger < 2 ^ 63) (now : Int) :
    s.decide (.ok ⟨score, true, ⟨.ok, ""⟩⟩) ⟨capsuleID, replicaSlotID i, clusterPath⟩ random now =
      ⟨true, score, now + (waitForScore score s.maxWait + i * s.replicaStagger),
        "delay strategy: eligible"⟩ := by
  rw [decide_ok, wait_slot s wait stagger (by omega) (by omega), still, Int.add_zero]

end DelayStrategy

end Falak.Election
