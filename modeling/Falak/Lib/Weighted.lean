import Mathlib.Algebra.Order.BigOperators.Group.List
import Mathlib.Algebra.Order.Field.Basic
import Mathlib.Tactic.Linarith

/-! Sums of weighted values: how they compare with each other and with the sum of the weights. -/

namespace Falak.Weighted

variable {K : Type} [Field K] [LinearOrder K] [IsStrictOrderedRing K]

def sum (terms : List (K × K)) : K := (terms.map fun term => term.1 * term.2).sum

def weight (terms : List (K × K)) : K := (terms.map Prod.snd).sum

omit [LinearOrder K] [IsStrictOrderedRing K] in
@[simp] theorem sum_cons (term : K × K) (terms : List (K × K)) :
    sum (term :: terms) = term.1 * term.2 + sum terms := rfl

omit [LinearOrder K] [IsStrictOrderedRing K] in
@[simp] theorem weight_cons (term : K × K) (terms : List (K × K)) :
    weight (term :: terms) = term.2 + weight terms := rfl

variable {terms : List (K × K)}

theorem sum_le_weight (weights : ∀ term ∈ terms, 0 ≤ term.2) (values : ∀ term ∈ terms, term.1 ≤ 1) :
    sum terms ≤ weight terms := by
  refine List.sum_le_sum fun term member => ?_
  calc term.1 * term.2 ≤ 1 * term.2 :=
        mul_le_mul_of_nonneg_right (values term member) (weights term member)
    _ = term.2 := one_mul _

theorem sum_eq_weight_iff (weights : ∀ term ∈ terms, 0 ≤ term.2)
    (values : ∀ term ∈ terms, term.1 ≤ 1) :
    sum terms = weight terms ↔ ∀ term ∈ terms, 0 < term.2 → term.1 = 1 := by
  induction terms with
  | nil => simp [sum, weight]
  | cons term rest ih =>
    rw [List.forall_mem_cons] at weights values
    have others := sum_le_weight weights.2 values.2
    have this : term.1 * term.2 ≤ term.2 := mul_le_of_le_one_left weights.1 values.1
    have full : term.1 * term.2 = term.2 ↔ (0 < term.2 → term.1 = 1) := by
      rcases weights.1.eq_or_lt with zero | positive
      · simp [← zero]
      · rw [mul_eq_right₀ positive.ne']
        exact ⟨fun one _ => one, fun one => one positive⟩
    rw [List.forall_mem_cons, ← full, ← ih weights.2 values.2, sum_cons, weight_cons]
    constructor
    · intro same
      exact ⟨by linarith, by linarith⟩
    · rintro ⟨first, second⟩
      rw [first, second]

theorem sum_mono {larger : List (K × K)} (weights : ∀ term ∈ terms, 0 ≤ term.2)
    (pairwise : List.Forall₂ (fun term term' => term.1 ≤ term'.1 ∧ term.2 = term'.2) terms larger) :
    sum terms ≤ sum larger ∧ weight terms = weight larger := by
  -- The terms are compared one by one.
  induction pairwise with
  | nil => exact ⟨le_rfl, rfl⟩
  | @cons term term' rest rest' this _ ih =>
    rw [List.forall_mem_cons] at weights
    obtain ⟨values, same⟩ := ih weights.2
    have grows : term.1 * term.2 ≤ term'.1 * term'.2 := by
      rw [← this.2]
      exact mul_le_mul_of_nonneg_right this.1 weights.1
    simp only [sum_cons, weight_cons, this.2, same, and_true]
    rw [← this.2] at grows ⊢
    exact add_le_add grows values

end Falak.Weighted
