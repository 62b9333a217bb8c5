import Mathlib.Logic.Basic

/-! Lists in which an entry was replaced, changed or added. -/

namespace Falak

variable {α : Type} {xs : List α} {i j : Nat}

theorem lt_of_some {x : α} (here : xs[i]? = some x) : i < xs.length :=
  (List.getElem?_eq_some_iff.mp here).1

theorem set_some {x y : α} (after : (xs.set i x)[j]? = some y) :
    j = i ∧ y = x ∨ j ≠ i ∧ xs[j]? = some y := by
  rw [List.getElem?_set] at after
  by_cases same : i = j
  · subst same
    simp only [if_true, Option.ite_none_right_eq_some, Option.some.injEq] at after
    exact .inl ⟨rfl, after.2.symm⟩
  · simp only [same, if_false] at after
    exact .inr ⟨Ne.symm same, after⟩

theorem modify_some {change : α → α} {y : α} (after : (xs.modify i change)[j]? = some y) :
    ∃ x, xs[j]? = some x ∧ (j = i ∧ y = change x ∨ j ≠ i ∧ y = x) := by
  rw [List.getElem?_modify] at after
  simp only [Option.map_eq_map, Option.map_eq_some_iff] at after
  obtain ⟨x, there, rfl⟩ := after
  refine ⟨x, there, ?_⟩
  by_cases same : i = j
  · exact .inl ⟨same.symm, by simp [same]⟩
  · exact .inr ⟨Ne.symm same, by simp [same]⟩

theorem append_some {x y : α} (after : (xs ++ [x])[j]? = some y) :
    j = xs.length ∧ y = x ∨ xs[j]? = some y := by
  rw [List.getElem?_append] at after
  split at after
  · exact .inr after
  · simp only [List.getElem?_singleton, Option.ite_none_right_eq_some, Option.some.injEq] at after
    exact .inl ⟨by omega, after.2.symm⟩

theorem entry_of_grown {ys : List α} (grown : xs <+: ys) (early : i < xs.length) :
    ys[i]? = xs[i]? := by
  rw [List.prefix_iff_getElem?.mp grown i early, List.getElem?_eq_getElem early]

theorem pairwise_snoc {rel : α → α → Prop} {x : α} (related : xs.Pairwise rel)
    (last : ∀ y ∈ xs, rel y x) : (xs ++ [x]).Pairwise rel := by
  refine List.pairwise_append.mpr ⟨related, List.pairwise_singleton _ _, ?_⟩
  intro y there z added
  rw [List.mem_singleton.mp added]
  exact last y there

theorem map_modify {β : Type} (view : α → β) {change : α → α} {change' : β → β}
    (commutes : ∀ x, view (change x) = change' (view x)) :
    (xs.modify i change).map view = (xs.map view).modify i change' := by
  apply List.ext_getElem?
  intro j
  simp only [List.getElem?_map, List.getElem?_modify, Option.map_eq_map, Option.map_map]
  cases xs[j]? with
  | none => rfl
  | some x =>
    simp only [Option.map_some, Function.comp_apply]
    split
    · rw [commutes]
    · rfl

end Falak
