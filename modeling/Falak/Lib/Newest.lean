import Mathlib.Data.List.Sort

/-! The last elements of a list, and how they are found by a key that ascends. -/

namespace Falak

variable {α β : Type}

def newest (n : Nat) (l : List α) : List α := l.drop (l.length - n)

theorem map_newest (f : α → β) (n : Nat) (l : List α) :
    (newest n l).map f = newest n (l.map f) := by
  simp [newest, List.map_drop]

theorem getLast?_newest {n : Nat} (some : 0 < n) (l : List α) :
    (newest n l).getLast? = l.getLast? := by
  rw [newest, List.getLast?_drop]
  split
  · have empty : l = [] := List.eq_nil_of_length_eq_zero (by omega)
    rw [empty]
    rfl
  · rfl

theorem newest_newest_append (n : Nat) (l : List α) (a : α) :
    newest n (newest n l ++ [a]) = newest n (l ++ [a]) := by
  by_cases short : l.length ≤ n
  · simp [newest, Nat.sub_eq_zero_of_le short]
  · cases n with
    | zero => simp [newest]
    | succ n =>
      have first : l.length - (l.length - (n + 1)) + 1 - (n + 1) = 1 := by omega
      have both : l.length + 1 - (n + 1) = l.length - (n + 1) + 1 := by omega
      simp only [newest, List.length_append, List.length_drop, List.length_singleton, first, both]
      rw [List.drop_append_of_le_length (by simp; omega), List.drop_drop,
        List.drop_append_of_le_length (by omega)]

/-- There is one way to order elements by a key that tells them apart. -/
theorem eq_of_ascending {γ : Type} [LinearOrder γ] (key : α → γ) {l l' : List α}
    (same : l'.Perm l) (sorted : l'.Pairwise (key · ≤ key ·))
    (ascending : l.Pairwise (key · < key ·)) : l' = l := by
  -- No two keys are the same, so the order is strict.
  have distinct : l'.Pairwise (key · ≠ key ·) :=
    same.symm.pairwise (ascending.imp fun less => less.ne) fun h => h.symm
  have strict := (sorted.and distinct).imp fun (both : _ ∧ _) => both.1.lt_of_ne both.2
  exact List.Perm.eq_of_pairwise (fun a b _ _ less more => absurd more less.asymm) strict ascending
    same

theorem mergeSort_of_ascending (key : α → Nat) {l : List α}
    (ascending : l.Pairwise (key · < key ·)) :
    l.mergeSort (fun a b => decide (key b ≤ key a)) = l.reverse := by
  have sorted : (l.mergeSort fun a b => decide (key b ≤ key a)).Pairwise
      fun a b => key b ≤ key a := by
    refine (List.pairwise_mergeSort ?_ ?_ l).imp of_decide_eq_true
    all_goals
      simp only [decide_eq_true_eq, Bool.or_eq_true]
      omega
  exact eq_of_ascending (fun a => OrderDual.toDual (key a))
    ((List.mergeSort_perm l _).trans l.reverse_perm.symm) sorted
    (List.pairwise_reverse.mpr ascending)

theorem filter_back (key : α → Nat) {front back : List α}
    (below : ∀ a ∈ front, ∀ b ∈ back, key a < key b) :
    ((front ++ back).filter fun a => decide (key a ∈ back.map key)) = back := by
  have none : ∀ a ∈ front, ¬ decide (key a ∈ back.map key) = true := by
    intro a member there
    obtain ⟨b, later, same⟩ := List.mem_map.mp (of_decide_eq_true there)
    exact (below a member b later).ne same.symm
  have all : ∀ b ∈ back, decide (key b ∈ back.map key) = true :=
    fun b member => decide_eq_true (List.mem_map_of_mem member)
  rw [List.filter_append, List.filter_eq_nil_iff.mpr none, List.filter_eq_self.mpr all,
    List.nil_append]

/-- The elements whose keys are among the greatest are the last ones. -/
theorem filter_greatest (key : α → Nat) (n : Nat) {l : List α}
    (ascending : l.Pairwise (key · < key ·)) :
    (l.filter fun a => decide (key a ∈ ((l.map key).mergeSort fun a b => decide (b ≤ a)).take n))
      = newest n l := by
  have keys : (l.map key).mergeSort (fun a b => decide (b ≤ a)) = (l.map key).reverse :=
    mergeSort_of_ascending id (List.pairwise_map.mpr ascending)
  have whole := List.take_append_drop (l.length - n) l
  have apart := ascending
  rw [← whole, List.pairwise_append] at apart
  have last := filter_back key apart.2.2
  rw [whole] at last
  rw [keys, List.take_reverse, List.length_map, ← List.map_drop, newest]
  simpa only [List.mem_reverse] using last

end Falak
