import Falak.Lib.Bytes
import Mathlib.Algebra.Order.BigOperators.Group.List

/-!
Fields that are written after their number, and when the bytes are also those of other fields.
-/

namespace Falak

def counted (parts : List Bytes) : Bytes := bigEndian 4 parts.length ++ fields parts

theorem fields_cons (a : Bytes) (rest : List Bytes) : fields (a :: rest) = field a ++ fields rest :=
  rfl

@[simp] theorem field_length (a : Bytes) : (field a).length = a.length + 4 := by
  simp only [field, List.length_append, bigEndian_length]
  omega

theorem fields_length (parts : List Bytes) :
    (fields parts).length = 4 * parts.length + (parts.map List.length).sum := by
  induction parts with
  | nil => rfl
  | cons a rest ih =>
    simp only [fields_cons, List.length_append, field_length, ih, List.length_cons, List.map_cons,
      List.sum_cons]
    omega

variable {a : Bytes} {parts rest : List Bytes}

theorem field_small (small : a.length < 256) :
    field a = 0 :: 0 :: 0 :: UInt8.ofNat a.length :: a := by
  have rest : a.length / 256 = 0 := Nat.div_eq_of_lt small
  simp [field, bigEndian, rest]

theorem eq_zero_of_ofNat {n : Nat} (small : n < 256) (zero : UInt8.ofNat n = 0) : n = 0 := by
  have value := congrArg UInt8.toNat zero
  simp only [UInt8.toNat_ofNat', UInt8.toNat_ofNat] at value
  omega

theorem counted_append_eq_iff {last z rest : Bytes}
    (few : parts.length < 2 ^ 32) (short : Short z) :
    counted parts ++ field last = field z ++ rest ↔
      parts.length = z.length ∧ fields (parts ++ [last]) = z ++ rest := by
  have tail : fields (parts ++ [last]) = fields parts ++ field last := by simp [fields]
  rw [tail]
  simp only [counted, field, List.append_assoc]
  constructor
  · intro same
    obtain ⟨numbers, remainder⟩ := List.append_inj same (by simp)
    have wrapped := bigEndian_inj.mp numbers
    unfold Short at short
    exact ⟨by omega, remainder⟩
  · rintro ⟨equal, remainder⟩
    rw [equal, remainder]

theorem fields_ne_of_length {last z : Bytes} (equal : parts.length = z.length) :
    fields (parts ++ [last]) ≠ z := by
  intro same
  have lengths := congrArg List.length same
  simp only [fields_length, List.length_append, List.length_singleton] at lengths
  omega

theorem small_fields_head {tail : Bytes} {w x y l : UInt8} (small : a.length < 256)
    (same : fields (a :: rest) = w :: x :: y :: l :: tail) :
    UInt8.ofNat a.length = l ∧ a ++ fields rest = tail := by
  rw [fields_cons, field_small small] at same
  simp only [List.cons_append, List.cons.injEq] at same
  exact ⟨same.2.2.2.1, same.2.2.2.2⟩

theorem small_fields_zero {tail : Bytes} {l : UInt8} (front : Bytes) (small : a.length < 256)
    (early : front.length < 3) (same : fields (a :: rest) = front ++ l :: tail) : l = 0 := by
  rw [fields_cons, field_small small] at same
  match front, early with
  | [], _ => exact (List.cons.inj same).1.symm
  | [_], _ => exact (List.cons.inj (List.cons.inj same).2).1.symm
  | [_, _], _ => exact (List.cons.inj (List.cons.inj (List.cons.inj same).2).2).1.symm

theorem small_fields_next {b tail : Bytes} {w x y l : UInt8} (front : Bytes)
    (small : a.length < 256) (small' : b.length < 256) (early : front.length < 3)
    (same : fields (a :: b :: rest) = w :: x :: y :: 0 :: (front ++ l :: tail)) : l = 0 := by
  obtain ⟨zero, same⟩ := small_fields_head small same
  rw [List.length_eq_zero_iff.mp (eq_zero_of_ofNat small zero)] at same
  exact small_fields_zero front small' early same

theorem eq_nil_of_fields_eq {parts : List Bytes} {last z t : Bytes}
    (equal : parts.length = z.length) (short : t.length ≤ 15)
    (same : fields (parts ++ [last]) = z ++ field t) : parts = [] := by
  have lengths := congrArg List.length same
  simp only [fields_length, List.length_append, List.length_singleton, field_length] at lengths
  have bound (a : Bytes) (there : a ∈ parts ++ [last]) : 3 * z.length + a.length ≤ t.length := by
    have part : a.length ≤ ((parts ++ [last]).map List.length).sum :=
      List.single_le_sum (fun _ _ => Nat.zero_le _) _ (List.mem_map_of_mem there)
    omega
  have small (a : Bytes) (there : a ∈ parts ++ [last]) : a.length < 256 := by
    have := bound a there
    omega
  have stamp (some : 0 < z.length) : UInt8.ofNat t.length ≠ 0 := by
    intro zero
    have := eq_zero_of_ofNat (by omega) zero
    have := bound last (by simp)
    omega
  rw [field_small (by omega)] at same
  match parts, z, equal with
  | [], _, _ => rfl
  | [a], [_], _ =>
    exact absurd (small_fields_next [] (small a (by simp)) (small last (by simp)) (by simp) same)
      (stamp (by simp))
  | [a, b], [_, _], _ =>
    exact absurd (small_fields_next [0] (small a (by simp)) (small b (by simp)) (by simp) same)
      (stamp (by simp))
  | [a, b, c], [_, _, _], _ =>
    exact absurd (small_fields_next [0, 0] (small a (by simp)) (small b (by simp)) (by simp) same)
      (stamp (by simp))
  | [a, b, c, d], [_, _, _, _], _ =>
    have few := bound a (by simp)
    have little := bound b (by simp)
    have small' := small b (by simp)
    obtain ⟨-, same⟩ := small_fields_head (small a (by simp)) same
    simp only [List.length_cons, List.length_nil] at few little
    match a with
    | [] =>
      obtain ⟨length, -⟩ := small_fields_head small' same
      have := congrArg UInt8.toNat length
      simp only [UInt8.toNat_ofNat'] at this
      omega
    | [_] =>
      exact absurd (small_fields_zero [0, 0] small' (by simp) (List.cons.inj same).2)
        (stamp (by simp))
    | [_, _] =>
      exact absurd (small_fields_zero [0] small' (by simp)
        (List.cons.inj (List.cons.inj same).2).2) (stamp (by simp))
    | [_, _, _] =>
      exact absurd (small_fields_zero [] small' (by simp)
        (List.cons.inj (List.cons.inj (List.cons.inj same).2).2).2) (stamp (by simp))
    | _ :: _ :: _ :: _ :: more =>
      simp only [List.length_cons] at few
      omega
  | [a, b, c, d, e], [_, _, _, _, _], _ =>
    have none (x : Bytes) (there : x ∈ [a, b, c, d, e] ++ [last]) : x = [] := by
      have := bound x there
      simp only [List.length_cons, List.length_nil] at this
      exact List.length_eq_zero_iff.mp (by omega)
    obtain ⟨-, same⟩ := small_fields_head (small a (by simp)) same
    rw [none a (by simp)] at same
    exact absurd (small_fields_next [] (small b (by simp)) (small c (by simp)) (by simp) same)
      (stamp (by simp))
  | _ :: _ :: _ :: _ :: _ :: _ :: more, z, equal =>
    have := bound last (by simp)
    simp only [List.length_cons] at equal
    omega

end Falak
