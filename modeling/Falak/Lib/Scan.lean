import Falak.Lib.Decimal
import Mathlib.Data.List.TakeWhile

/-! Reading an integer from the front of a text, as the formatted scan of the source does. -/

namespace Falak

def scanSpaces : List (Nat × Nat) :=
  [(0x09, 0x09), (0x0b, 0x0d), (0x20, 0x20), (0x85, 0x85), (0xa0, 0xa0), (0x1680, 0x1680),
    (0x2000, 0x200a), (0x2028, 0x2029), (0x202f, 0x202f), (0x205f, 0x205f), (0x3000, 0x3000)]

def isScanSpace (c : Char) : Bool :=
  scanSpaces.any fun range => range.1 ≤ c.toNat && c.toNat ≤ range.2

def leadingDigits (cs : List Char) : Option Nat := digits? (cs.takeWhile Char.isDigit)

def scanInt (text : String) : Option Int :=
  let value : Option Int :=
    match text.toList.dropWhile isScanSpace with
    | '-' :: cs => (leadingDigits cs).map fun v => -(v : Int)
    | '+' :: cs => (leadingDigits cs).map Nat.cast
    | cs => (leadingDigits cs).map Nat.cast
  value.filter fun v => -2 ^ 63 ≤ v ∧ v < 2 ^ 63

theorem isScanSpace_of_isDigit {c : Char} (digit : c.isDigit = true) : isScanSpace c = false := by
  simp only [Char.isDigit, ge_iff_le, Bool.and_eq_true, decide_eq_true_eq,
    UInt32.le_iff_toNat_le] at digit
  have low : 48 ≤ c.toNat := digit.1
  have high : c.toNat ≤ 57 := digit.2
  simp only [isScanSpace, scanSpaces, List.any_cons, List.any_nil, Bool.or_false,
    Bool.or_eq_false_iff, Bool.and_eq_false_iff, decide_eq_false_iff_not]
  omega

theorem scanInt_repr {n : Nat} (fits : n < 2 ^ 63) : scanInt (toString n) = some (n : Int) := by
  have digits : ∀ c ∈ Nat.toDigits 10 n, c.isDigit = true := fun c => isDigit_of_mem_numeral
  have whole : (Nat.toDigits 10 n).dropWhile isScanSpace = Nat.toDigits 10 n := by
    refine List.dropWhile_eq_self_iff.mpr fun nonempty => ?_
    rw [isScanSpace_of_isDigit (digits _ (List.getElem_mem nonempty))]
    decide
  unfold scanInt
  rw [toList_toString, whole]
  split
  · rename_i cs signed
    exact absurd (digits '-' (signed ▸ List.mem_cons_self)) (by decide)
  · rename_i cs signed
    exact absurd (digits '+' (signed ▸ List.mem_cons_self)) (by decide)
  · rw [leadingDigits, List.takeWhile_eq_self_iff.mpr digits, digits?_toDigits]
    simpa using fits

end Falak
