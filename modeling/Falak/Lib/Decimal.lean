import Falak.Lib.Clock

/-! Decimal numerals and 64-bit integers, as the standard library of the source reads them. -/

namespace Falak

def int64 (x : Int) : Int := x.bmod (2 ^ 64)

def int32 (x : Int) : Int := x.bmod (2 ^ 32)

theorem int64_of_fits {x : Int} (low : -2 ^ 63 ≤ x) (high : x < 2 ^ 63) : int64 x = x := by
  unfold int64
  rw [Int.bmod_eq_of_le] <;> omega

def digits? (cs : List Char) : Option Nat :=
  if cs ≠ [] ∧ cs.all Char.isDigit then some (Nat.ofDigitChars 10 cs 0) else none

def atoi (text : String) : Option Int :=
  let value : Option Int :=
    match text.toList with
    | '-' :: cs => (digits? cs).map fun v => -(v : Int)
    | '+' :: cs => (digits? cs).map Nat.cast
    | cs => (digits? cs).map Nat.cast
  value.filter fun v => -2 ^ 63 ≤ v ∧ v < 2 ^ 63

theorem isDigit_of_mem_numeral {n : Nat} {c : Char} (here : c ∈ Nat.toDigits 10 n) :
    c.isDigit = true :=
  Nat.isDigit_of_mem_toDigits (by omega) (by omega) here

theorem digits?_toDigits (n : Nat) : digits? (Nat.toDigits 10 n) = some n := by
  have digits : (Nat.toDigits 10 n).all Char.isDigit = true :=
    List.all_eq_true.mpr fun c here => isDigit_of_mem_numeral here
  simp [digits?, digits, Nat.toDigits_ne_nil, Nat.ofDigitChars_ten_toDigits]

theorem toList_toString (n : Nat) : (toString n).toList = Nat.toDigits 10 n := by
  rw [Nat.toString_eq_ofList_toDigits, String.toList_ofList]

theorem eq_of_toString_eq {m n : Nat} (same : toString m = toString n) : m = n := by
  have digits : Nat.toDigits 10 m = Nat.toDigits 10 n := by
    rw [← toList_toString, ← toList_toString, same]
  have values := digits?_toDigits m
  rw [digits, digits?_toDigits, Option.some.injEq] at values
  exact values.symm

theorem atoi_repr {n : Nat} (fits : n < 2 ^ 63) : atoi (toString n) = some (n : Int) := by
  unfold atoi
  rw [toList_toString]
  split
  · rename_i cs signed
    exact absurd (isDigit_of_mem_numeral (signed ▸ List.mem_cons_self)) (by decide)
  · rename_i cs signed
    exact absurd (isDigit_of_mem_numeral (signed ▸ List.mem_cons_self)) (by decide)
  · rw [digits?_toDigits]
    simpa using fits

end Falak
