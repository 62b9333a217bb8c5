import Mathlib.Data.Nat.ModEq
import Mathlib.Data.String.Basic

/-! Byte strings: big-endian numerals, length-prefixed fields and the bytes of a text. -/

namespace Falak

abbrev Bytes := List UInt8

def bigEndian : Nat → Nat → Bytes
  | 0, _ => []
  | width + 1, n => bigEndian width (n / 256) ++ [UInt8.ofNat n]

@[simp] theorem bigEndian_length (width n : Nat) : (bigEndian width n).length = width := by
  induction width generalizing n with
  | zero => rfl
  | succ width ih => simp [bigEndian, ih]

theorem bigEndian_inj {width m n : Nat} :
    bigEndian width m = bigEndian width n ↔ m % 256 ^ width = n % 256 ^ width := by
  induction width generalizing m n with
  | zero => simp [bigEndian, Nat.mod_one]
  | succ width ih =>
    have low : UInt8.ofNat m = UInt8.ofNat n ↔ m % 256 = n % 256 := by
      rw [← UInt8.toNat_inj]
      simp
    have split (k : Nat) : k % 256 ^ (width + 1) = k % 256 + 256 * (k / 256 % 256 ^ width) := by
      rw [Nat.pow_succ', Nat.mod_mul]
    rw [bigEndian, bigEndian, split, split]
    constructor
    · intro same
      obtain ⟨high, last⟩ := List.append_inj' same rfl
      rw [ih.mp high, low.mp (List.singleton_inj.mp last)]
    · intro same
      have digits : m % 256 = n % 256 := by omega
      have quotients : m / 256 % 256 ^ width = n / 256 % 256 ^ width := by omega
      rw [ih.mpr quotients, low.mpr digits]

def ofBigEndian (numeral : Bytes) : Nat := numeral.foldl (fun n b => 256 * n + b.toNat) 0

theorem ofBigEndian_bigEndian (width n : Nat) :
    ofBigEndian (bigEndian width n) = n % 256 ^ width := by
  induction width generalizing n with
  | zero => simp [bigEndian, ofBigEndian, Nat.mod_one]
  | succ width ih =>
    unfold ofBigEndian at ih ⊢
    rw [bigEndian, List.foldl_append, ih, Nat.pow_succ', Nat.mod_mul]
    simp [Nat.add_comm]

def field (data : Bytes) : Bytes := bigEndian 4 data.length ++ data

def Short (data : Bytes) : Prop := data.length < 2 ^ 32

instance (data : Bytes) : Decidable (Short data) := inferInstanceAs (Decidable (_ < _))

theorem field_append_inj {a b rest rest' : Bytes} (short : Short a) (short' : Short b) :
    field a ++ rest = field b ++ rest' ↔ a = b ∧ rest = rest' := by
  -- The length of a field is read before its data.
  constructor
  · intro same
    simp only [field, List.append_assoc] at same
    obtain ⟨lengths, remainder⟩ := List.append_inj same (by simp)
    have equal : a.length = b.length := by
      have wrapped := bigEndian_inj.mp lengths
      unfold Short at short short'
      omega
    exact List.append_inj remainder equal
  · rintro ⟨rfl, rfl⟩
    rfl

def fields (parts : List Bytes) : Bytes := (parts.map field).flatten

theorem fields_inj {parts parts' : List Bytes} (short : ∀ a ∈ parts, Short a)
    (short' : ∀ b ∈ parts', Short b) : fields parts = fields parts' ↔ parts = parts' := by
  constructor
  · intro same
    induction parts generalizing parts' with
    | nil =>
      cases parts' with
      | nil => rfl
      | cons b rest' =>
        have lengths := congrArg List.length same
        simp [fields, field] at lengths
        omega
    | cons a rest ih =>
      cases parts' with
      | nil =>
        have lengths := congrArg List.length same
        simp [fields, field] at lengths
      | cons b rest' =>
        simp only [List.mem_cons, forall_eq_or_imp] at short short'
        have front : field a ++ fields rest = field b ++ fields rest' := same
        obtain ⟨rfl, remainder⟩ := (field_append_inj short.1 short'.1).mp front
        rw [ih short.2 short'.2 remainder]
  · rintro rfl
    rfl

def word (data : Bytes) : Bytes := data.flatMap (fun b => [2, b]) ++ [1]

theorem word_append_unique {a b rest rest' : Bytes} (inside : word a ++ rest <+: word b ++ rest') :
    a = b ∧ rest <+: rest' := by
  -- Both words have a byte more, or both end.
  induction a generalizing b with
  | nil =>
    cases b with
    | nil => exact ⟨rfl, by simpa [word] using inside⟩
    | cons c b => simp [word] at inside
  | cons c a ih =>
    cases b with
    | nil => simp [word] at inside
    | cons c' b =>
      simp only [word, List.flatMap_cons, List.cons_append, List.nil_append,
        List.cons_prefix_cons, true_and] at inside
      obtain ⟨rfl, inside⟩ := inside
      obtain ⟨rfl, after⟩ := ih inside
      exact ⟨rfl, after⟩

def words (parts : List Bytes) : Bytes := parts.flatMap word

theorem words_unique {parts parts' : List Bytes} (inside : words parts <+: words parts')
    (sizes : parts.length = parts'.length) : parts = parts' := by
  induction parts generalizing parts' with
  | nil => exact (List.length_eq_zero_iff.mp sizes.symm).symm
  | cons a parts ih =>
    cases parts' with
    | nil => cases sizes
    | cons b parts' =>
      obtain ⟨rfl, after⟩ := word_append_unique inside
      rw [ih after (Nat.succ.inj sizes)]

def utf8 (text : String) : Bytes := text.toUTF8.data.toList

theorem utf8_inj {s t : String} (same : utf8 s = utf8 t) : s = t := by
  have bytes : s.toUTF8 = t.toUTF8 := ByteArray.ext (Array.toList_inj.mp same)
  exact String.toByteArray_inj.mp bytes

theorem mem_utf8 {s : String} {c : Char} {b : UInt8} (here : c ∈ s.toList)
    (encoded : b ∈ String.utf8EncodeChar c) : b ∈ utf8 s := by
  have bytes : s.toUTF8 = s.toList.utf8Encode := by
    rw [← String.toByteArray_ofList, String.ofList_toList]
    rfl
  rw [utf8, bytes, List.utf8Encode, List.data_toByteArray, List.mem_flatMap]
  exact ⟨c, here, encoded⟩

end Falak
