import Falak.Lib.Bytes
import Mathlib.Data.List.Induction

/-! Names of files, the paths they form, and the lexical rules for the text of a path. -/

namespace Falak

def slash : UInt8 := 47

def dot : UInt8 := 46

def IsName (part : Bytes) : Prop :=
  part ≠ [] ∧ slash ∉ part ∧ part ≠ [dot] ∧ part ≠ [dot, dot]

instance (part : Bytes) : Decidable (IsName part) := inferInstanceAs (Decidable (_ ∧ _))

structure Name where
  bytes : Bytes
  valid : IsName bytes
  deriving DecidableEq

abbrev Path := List Name

def Path.text (p : Path) : Bytes :=
  if p = [] then [dot] else [slash].intercalate (p.map Name.bytes)

structure Cleaned where
  absolute : Bool
  ups : Nat
  names : Path
  deriving DecidableEq

namespace Cleaned

def push (c : Cleaned) (part : Bytes) : Cleaned :=
  if part = [dot, dot] then
    match c.names with
    | [] => if c.absolute then c else { c with ups := c.ups + 1 }
    | _ :: _ => { c with names := c.names.dropLast }
  else if valid : IsName part then { c with names := c.names ++ [⟨part, valid⟩] }
  else c

theorem push_bytes (c : Cleaned) (name : Name) :
    c.push name.bytes = { c with names := c.names ++ [name] } := by
  rw [push, if_neg name.valid.2.2.2, dif_pos name.valid]

theorem foldl_push_bytes (c : Cleaned) (p : Path) :
    (p.map Name.bytes).foldl push c = { c with names := c.names ++ p } := by
  induction p generalizing c with
  | nil => simp
  | cons name rest ih => simp [push_bytes, ih]

def join (c : Cleaned) (text : Bytes) : Cleaned := (text.splitOn slash).foldl push c

theorem join_bytes (c : Cleaned) (name : Name) :
    c.join name.bytes = { c with names := c.names ++ [name] } := by
  rw [join, List.splitOn_eq_singleton name.valid.2.1, List.foldl_cons, push_bytes, List.foldl_nil]

end Cleaned

def clean (text : Bytes) : Cleaned :=
  (text.splitOn slash).foldl Cleaned.push ⟨text.head? = some slash, 0, []⟩

def Path.join (base : Path) (parts : List Bytes) : Path :=
  ((parts.flatMap (·.splitOn slash)).foldl Cleaned.push ⟨true, 0, base⟩).names

def relative (parts : List Bytes) : Cleaned :=
  (parts.flatMap (·.splitOn slash)).foldl Cleaned.push ⟨false, 0, []⟩

namespace Cleaned

variable (c : Cleaned)

theorem push_up :
    c.push [dot, dot] =
      if c.names ≠ [] then { c with names := c.names.dropLast }
      else if c.absolute then c else { c with ups := c.ups + 1 } := by
  unfold push
  rw [if_pos rfl]
  split
  · rename_i none
    simp [none]
  · rename_i some
    simp [some]

theorem push_other {part : Bytes} (up : part ≠ [dot, dot]) (other : ¬ IsName part) :
    c.push part = c := by
  rw [push, if_neg up, dif_neg other]

theorem ups_le_push (part : Bytes) : c.ups ≤ (c.push part).ups := by
  by_cases up : part = [dot, dot]
  · rw [up, push_up]
    split_ifs
    · exact Nat.le_refl _
    · exact Nat.le_refl _
    · exact Nat.le_succ _
  · by_cases valid : IsName part
    · exact Nat.le_of_eq (by rw [push_bytes c ⟨part, valid⟩])
    · exact Nat.le_of_eq (by rw [push_other c up valid])

theorem ups_le_foldl_push (parts : List Bytes) :
    c.ups ≤ (parts.foldl push c).ups := by
  induction parts generalizing c with
  | nil => exact Nat.le_refl _
  | cons part rest ih => exact Nat.le_trans (ups_le_push c part) (ih _)

structure Below (base : Path) (c relative : Cleaned) : Prop where
  absolute : c.absolute = true
  unknown : relative.absolute = false
  names : c.names = base.take (base.length - relative.ups) ++ relative.names

theorem Below.push {base : Path} {c relative : Cleaned} (below : Below base c relative)
    {part : Bytes} (room : (relative.push part).ups ≤ base.length) :
    Below base (c.push part) (relative.push part) := by
  obtain ⟨absolute, unknown, names⟩ := below
  by_cases up : part = [dot, dot]
  · subst up
    by_cases inside : relative.names ≠ []
    · -- The last name is one of the parts.
      rw [push_up c, push_up relative, if_pos inside, if_pos (by rw [names]; simp [inside])]
      exact ⟨absolute, unknown, by rw [names, List.dropLast_append_of_ne_nil inside]⟩
    · -- The last name is one of the directory.
      have outside : relative.names = [] := by simpa using inside
      have next : relative.push [dot, dot] = { relative with ups := relative.ups + 1 } := by
        rw [push_up, if_neg inside, if_neg (by simp [unknown])]
      rw [next] at room ⊢
      have room : relative.ups + 1 ≤ base.length := room
      rw [outside, List.append_nil] at names
      have deep : c.names ≠ [] := by
        rw [names, ne_eq, List.take_eq_nil_iff, ← List.length_eq_zero_iff]
        omega
      rw [push_up, if_pos deep]
      refine ⟨absolute, unknown, ?_⟩
      change c.names.dropLast = base.take (base.length - (relative.ups + 1)) ++ relative.names
      rw [names, outside, List.append_nil, List.dropLast_eq_take, List.take_take, List.length_take]
      congr 1
      omega
  · by_cases valid : IsName part
    · rw [push_bytes c ⟨part, valid⟩, push_bytes relative ⟨part, valid⟩]
      exact ⟨absolute, unknown, by rw [names, List.append_assoc]⟩
    · rw [push_other c up valid, push_other relative up valid]
      exact ⟨absolute, unknown, names⟩

theorem Below.foldl_push {base : Path} {c relative : Cleaned} (below : Below base c relative)
    (parts : List Bytes) (room : (parts.foldl Cleaned.push relative).ups ≤ base.length) :
    Below base (parts.foldl Cleaned.push c) (parts.foldl Cleaned.push relative) := by
  induction parts generalizing c relative with
  | nil => exact below
  | cons part rest ih =>
    exact ih (below.push (Nat.le_trans (ups_le_foldl_push _ rest) room)) room

end Cleaned

theorem Path.join_eq (base : Path) (parts : List Bytes)
    (room : (relative parts).ups ≤ base.length) :
    base.join parts = base.take (base.length - (relative parts).ups) ++ (relative parts).names :=
  (Cleaned.Below.foldl_push ⟨rfl, rfl, by simp⟩ _ room).names

theorem Path.head_text_ne (p : Path) : p.text.head? ≠ some slash := by
  cases p with
  | nil => decide
  | cons name rest =>
    -- The first byte is that of the first name.
    obtain ⟨bytes, nonempty, plain, -⟩ := name
    obtain ⟨b, tail, rfl⟩ := List.exists_cons_of_ne_nil nonempty
    intro first
    have same : b = slash := by cases rest <;> simpa [text, List.intercalate] using first
    exact plain (same ▸ List.mem_cons_self)

/-- The text of an absolute path. -/
def Path.full (p : Path) : Bytes :=
  if p = [] then [slash] else p.flatMap fun name => slash :: name.bytes

def Cleaned.text (c : Cleaned) : Bytes :=
  if c.absolute then c.names.full
  else if c.ups = 0 then c.names.text
  else [slash].intercalate (List.replicate c.ups [dot, dot] ++ c.names.map Name.bytes)

def isAbs (text : Bytes) : Bool := text.head? = some slash

def cleanText (text : Bytes) : Bytes := (clean text).text

/-- Join two texts, none of them empty. -/
def joinText (base text : Bytes) : Bytes := cleanText (base ++ slash :: text)

/-- All up to the last slash, cleaned. -/
def dirText (text : Bytes) : Bytes := cleanText (text.reverse.dropWhile (· ≠ slash)).reverse

namespace Cleaned

theorem foldl_push_text (c : Cleaned) (p : Path) :
    (p.text.splitOn slash).foldl push c = { c with names := c.names ++ p } := by
  cases p with
  | nil =>
    rw [show Path.text [] = [dot] from rfl, List.splitOn_eq_singleton (by decide),
      List.foldl_cons, push_other c (by decide) (by decide), List.append_nil]
    rfl
  | cons name rest =>
    have plain : ∀ part ∈ (name :: rest).map Name.bytes, slash ∉ part := by
      intro part there
      obtain ⟨name, -, rfl⟩ := List.mem_map.mp there
      exact name.valid.2.1
    rw [Path.text, if_neg (by simp), List.splitOn_intercalate slash plain (by simp),
      foldl_push_bytes]

theorem foldl_push_slashes (c : Cleaned) (p : Path) :
    ((p.flatMap fun name => slash :: name.bytes).splitOn slash).foldl push c
      = { c with names := c.names ++ p } := by
  induction p using List.reverseRecOn with
  | nil => simp [push_other c (show ([] : Bytes) ≠ [dot, dot] by decide) (by decide)]
  | append_singleton p name ih =>
    rw [List.flatMap_append, List.flatMap_singleton, List.splitOn_append_cons_self,
      List.splitOn_eq_singleton name.valid.2.1, List.foldl_append, ih, List.foldl_cons, push_bytes]
    simp

end Cleaned

theorem clean_text (p : Path) : clean p.text = ⟨false, 0, p⟩ := by
  rw [clean, decide_eq_false p.head_text_ne, Cleaned.foldl_push_text, List.nil_append]

theorem Path.clean_full (p : Path) : clean p.full = ⟨true, 0, p⟩ := by
  unfold full clean
  split_ifs with root
  · rw [root]
    decide
  · obtain ⟨name, rest, rfl⟩ := List.exists_cons_of_ne_nil root
    rw [Cleaned.foldl_push_slashes]
    simp

theorem Path.joinText_full (base p : Path) : joinText base.full p.text = (base ++ p).full := by
  have head : (base.full ++ slash :: p.text).head? = base.full.head? := by
    unfold full
    split_ifs with root
    · rfl
    · obtain ⟨name, rest, rfl⟩ := List.exists_cons_of_ne_nil root
      rfl
  have cleaned := clean_full base
  rw [clean] at cleaned
  rw [joinText, cleanText, clean, List.splitOn_append_cons_self, List.foldl_append, head, cleaned,
    Cleaned.foldl_push_text]
  rfl

theorem Path.dirText_full (p : Path) : dirText p.full = Path.full p.dropLast := by
  cases p using List.reverseRecOn with
  | nil => decide
  | append_singleton p name =>
    have cut : ((Path.full (p ++ [name])).reverse.dropWhile (· ≠ slash)).reverse
        = (p.flatMap fun name => slash :: name.bytes) ++ slash :: [] := by
      have plain : ∀ b ∈ name.bytes.reverse, decide (b ≠ slash) = true := fun b there =>
        decide_eq_true fun same => name.valid.2.1 (same ▸ List.mem_reverse.mp there)
      rw [full, if_neg (by simp), List.flatMap_append, List.flatMap_singleton, List.reverse_append,
        List.reverse_cons, List.append_assoc, List.dropWhile_append_of_pos plain]
      simp
    have head : ((p.flatMap fun name => slash :: name.bytes) ++ [slash]).head? = some slash := by
      cases p <;> rfl
    rw [dirText, cut, cleanText, clean, head, List.splitOn_append_cons_self, List.foldl_append,
      Cleaned.foldl_push_slashes, List.dropLast_concat]
    simp [Cleaned.text, Cleaned.push_other _ (show ([] : Bytes) ≠ [dot, dot] by decide)
      (show ¬ IsName [] by decide)]

end Falak
