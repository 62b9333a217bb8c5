import Falak.Lib.Bytes

/-! Readers that give their bytes in pieces, and the calls that put the pieces together. -/

namespace Falak

structure Reader where
  reads : List Bytes
  failure : Option String := none

namespace Reader

def bytes (r : Reader) : Bytes := r.reads.flatten

/-- The first bytes of some pieces, and the pieces that are left. -/
def takeBytes : Nat → List Bytes → Bytes × List Bytes
  | 0, reads => ([], reads)
  | _ + 1, [] => ([], [])
  | n + 1, piece :: rest =>
    if n + 1 ≤ piece.length then (piece.take (n + 1), piece.drop (n + 1) :: rest)
    else
      let taken := takeBytes (n + 1 - piece.length) rest
      (piece ++ taken.1, taken.2)

def readFull (n : Nat) (r : Reader) : Except String (Bytes × Reader) :=
  let taken := takeBytes n r.reads
  if taken.1.length = n then .ok (taken.1, { r with reads := taken.2 })
  else .error (r.failure.getD (if taken.1 = [] then "EOF" else "unexpected EOF"))

def copyN (n : Nat) (r : Reader) : Bytes × Reader × Option String :=
  let taken := takeBytes n r.reads
  (taken.1, { r with reads := taken.2 },
    if taken.1.length = n then none else some (r.failure.getD "EOF"))

theorem takeBytes_eq (n : Nat) (reads : List Bytes) :
    (takeBytes n reads).1 = reads.flatten.take n ∧
      (takeBytes n reads).2.flatten = reads.flatten.drop n := by
  -- Each piece is taken whole, or is the last one.
  induction reads generalizing n with
  | nil => cases n <;> simp [takeBytes]
  | cons piece rest ih =>
    cases n with
    | zero => simp [takeBytes]
    | succ n =>
      rw [takeBytes]
      split
      · rename_i enough
        simp [List.take_append_of_le_length enough, List.drop_append_of_le_length enough]
      · rename_i few
        obtain ⟨taken, left⟩ := ih (n + 1 - piece.length)
        have longer : piece.length ≤ n + 1 := by omega
        simp only [List.flatten_cons, taken, left, List.take_append, List.drop_append,
          List.take_of_length_le longer, List.drop_of_length_le longer, List.nil_append, and_self]

variable {n : Nat} {r : Reader} {data rest : Bytes}

theorem takeBytes_append (size : data.length = n) (there : r.bytes = data ++ rest) :
    ∃ reads, takeBytes n r.reads = (data, reads) ∧ reads.flatten = rest := by
  subst size
  obtain ⟨taken, left⟩ := takeBytes_eq data.length r.reads
  rw [bytes] at there
  rw [there, List.take_left] at taken
  rw [there, List.drop_left] at left
  exact ⟨_, Prod.ext taken rfl, left⟩

theorem readFull_append (size : data.length = n) (there : r.bytes = data ++ rest) :
    ∃ r', r.readFull n = .ok (data, r') ∧ r'.bytes = rest := by
  obtain ⟨reads, taken, left⟩ := takeBytes_append size there
  refine ⟨{ r with reads := reads }, ?_, left⟩
  simp only [readFull, taken, size, if_true]

theorem readFull_of_lt (few : r.bytes.length < n) : ∃ err, r.readFull n = .error err := by
  have taken := (takeBytes_eq n r.reads).1
  -- Not more is taken than there is.
  have short : (takeBytes n r.reads).1.length ≠ n := by
    rw [taken, List.length_take]
    rw [bytes] at few
    omega
  rw [readFull, if_neg short]
  exact ⟨_, rfl⟩

theorem readFull_field (there : r.bytes = field data ++ rest) :
    ∃ len r₁, r.readFull 4 = .ok (len, r₁) ∧
      ∃ part r₂, r₁.readFull (ofBigEndian len) = .ok (part, r₂) ∧
      if Short data then part = data ∧ r₂.bytes = rest else part <+: data ∧ part ≠ data := by
  rw [field, List.append_assoc] at there
  obtain ⟨r₁, length, there⟩ := readFull_append (bigEndian_length 4 _) there
  refine ⟨_, r₁, length, ?_⟩
  have wrapped := ofBigEndian_bigEndian 4 data.length
  by_cases short : Short data
  · have size : data.length % 256 ^ 4 = data.length := Nat.mod_eq_of_lt short
    obtain ⟨r₂, read, left⟩ := readFull_append (size.symm.trans wrapped.symm) there
    exact ⟨data, r₂, read, by rw [if_pos short]; exact ⟨rfl, left⟩⟩
  · have less : data.length % 256 ^ 4 < data.length := by
      unfold Short at short
      omega
    rw [← List.take_append_drop (data.length % 256 ^ 4) data, List.append_assoc] at there
    have size : (data.take (data.length % 256 ^ 4)).length = data.length % 256 ^ 4 := by
      rw [List.length_take]
      omega
    obtain ⟨r₂, read, -⟩ := readFull_append (size.trans wrapped.symm) there
    refine ⟨_, r₂, read, ?_⟩
    rw [if_neg short]
    refine ⟨ List.take_prefix .., fun same => ?_⟩
    rw [same] at size
    omega

theorem copyN_append (size : data.length = n) (there : r.bytes = data ++ rest) :
    ∃ r', r.copyN n = (data, r', none) ∧ r'.bytes = rest := by
  obtain ⟨reads, taken, left⟩ := takeBytes_append size there
  refine ⟨{ r with reads := reads }, ?_, left⟩
  simp only [copyN, taken, size, if_true]

end Reader

def readUntil (enough : Bytes → Bool) : Bytes → List Bytes → Bytes × List Bytes
  | buffer, [] => (buffer, [])
  | buffer, piece :: rest =>
    if enough buffer then (buffer, piece :: rest) else readUntil enough (buffer ++ piece) rest

theorem readUntil_append {enough : Bytes → Bool} {buffer last : Bytes} {first rest : List Bytes}
    (few : ∀ before, before <+: first → enough (buffer ++ before.flatten) = false)
    (done : enough (buffer ++ (first ++ [last]).flatten) = true) :
    readUntil enough buffer (first ++ last :: rest)
      = (buffer ++ (first ++ [last]).flatten, rest) := by
  induction first generalizing buffer with
  | nil =>
    have empty : enough buffer = false := by simpa using few [] List.prefix_rfl
    have done : enough (buffer ++ last) = true := by simpa using done
    cases rest <;> simp [readUntil, empty, done]
  | cons piece first ih =>
    have empty : enough buffer = false := by simpa using few [] (by simp)
    have next : readUntil enough (buffer ++ piece) (first ++ last :: rest)
        = (buffer ++ piece ++ (first ++ [last]).flatten, rest) := by
      apply ih
      · intro before inside
        simpa using few (piece :: before) (List.cons_prefix_cons.mpr ⟨rfl, inside⟩)
      · simpa using done
    simpa [readUntil, empty] using next

theorem exists_completing {size : Nat} {reads : List Bytes} (positive : 0 < size)
    (enough : size ≤ reads.flatten.length) :
    ∃ first last rest, reads = first ++ last :: rest ∧ first.flatten.length < size ∧
      size ≤ (first ++ [last]).flatten.length := by
  -- Pieces are passed as long as they are too short.
  induction reads generalizing size with
  | nil =>
    rw [List.flatten_nil, List.length_nil] at enough
    omega
  | cons piece rest ih =>
    by_cases here : size ≤ piece.length
    · exact ⟨[], piece, rest, rfl, positive, by simpa using here⟩
    · rw [List.flatten_cons, List.length_append] at enough
      have left : 0 < size - piece.length := by omega
      obtain ⟨first, last, rest, rfl, few, many⟩ := ih left (by omega)
      refine ⟨piece :: first, last, rest, rfl, ?_, ?_⟩
      · rw [List.flatten_cons, List.length_append]
        omega
      · rw [List.cons_append, List.flatten_cons, List.length_append]
        omega

structure Json (α : Type) where
  encode : α → Bytes
  /-- The bytes read so far hold a value. -/
  ends : Bytes → Bool
  decode : Bytes → Except String α
  encode_ne_nil : ∀ a, encode a ≠ []
  /-- A value ends with its last byte, whatever comes after it. -/
  ends_iff : ∀ a {buffer rest tail}, buffer ++ rest = encode a ++ tail →
    (ends buffer = true ↔ (encode a).length ≤ buffer.length)
  decode_append : ∀ a tail, decode (encode a ++ tail) = .ok a

namespace Json

variable {α : Type} (json : Json α)

def line (a : α) : Bytes := json.encode a ++ [10]

def isSpace (b : UInt8) : Bool := b = 32 || b = 9 || b = 13 || b = 10

def decodeFrom (r : Reader) : Except String (α × Reader) :=
  let (buffer, rest) := readUntil json.ends [] r.reads
  if json.ends buffer then (json.decode buffer).map ((·, { r with reads := rest }))
  else .error (r.failure.getD (if buffer.all isSpace then "EOF" else "unexpected EOF"))

theorem decodeFrom_append {a : α} {r : Reader} {tail : Bytes} {first rest : List Bytes}
    {last : Bytes} (there : r.bytes = json.encode a ++ tail)
    (split : r.reads = first ++ last :: rest) (few : first.flatten.length < (json.encode a).length)
    (many : (json.encode a).length ≤ (first ++ [last]).flatten.length) :
    json.decodeFrom r = .ok (a, { r with reads := rest }) := by
  rw [Reader.bytes, split] at there
  have whole : (first ++ [last]).flatten ++ rest.flatten = json.encode a ++ tail := by
    simpa using there
  have done : json.ends ((first ++ [last]).flatten) = true := (json.ends_iff a whole).mpr many
  -- The pieces before are too short to hold the value.
  have short : ∀ before, before <+: first → json.ends ([] ++ before.flatten) = false := by
    rintro before ⟨after, rfl⟩
    have piecewise : before.flatten ++ (after.flatten ++ (last :: rest).flatten)
        = json.encode a ++ tail := by simpa using there
    rw [List.nil_append, Bool.eq_false_iff, ne_eq, json.ends_iff a piecewise]
    rw [List.flatten_append, List.length_append] at few
    omega
  have read : readUntil json.ends [] (first ++ last :: rest) = ((first ++ [last]).flatten, rest) :=
    readUntil_append short done
  -- The buffer begins with the value.
  obtain ⟨extra, buffer⟩ : ∃ extra, (first ++ [last]).flatten = json.encode a ++ extra :=
    (List.prefix_of_prefix_length_le (List.prefix_append ..) ⟨rest.flatten, whole⟩ many).imp
      fun _ => Eq.symm
  rw [decodeFrom, split, read]
  simp only [done, if_true]
  rw [buffer, json.decode_append]
  rfl

theorem exists_decodeFrom {a : α} {r : Reader} {tail : Bytes}
    (there : r.bytes = json.encode a ++ tail) :
    ∃ first last rest, r.reads = first ++ last :: rest ∧
      first.flatten.length < (json.encode a).length ∧
      (json.encode a).length ≤ (first ++ [last]).flatten.length ∧
      json.decodeFrom r = .ok (a, { r with reads := rest }) := by
  have positive : 0 < (json.encode a).length := List.length_pos_iff.mpr (json.encode_ne_nil a)
  have enough : (json.encode a).length ≤ r.reads.flatten.length := by
    rw [show r.reads.flatten = _ from there, List.length_append]
    omega
  obtain ⟨first, last, rest, split, few, many⟩ := exists_completing positive enough
  exact ⟨first, last, rest, split, few, many, json.decodeFrom_append there split few many⟩

open Classical in
/-- The format of encodings none of which begins another. -/
noncomputable def ofPrefixFree (encode : α → Bytes) (nonempty : ∀ a, encode a ≠ [])
    (free : ∀ {a b}, encode a <+: encode b → a = b) : Json α where
  encode := encode
  ends buffer := decide (∃ a, encode a <+: buffer)
  decode buffer :=
    if there : ∃ a, encode a <+: buffer then .ok there.choose else .error "invalid value"
  encode_ne_nil := nonempty
  ends_iff a buffer rest tail whole := by
    rw [decide_eq_true_iff]
    have inside : encode a <+: buffer ++ rest := ⟨tail, whole.symm⟩
    constructor
    · rintro ⟨b, front⟩
      have front' := front.trans (List.prefix_append buffer rest)
      rcases List.prefix_or_prefix_of_prefix front' inside with below | below
      · exact free below ▸ front.length_le
      · exact (free below).symm ▸ front.length_le
    · intro long
      exact ⟨a, List.prefix_of_prefix_length_le inside (List.prefix_append ..) long⟩
  decode_append a tail := by
    have there : ∃ b, encode b <+: encode a ++ tail := ⟨a, List.prefix_append ..⟩
    rw [dif_pos there]
    rcases List.prefix_or_prefix_of_prefix there.choose_spec (List.prefix_append (encode a) tail)
      with below | below
    · rw [free below]
    · rw [← free below]

end Json

end Falak
