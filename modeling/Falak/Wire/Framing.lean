import Falak.Lib.Checks
import Falak.Lib.Reader
import Mathlib.Data.List.Forall2
import Mathlib.Data.List.Induction

/-!
Length-prefixed messages on a stream.

The writer does not check the size of a message, and the reader refuses what is too large.
-/

namespace Falak.Wire

structure ProtoCodec (ι : Type) (Message : ι → Type) where
  marshal : (type : ι) → Message type → Except String Bytes
  unmarshal : (type : ι) → Bytes → Except String (Message type)
  unmarshal_marshal : ∀ {type msg data}, marshal type msg = .ok data → unmarshal type data = .ok msg

def maxMessageSize : Nat := 10 * 1024 * 1024

structure WriteFault where
  written : Nat
  err : String

variable {ι : Type} {Message : ι → Type} (codec : ProtoCodec ι Message)

def writeProto (length body : Option WriteFault) (msg : Sigma Message) (stream : Bytes) :
    Bytes × Option String :=
  match codec.marshal msg.1 msg.2 with
  | .error err => (stream, some ("failed to marshal proto: " ++ err))
  | .ok data =>
    let lenBuf := bigEndian 4 data.length
    match length with
    | some fault =>
      (stream ++ lenBuf.take fault.written, some ("failed to write length prefix: " ++ fault.err))
    | none =>
      match body with
      | some fault =>
        (stream ++ lenBuf ++ data.take fault.written,
          some ("failed to write proto data: " ++ fault.err))
      | none => (stream ++ lenBuf ++ data, none)

def readProto (type : ι) (r : Reader) : Except String (Message type × Reader) := do
  let (lenBuf, r) ← (r.readFull 4).mapError ("failed to read length prefix: " ++ ·)
  let length := ofBigEndian lenBuf
  ensure (length ≤ maxMessageSize)
    ("message size " ++ toString length ++ " exceeds maximum " ++ toString maxMessageSize)
  let (data, r) ← (r.readFull length).mapError ("failed to read proto data: " ++ ·)
  let msg ← (codec.unmarshal type data).mapError ("failed to unmarshal proto: " ++ ·)
  pure (msg, r)

inductive Written : List (Sigma Message) → Bytes → Prop
  | nil : Written [] []
  | snoc {msgs : List (Sigma Message)} {stream stream' : Bytes} {length body : Option WriteFault}
      {msg : Sigma Message} (before : Written msgs stream)
      (wrote : writeProto codec length body msg stream = (stream', none)) :
      Written (msgs ++ [msg]) stream'

/-- Read a message of each type. -/
def readProtos : List ι → Reader → Except String (List (Sigma Message) × Reader)
  | [], r => .ok ([], r)
  | type :: types, r => do
    let (msg, r) ← readProto codec type r
    let (msgs, r) ← readProtos types r
    pure (⟨type, msg⟩ :: msgs, r)

variable {codec}

theorem writeProto_ok {length body : Option WriteFault} {msg : Sigma Message}
    {stream stream' : Bytes} (wrote : writeProto codec length body msg stream = (stream', none)) :
    ∃ data, codec.marshal msg.1 msg.2 = .ok data ∧ stream' = stream ++ field data := by
  unfold writeProto at wrote
  cases marshalled : codec.marshal msg.1 msg.2 with
  | error err => simp [marshalled] at wrote
  | ok data => cases length <;> cases body <;> simp_all [field]

/-- The encodings of the messages, one after the other. -/
theorem Written.fields {msgs : List (Sigma Message)} {stream : Bytes}
    (written : Written codec msgs stream) :
    ∃ parts, List.Forall₂ (fun msg data => codec.marshal msg.1 msg.2 = .ok data) msgs parts ∧
      stream = Falak.fields parts := by
  induction written with
  | nil => exact ⟨[], .nil, rfl⟩
  | snoc _ wrote ih =>
    obtain ⟨parts, marshalled, rfl⟩ := ih
    obtain ⟨data, last, rfl⟩ := writeProto_ok wrote
    exact ⟨parts ++ [data], List.rel_append marshalled (.cons last .nil), by simp [Falak.fields]⟩

theorem readProto_field {data rest : Bytes} {r : Reader} (there : r.bytes = field data ++ rest)
    (short : Short data) (codec : ProtoCodec ι Message) (type : ι) :
    ∃ r₂ : Reader, r₂.bytes = rest ∧ ∀ msg r', readProto codec type r = .ok (msg, r') ↔
      data.length ≤ maxMessageSize ∧ codec.unmarshal type data = .ok msg ∧ r' = r₂ := by
  have wrapped : ofBigEndian (bigEndian 4 data.length) = data.length := by
    rw [ofBigEndian_bigEndian]
    exact Nat.mod_eq_of_lt short
  rw [field, List.append_assoc] at there
  obtain ⟨r₁, length, there⟩ := Reader.readFull_append (bigEndian_length 4 _) there
  obtain ⟨r₂, body, there⟩ := Reader.readFull_append rfl there
  refine ⟨r₂, there, fun msg r' => ?_⟩
  simp only [readProto, bind_ok_iff, mapError_ok_iff, pure_ok_iff, length, Except.ok.injEq,
    ensure_ok_iff, exists_eq_left', wrapped, body, decide_eq_true_eq, Prod.mk.injEq]
  constructor
  · rintro ⟨-, small, m, decoded, rfl, rfl⟩
    exact ⟨small, decoded, rfl⟩
  · rintro ⟨small, decoded, rfl⟩
    exact ⟨(), small, msg, decoded, rfl, rfl⟩

/--
The messages are read as they were written, and no length is cut to its last four bytes, exactly if
none of them is too large for the reader.
-/
theorem protos_read_iff {msgs : List (Sigma Message)} {stream tail : Bytes}
    (written : Written codec msgs stream) {r : Reader} (there : r.bytes = stream ++ tail) :
    ((∀ msg ∈ msgs, ∀ data, codec.marshal msg.1 msg.2 = .ok data → Short data) ∧
      ∃ r', readProtos codec (msgs.map (·.1)) r = .ok (msgs, r') ∧ r'.bytes = tail) ↔
    ∀ msg ∈ msgs, ∀ data, codec.marshal msg.1 msg.2 = .ok data → data.length ≤ maxMessageSize := by
  obtain ⟨parts, marshalled, rfl⟩ := written.fields
  clear written
  -- Each message is read where the one before it ends.
  induction marshalled generalizing r with
  | nil => simpa [readProtos, fields] using there
  | @cons msg data msgs parts first _ ih =>
    have there : r.bytes = field data ++ (fields parts ++ tail) := by
      simpa [fields] using there
    have only : ∀ data', codec.marshal msg.1 msg.2 = .ok data' → data' = data := fun data' same =>
      Except.ok.inj (same.symm.trans first)
    rw [List.forall_mem_cons, List.forall_mem_cons]
    constructor
    · rintro ⟨⟨short, shorts⟩, r', read, left⟩
      obtain ⟨r₂, next, spec⟩ := readProto_field there (short data first) codec msg.1
      simp only [List.map_cons, readProtos, bind_ok_iff, pure_ok_iff, Prod.exists, Prod.mk.injEq,
        List.cons.injEq] at read
      obtain ⟨m, r₁, now, msgs', r₃, later, ⟨-, rfl⟩, rfl⟩ := read
      obtain ⟨small, -, rfl⟩ := (spec m r₁).mp now
      exact ⟨fun data' same => (only data' same).symm ▸ small,
        (ih next).mp ⟨shorts, r₃, later, left⟩⟩
    · rintro ⟨small, smalls⟩
      have short : Short data := Nat.lt_of_le_of_lt (small data first) (by decide)
      obtain ⟨r₂, next, spec⟩ := readProto_field there short codec msg.1
      obtain ⟨shorts, r', later, left⟩ := (ih next).mpr smalls
      have now := (spec msg.2 r₂).mpr ⟨small data first, codec.unmarshal_marshal first, rfl⟩
      refine ⟨⟨fun data' same => (only data' same).symm ▸ short, shorts⟩, r', ?_, left⟩
      simp [readProtos, now, later]

/-- Texts of bytes, each its own encoding. -/
def plainCodec : ProtoCodec Unit fun _ => Bytes :=
  ⟨fun _ data => .ok data, fun _ data => .ok data, Eq.symm⟩

theorem plainCodec_written (msgs : List Bytes) :
    Written plainCodec (msgs.map fun msg => ⟨(), msg⟩) (fields msgs) := by
  induction msgs using List.reverseRecOn with
  | nil => exact .nil
  | append_singleton msgs msg ih =>
    have wrote : writeProto plainCodec none none ⟨(), msg⟩ (fields msgs)
        = (fields (msgs ++ [msg]), none) := by simp [writeProto, plainCodec, fields, field]
    rw [List.map_append]
    exact .snoc ih wrote

/-- Two messages are read from a stream that comes in three pieces. -/
theorem protos_read_two :
    ∃ r', readProtos plainCodec [(), ()] ⟨[[0, 0], [0, 1, 7, 0, 0, 0], [0]], none⟩
      = .ok ([⟨(), [7]⟩, ⟨(), []⟩], r') ∧ r'.bytes = [] :=
  ((protos_read_iff (plainCodec_written [[7], []]) (r := ⟨[[0, 0], [0, 1, 7, 0, 0, 0], [0]], none⟩)
    rfl).mpr (by simp [plainCodec, maxMessageSize])).2

/-- A message of one byte too many is written without an error and cannot be read. -/
theorem proto_too_large :
    ∃ msg stream : Bytes, writeProto plainCodec none none ⟨(), msg⟩ [] = (stream, none) ∧
      ∀ pieces, pieces.flatten = stream →
        ¬ ∃ read, readProto plainCodec () ⟨pieces, none⟩ = .ok read := by
  refine ⟨List.replicate (maxMessageSize + 1) 0, _, rfl, ?_⟩
  rintro pieces whole ⟨⟨msg, r'⟩, read⟩
  have there : (⟨pieces, none⟩ : Reader).bytes
      = field (List.replicate (maxMessageSize + 1) 0) ++ [] := by
    simpa [Reader.bytes, field] using whole
  have short : Short (List.replicate (maxMessageSize + 1) 0) := by
    rw [Short, List.length_replicate]
    decide
  obtain ⟨r₂, -, spec⟩ := readProto_field there short plainCodec ()
  have small := ((spec msg r').mp read).1
  rw [List.length_replicate] at small
  omega

end Falak.Wire
