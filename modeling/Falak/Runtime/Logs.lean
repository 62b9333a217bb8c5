import Falak.Lib.Checks
import Falak.Lib.Reader
import Mathlib.Data.List.DropRight

/-!
Log frames as the container engine multiplexes them.

Of a frame that is too large only the header is passed over, and its payload is read as frames.
-/

namespace Falak.Runtime

structure LogEntry where
  stream : String
  line : Bytes

def maxFrame : Nat := 1 <<< 20

def streamName (streamType : UInt8) : String := if streamType = 2 then "stderr" else "stdout"

/-- A payload without the newlines at its end. -/
def trimRight (payload : Bytes) : Bytes := payload.rdropWhile (· = 10)

/-- One turn of the loop, with the entry that it emits. -/
def readFrame (r : Reader) : Except String (Option LogEntry × Reader) := do
  let (hdr, r) ← r.readFull 8
  let frameSize := ofBigEndian (hdr.drop 4)
  if frameSize = 0 ∨ maxFrame < frameSize then pure (none, r)
  else
    let (payload, r) ← r.readFull frameSize
    pure (some ⟨streamName (hdr.headD 0), trimRight payload⟩, r)

/-- The entries of the loop, if it ends within some turns. -/
def logs : Nat → Reader → Option (List LogEntry)
  | 0, _ => none
  | turns + 1, r =>
    match readFrame r with
    | .error _ => some []
    | .ok (entry, r) => (logs turns r).map (entry.toList ++ ·)

structure Frame where
  streamType : UInt8
  payload : Bytes
  short : Short payload

namespace Frame

def bytes (f : Frame) : Bytes := [f.streamType, 0, 0, 0] ++ field f.payload

def entry (f : Frame) : Option LogEntry :=
  if f.payload.length = 0 ∨ maxFrame < f.payload.length then none
  else some ⟨streamName f.streamType, trimRight f.payload⟩

end Frame

theorem readFrame_bytes {f : Frame} {r : Reader} {rest : Bytes}
    (there : r.bytes = f.bytes ++ rest) : ∃ r', readFrame r = .ok (f.entry, r') ∧
    r'.bytes = if maxFrame < f.payload.length then f.payload ++ rest else rest := by
  have header : r.bytes = ([f.streamType, 0, 0, 0] ++ bigEndian 4 f.payload.length)
      ++ (f.payload ++ rest) := by
    simpa [Frame.bytes, field] using there
  have size : ofBigEndian (bigEndian 4 f.payload.length) = f.payload.length := by
    rw [ofBigEndian_bigEndian]
    exact Nat.mod_eq_of_lt f.short
  obtain ⟨r₁, read, left⟩ := Reader.readFull_append (n := 8) (by simp) header
  by_cases large : maxFrame < f.payload.length
  · exact ⟨r₁, by simp [readFrame, read, size, Frame.entry, large], by rw [if_pos large, left]⟩
  · rw [if_neg large]
    by_cases empty : f.payload.length = 0
    · have zero : ofBigEndian (bigEndian 4 0) = 0 := rfl
      refine ⟨r₁, by simp [readFrame, read, zero, Frame.entry, empty], ?_⟩
      rw [left, List.eq_nil_of_length_eq_zero empty, List.nil_append]
    · obtain ⟨r₂, body, left⟩ := Reader.readFull_append rfl left
      exact ⟨r₂, by simp [readFrame, read, size, Frame.entry, large, empty, body], left⟩

/-- The frames are decoded exactly, if none is too large. -/
theorem logs_exact (frames : List Frame) {r : Reader}
    (there : r.bytes = frames.flatMap Frame.bytes)
    (small : ∀ f ∈ frames, f.payload.length ≤ maxFrame) {turns : Nat}
    (enough : frames.length < turns) : logs turns r = some (frames.filterMap Frame.entry) := by
  induction frames generalizing r turns with
  | nil =>
    obtain ⟨turns, rfl⟩ := Nat.exists_eq_add_one_of_ne_zero (Nat.ne_zero_of_lt enough)
    obtain ⟨err, failed⟩ : ∃ err, r.readFull 8 = .error err := by
      apply Reader.readFull_of_lt
      rw [there]
      decide
    simp [logs, readFrame, failed, bind, Except.bind]
  | cons f frames ih =>
    obtain ⟨turns, rfl⟩ := Nat.exists_eq_add_one_of_ne_zero (Nat.ne_zero_of_lt enough)
    rw [List.forall_mem_cons] at small
    rw [List.flatMap_cons] at there
    obtain ⟨r', read, left⟩ := readFrame_bytes there
    rw [if_neg (Nat.not_lt.mpr small.1)] at left
    have later := ih left small.2 (Nat.lt_of_succ_lt_succ enough)
    rw [logs, read]
    cases entry : f.entry <;> simp [later, entry]

/-- Two frames in three pieces, the second one empty. -/
theorem logs_exact_two :
    logs 3 ⟨[[2, 0, 0, 0, 0], [0, 0, 2, 120, 10, 1, 0, 0], [0, 0, 0, 0, 0]], none⟩
      = some [⟨"stderr", [120]⟩] :=
  logs_exact [⟨2, [120, 10], by decide⟩, ⟨1, [], by decide⟩] (by decide) (by decide) (by decide)

def largeFrame : Frame where
  streamType := 1
  payload := [1, 0, 0, 0, 0, 0, 0, 1, 120, 1, 0, 0, 0, 0, 16, 0, 0]
    ++ List.replicate (maxFrame - 16) 0
  short := by
    rw [Short, List.length_append, List.length_replicate]
    decide

/-- The front of a frame that is too large comes out as an entry. -/
theorem large_frame_read :
    largeFrame.entry = none ∧ ∀ pieces : List Bytes, pieces.flatten = largeFrame.bytes →
      logs 3 ⟨pieces, none⟩ = some [⟨"stdout", [120]⟩] := by
  have large : maxFrame < largeFrame.payload.length := by
    rw [largeFrame, List.length_append, List.length_replicate]
    decide
  have hidden : largeFrame.entry = none := if_pos (.inr large)
  refine ⟨hidden, fun pieces whole => ?_⟩
  have there : (⟨pieces, none⟩ : Reader).bytes = largeFrame.bytes ++ [] := by
    rw [List.append_nil]
    exact whole
  obtain ⟨r₁, first, left⟩ := readFrame_bytes there
  rw [if_pos large, List.append_nil] at left
  obtain ⟨r₂, second, left⟩ := readFrame_bytes (f := ⟨1, [120], by decide⟩) left
  have left : r₂.bytes = [1, 0, 0, 0, 0, 16, 0, 0] ++ List.replicate (maxFrame - 16) 0 := left
  obtain ⟨r₃, header, left⟩ := Reader.readFull_append (n := 8) rfl left
  -- The last header asks for more than there is.
  obtain ⟨err, failed⟩ : ∃ err, r₃.readFull maxFrame = .error err := by
    apply Reader.readFull_of_lt
    rw [left, List.length_replicate]
    decide
  have size : ofBigEndian [0, 16, 0, 0] = maxFrame := by decide
  have last : readFrame r₂ = .error err := by
    rw [readFrame, header]
    simp [bind, Except.bind, size, failed, show maxFrame ≠ 0 by decide]
  have shown : Frame.entry ⟨1, [120], by decide⟩ = some ⟨"stdout", [120]⟩ := rfl
  simp [logs, first, second, last, hidden, shown]

end Falak.Runtime
