import Falak.Lib.Bytes
import Falak.Lib.Timestamp

/-! Signed envelopes, and the bytes that stand for an envelope in its signature. -/

namespace Falak.Wire

structure Envelope where
  type : Bytes
  payload : Bytes
  senderID : Bytes
  timestamp : Option Timestamp
  signature : Bytes
  deriving DecidableEq

def appendField (buf data : Bytes) : Bytes :=
  let lenBuf := bigEndian 4 data.length
  buf ++ lenBuf ++ data

def stampBytes : Option Timestamp → Bytes
  | none => []
  | some ts => bigEndian 8 (unixNano ts.asTime % 2 ^ 64).toNat

def signedContent (msg : Envelope) : Bytes :=
  let buf := appendField [] msg.type
  let buf := appendField buf msg.payload
  let buf := appendField buf msg.senderID
  appendField buf (stampBytes msg.timestamp)

namespace Envelope

structure Fits (msg : Envelope) : Prop where
  type : Short msg.type
  payload : Short msg.payload
  senderID : Short msg.senderID

structure Alike (a b : Envelope) : Prop where
  type : a.type = b.type
  payload : a.payload = b.payload
  senderID : a.senderID = b.senderID
  instant : a.timestamp.map Timestamp.instant = b.timestamp.map Timestamp.instant

structure RoundsApart (a b : Envelope) : Prop where
  type : a.type = b.type
  payload : a.payload = b.payload
  senderID : a.senderID = b.senderID
  instant : ∃ s ∈ a.timestamp, ∃ t ∈ b.timestamp,
    s.instant ≠ t.instant ∧ (2 ^ 64 : Int) ∣ t.instant - s.instant

end Envelope

theorem signedContent_eq (msg : Envelope) :
    signedContent msg = fields [msg.type, msg.payload, msg.senderID, stampBytes msg.timestamp] := by
  simp [signedContent, appendField, fields, field]

theorem fits_of_short {msg : Envelope} (short : Short (signedContent msg)) : msg.Fits := by
  have lengths : (signedContent msg).length
      = 16 + msg.type.length + msg.payload.length + msg.senderID.length
        + (stampBytes msg.timestamp).length := by
    simp only [signedContent, appendField, List.length_append, bigEndian_length, List.length_nil]
    omega
  unfold Short at short
  constructor <;> (unfold Short; omega)

theorem stampBytes_short (ts : Option Timestamp) : Short (stampBytes ts) := by
  cases ts <;> simp [stampBytes, Short]

theorem emod_eq_iff_unixNano {x y : Int} :
    (unixNano x % 2 ^ 64).toNat = (unixNano y % 2 ^ 64).toNat ↔ unixNano x = unixNano y := by
  constructor
  · intro same
    obtain ⟨j, left⟩ := int64_eq_add x
    obtain ⟨k, right⟩ := int64_eq_add y
    unfold unixNano at same ⊢
    have congruent : (2 ^ 64 : Int) ∣ y - x := ⟨(y - x) / 2 ^ 64, by omega⟩
    exact int64_inj.mpr congruent
  · intro same
    rw [same]

theorem stampBytes_inj {s t : Option Timestamp} :
    stampBytes s = stampBytes t ↔
      s.map (unixNano ·.instant) = t.map (unixNano ·.instant) := by
  cases s with
  | none =>
    cases t with
    | none => simp
    | some t =>
      simp only [stampBytes, Option.map_none, Option.map_some, reduceCtorEq, iff_false]
      intro same
      simpa using congrArg List.length same
  | some s =>
    cases t with
    | none =>
      simp only [stampBytes, Option.map_none, Option.map_some, reduceCtorEq, iff_false]
      intro same
      simpa using congrArg List.length same
    | some t =>
      simp only [stampBytes, Option.map_some, Option.some.injEq, bigEndian_inj]
      rw [← unixNano_asTime, ← unixNano_asTime, ← emod_eq_iff_unixNano]
      omega

theorem signedContent_inj {a b : Envelope} (fits : a.Fits) (fits' : b.Fits) :
    signedContent a = signedContent b ↔ a.type = b.type ∧ a.payload = b.payload ∧
      a.senderID = b.senderID ∧ stampBytes a.timestamp = stampBytes b.timestamp := by
  rw [signedContent_eq, signedContent_eq, fields_inj]
  · simp
  · simp [fits.type, fits.payload, fits.senderID, stampBytes_short]
  · simp [fits'.type, fits'.payload, fits'.senderID, stampBytes_short]

theorem alike_iff_not_roundsApart {a b : Envelope} (fits : a.Fits) (fits' : b.Fits) :
    (signedContent a = signedContent b → a.Alike b) ↔ ¬ a.RoundsApart b := by
  rw [signedContent_inj fits fits', stampBytes_inj]
  constructor
  · rintro determined ⟨type, payload, senderID, s, there, t, there', differ, rounds⟩
    have counts : a.timestamp.map (unixNano ·.instant) = b.timestamp.map (unixNano ·.instant) := by
      rw [Option.mem_def.mp there, Option.mem_def.mp there']
      exact congrArg some (int64_inj.mpr rounds)
    have same := (determined ⟨type, payload, senderID, counts⟩).instant
    rw [Option.mem_def.mp there, Option.mem_def.mp there'] at same
    exact differ (Option.some.inj same)
  · rintro close ⟨type, payload, senderID, counts⟩
    refine ⟨type, payload, senderID, ?_⟩
    cases left : a.timestamp with
    | none =>
      cases right : b.timestamp with
      | none => rfl
      | some t => simp [left, right] at counts
    | some s =>
      cases right : b.timestamp with
      | none => simp [left, right] at counts
      | some t =>
        rw [left, right] at counts
        have rounds := int64_inj.mp (Option.some.inj counts)
        by_contra differ
        refine close ⟨type, payload, senderID, s, left, t, right, ?_, rounds⟩
        intro same
        exact differ (congrArg some same)

end Falak.Wire
