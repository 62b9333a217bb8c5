import Falak.Lib.Checks
import Falak.Lib.Seen
import Falak.Wire.Signing

/-!
Orbit messages as bytes: the checks that an announcer makes before a payload is used.

The hash, the decoders and the verifier are parameters, since they belong to libraries and to the
phonebook.
-/

namespace Falak.Orbit

def maxMessageAge : Int := 30 * second

structure Deduplicator (H : Type) where
  seen : Seen H
  maxAge : Int

namespace Deduplicator

variable {H : Type}

def new : Deduplicator H := ⟨Seen.empty, 5 * 60 * second⟩

def withMaxAge (maxAge : Int) : Deduplicator H := { new with maxAge := maxAge }

def isDuplicate [DecidableEq H] (hash : Bytes → H) (d : Deduplicator H) (now : Int) (data : Bytes) :
    Bool × Deduplicator H :=
  if (d.seen (hash data)).isSome then (true, d)
  else (false, { d with seen := d.seen.record (hash data) now })

def cleanup (d : Deduplicator H) (now : Int) : Deduplicator H :=
  { d with seen := d.seen.sweep d.maxAge now }

end Deduplicator

structure Codec (π : Type) where
  unmarshalMessage : Bytes → Except String Wire.Envelope
  unmarshalAnnouncement : Bytes → Except String π
  unmarshalStatusUpdate : Bytes → Except String π
  unmarshalWithdrawal : Bytes → Except String π

abbrev Verifier := Bytes → Bytes → Bytes → Bool

inductive Rejection
  | duplicate
  | malformed (err : String)
  | stale (age : Int)
  | missingSignature
  | invalidSignature (senderID : Bytes)
  | malformedPayload (what err : String)
  | unknownType (type : Bytes)
  deriving DecidableEq

def Rejection.message (duration : Int → String) (quote : Bytes → String) : Rejection → String
  | .duplicate => "duplicate message"
  | .malformed err => "failed to unmarshal orbit message: " ++ err
  | .stale age => "stale message (age=" ++ duration age ++ ")"
  | .missingSignature => "missing signature"
  | .invalidSignature senderID => "invalid signature from sender " ++ quote senderID
  | .malformedPayload what err => "failed to unmarshal " ++ what ++ ": " ++ err
  | .unknownType type => "unknown orbit message type " ++ quote type

namespace Codec

variable {π : Type} (codec : Codec π)

def unmarshalPayload (msg : Wire.Envelope) : Except Rejection π :=
  if msg.type = utf8 "announcement" then
    (codec.unmarshalAnnouncement msg.payload).mapError (.malformedPayload "announcement")
  else if msg.type = utf8 "status" then
    (codec.unmarshalStatusUpdate msg.payload).mapError (.malformedPayload "status update")
  else if msg.type = utf8 "withdrawal" then
    (codec.unmarshalWithdrawal msg.payload).mapError (.malformedPayload "withdrawal")
  else .error (.unknownType msg.type)

def checkAge (now : Int) (msg : Wire.Envelope) : Except Rejection Unit :=
  match msg.timestamp with
  | none => .ok ()
  | some ts =>
    let age := now - ts.asTime
    if age > maxMessageAge then .error (.stale age) else .ok ()

def checkSignature (verifier : Option Verifier) (msg : Wire.Envelope) : Except Rejection Unit :=
  match verifier with
  | none => .ok ()
  | some verify =>
    if msg.signature = [] then .error .missingSignature
    else if verify msg.senderID (canonicalContent msg) msg.signature then .ok ()
    else .error (.invalidSignature msg.senderID)

/-- The checks on a message that is not a duplicate. -/
def readMessage (verifier : Option Verifier) (now : Int) (data : Bytes) : Except Rejection π := do
  let msg ← (codec.unmarshalMessage data).mapError .malformed
  checkAge now msg
  checkSignature verifier msg
  codec.unmarshalPayload msg

def handleMessage {H : Type} [DecidableEq H] (hash : Bytes → H) (verifier : Option Verifier)
    (now : Int) (d : Deduplicator H) (data : Bytes) : Deduplicator H × Except Rejection π :=
  match d.isDuplicate hash now data with
  | (true, d) => (d, .error .duplicate)
  | (false, d) => (d, codec.readMessage verifier now data)

structure Admits (verifier : Option Verifier) (now : Int) (data : Bytes) (msg : Wire.Envelope)
    (payload : π) : Prop where
  decoded : codec.unmarshalMessage data = .ok msg
  recent : ∀ ts ∈ msg.timestamp, now - ts.asTime ≤ maxMessageAge
  verified : ∀ verify ∈ verifier,
    msg.signature ≠ [] ∧ verify msg.senderID (canonicalContent msg) msg.signature = true
  typed : codec.unmarshalPayload msg = .ok payload

variable {now : Int} {msg : Wire.Envelope} {verifier : Option Verifier} {data : Bytes} {payload : π}

theorem checkAge_ok :
    checkAge now msg = .ok () ↔ ∀ ts ∈ msg.timestamp, now - ts.asTime ≤ maxMessageAge := by
  unfold checkAge
  split
  · rename_i absent
    simp [absent]
  · rename_i ts there
    simp only [there, Option.mem_def, Option.some.injEq, forall_eq']
    split
    · rename_i old
      exact iff_of_false (by simp) (by omega)
    · rename_i young
      exact iff_of_true rfl (by omega)

theorem checkSignature_ok :
    checkSignature verifier msg = .ok () ↔ ∀ verify ∈ verifier,
      msg.signature ≠ [] ∧ verify msg.senderID (canonicalContent msg) msg.signature = true := by
  unfold checkSignature
  cases verifier with
  | none => simp
  | some verify =>
    simp only [Option.mem_def, Option.some.injEq, forall_eq']
    split
    · rename_i unsigned
      simp [unsigned]
    · rename_i signed
      split
      · rename_i passes
        simp [signed, passes]
      · rename_i fails
        simp [fails]

theorem readMessage_ok :
    codec.readMessage verifier now data = .ok payload ↔
      ∃ msg, codec.Admits verifier now data msg payload := by
  unfold readMessage
  simp only [bind_ok_iff, mapError_ok_iff]
  constructor
  · -- Each check that passed is one of the conditions.
    rintro ⟨msg, decoded, ⟨⟩, aged, ⟨⟩, signed, typed⟩
    exact ⟨msg, decoded, checkAge_ok.mp aged, checkSignature_ok.mp signed, typed⟩
  · rintro ⟨msg, admits⟩
    exact ⟨msg, admits.decoded, (), checkAge_ok.mpr admits.recent, (),
      checkSignature_ok.mpr admits.verified, admits.typed⟩

theorem readMessage_ne_duplicate : codec.readMessage verifier now data ≠ .error .duplicate := by
  -- Each of the later checks has errors of its own.
  have age (msg : Wire.Envelope) : checkAge now msg ≠ .error .duplicate := by
    unfold checkAge
    split
    · simp
    · simp only [ne_eq]
      split <;> simp
  have signature (msg : Wire.Envelope) : checkSignature verifier msg ≠ .error .duplicate := by
    unfold checkSignature
    split
    · simp
    · split
      · simp
      · split <;> simp
  have payload (msg : Wire.Envelope) : codec.unmarshalPayload msg ≠ .error .duplicate := by
    have passed (x : Except String π) (what : String) :
        x.mapError (Rejection.malformedPayload what) ≠ .error .duplicate := by
      cases x <;> simp [Except.mapError]
    unfold unmarshalPayload
    split
    · exact passed _ _
    · split
      · exact passed _ _
      · split
        · exact passed _ _
        · simp
  unfold readMessage
  cases codec.unmarshalMessage data with
  | error err => simp [Except.mapError, bind, Except.bind]
  | ok msg =>
    simp only [Except.mapError, bind, Except.bind]
    split
    · rename_i err failed
      rintro ⟨rfl⟩
      exact age msg failed
    · split
      · rename_i err failed
        rintro ⟨rfl⟩
        exact signature msg failed
      · exact payload msg

variable {H : Type} [DecidableEq H] {hash : Bytes → H} {verifier : Option Verifier} {now : Int}
  {d : Deduplicator H} {data : Bytes}

theorem handleMessage_seen (seen : (d.seen (hash data)).isSome = true) :
    codec.handleMessage hash verifier now d data = (d, .error .duplicate) := by
  simp [handleMessage, Deduplicator.isDuplicate, seen]

theorem handleMessage_new (unseen : d.seen (hash data) = none) :
    codec.handleMessage hash verifier now d data
      = ({ d with seen := d.seen.record (hash data) now },
          codec.readMessage verifier now data) := by
  simp [handleMessage, Deduplicator.isDuplicate, unseen]

theorem handleMessage_ok :
    (codec.handleMessage hash verifier now d data).2 = .ok payload ↔
      d.seen (hash data) = none ∧ ∃ msg, codec.Admits verifier now data msg payload := by
  cases seen : d.seen (hash data) with
  | none => rw [codec.handleMessage_new seen, codec.readMessage_ok, and_iff_right rfl]
  | some since =>
    rw [codec.handleMessage_seen (by rw [seen]; rfl)]
    simp

end Codec

end Falak.Orbit
