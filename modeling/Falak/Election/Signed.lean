import Falak.Election.Topic
import Falak.Wire.Signing

/-! Election messages as bytes: what a node publishes, and how a topic reads what it receives. -/

namespace Falak.Election

structure SignedMessage where
  type : String
  payload : Bytes
  senderID : String
  timestamp : Option Timestamp
  signature : Bytes
  deriving DecidableEq

def SignedMessage.envelope (msg : SignedMessage) : Wire.Envelope :=
  { type := utf8 msg.type
    payload := msg.payload
    senderID := utf8 msg.senderID
    timestamp := msg.timestamp
    signature := msg.signature }

def SignedMessage.content (msg : SignedMessage) : Bytes := canonicalContent msg.envelope

structure Codec where
  unmarshalMessage : Bytes → Option SignedMessage
  unmarshalClaim : Bytes → Option Claim
  unmarshalFailed : Bytes → Option ElectionFailed
  marshalClaim : Claim → Bytes
  marshalFailed : ElectionFailed → Bytes

abbrev Verifier := String → Bytes → Bytes → Bool

def Message.type : Message → String
  | .claim _ => "claim"
  | .failed _ => "failed"

def Message.author : Message → String
  | .claim c => c.nodeID
  | .failed f => f.senderID

def Message.clusterPath : Message → String
  | .claim c => c.clusterPath
  | .failed f => f.clusterPath

namespace Codec

variable (codec : Codec)

def marshal : Message → Bytes
  | .claim c => codec.marshalClaim c
  | .failed f => codec.marshalFailed f

def unmarshal (type : String) (payload : Bytes) : Option Message :=
  if type = "claim" then (codec.unmarshalClaim payload).map .claim
  else if type = "failed" then (codec.unmarshalFailed payload).map .failed
  else none

def publish (nodeID : String) (m : Message) (now : Timestamp) (sign : Option (Bytes → Bytes)) :
    SignedMessage :=
  let envelope : SignedMessage :=
    { type := m.type
      payload := codec.marshal m
      senderID := nodeID
      timestamp := some now
      signature := [] }
  match sign with
  | none => envelope
  | some sign => { envelope with signature := sign envelope.content }

def read (verifier : Option Verifier) (id : Nat) (receivedFrom : String) (msg : SignedMessage) :
    ElectionMessage :=
  { id := id
    receivedFrom := receivedFrom
    senderID := msg.senderID
    timestamp := msg.timestamp.map Timestamp.asTime
    verified := verifier.all fun verify => verify msg.senderID msg.content msg.signature
    payload := codec.unmarshal msg.type msg.payload }

def handle (verifier : Option Verifier) (nodeID : String) (now : Int) (id : Nat)
    (receivedFrom : String) (data : Bytes) : Option Arrival :=
  (codec.unmarshalMessage data).bind fun msg =>
    (codec.read verifier id receivedFrom msg).handle nodeID now

@[simp] theorem content_publish (nodeID : String) (m : Message) (now : Timestamp)
    (sign : Option (Bytes → Bytes)) :
    (codec.publish nodeID m now sign).content = (codec.publish nodeID m now none).content := by
  cases sign <;> rfl

theorem handle_some {verifier : Option Verifier} {nodeID receivedFrom : String} {now : Int}
    {id : Nat} {data : Bytes} {a : Arrival}
    (accepted : codec.handle verifier nodeID now id receivedFrom data = some a) :
    ∃ msg, codec.unmarshalMessage data = some msg ∧
      (∀ verify ∈ verifier, verify msg.senderID msg.content msg.signature = true) ∧
      codec.unmarshal msg.type msg.payload = some a.message := by
  obtain ⟨msg, decoded, passed⟩ := Option.bind_eq_some_iff.mp accepted
  simp only [ElectionMessage.handle, read, Option.ite_none_left_eq_some, Bool.not_eq_true',
    Bool.not_eq_false, Option.map_eq_some_iff] at passed
  obtain ⟨-, -, -, verified, message, payload, rfl⟩ := passed
  refine ⟨msg, decoded, fun verify given => ?_, payload⟩
  rw [Option.mem_def.mp given] at verified
  simpa using verified

end Codec

end Falak.Election
