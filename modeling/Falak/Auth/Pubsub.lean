import Falak.Auth.Handler
import Falak.Lib.Seen

/-!
The messages on the auth topic of a cluster: announcements of new members, and the confirmations and
rejections that answer them.
-/

namespace Falak.Auth

open Phonebook (Member)

variable {K C H : Type}

def maxMessageAge : Int := 30 * second

def isDuplicate [DecidableEq H] (hash : Bytes → H) (ttl : Int) (seen : Seen H) (now : Int)
    (data : Bytes) : Bool × Seen H :=
  match seen (hash data) with
  | some seenAt =>
    if now - seenAt ≤ ttl then (true, seen) else (false, seen.record (hash data) now)
  | none => (false, seen.record (hash data) now)

abbrev Lookup (K : Type) := String → String → Except String K

section Checks

variable (a : Authenticator K C) (lookup : Lookup K) (clusterPath : String)

variable (payload : Bytes) (announcement : NewMemberAnnouncement C)

def openEnvelope (now : Int) (data : Bytes) : Except String AuthMessage := do
  let envelope ← (a.codec.unmarshalMessage data).mapError fun _ =>
    "failed to unmarshal auth message"
  ensure (decide (now - asTime envelope.timestamp ≤ maxMessageAge))
    "rejecting old auth message"
  let signature ← require envelope.signature "rejecting unsigned auth message"
  let senderPubKey ← (lookup envelope.senderID clusterPath).mapError fun _ =>
    "rejecting auth message from unknown sender"
  ensure (a.crypto.accepts senderPubKey (authMessageContent a.crypto envelope) signature)
    "rejecting auth message with invalid envelope signature"
  return envelope

def certificateValid (voucherPubKey : K) (announcement : NewMemberAnnouncement C) (cert : C) :
    Bool :=
  match a.providers clusterPath with
  | some provider => passed (provider.verifyNodeCertificate cert)
  | none => passed (a.verifyCertificateInAnnouncement announcement voucherPubKey)

def verifyAnnouncement : Except String Unit := do
  ensure (!a.rejectAllAuth) "rejection forced by test flag"
  ensure (announcement.clusterPath == clusterPath) "cluster path mismatch"
  ensure (!a.isNodeRevoked clusterPath announcement.voucherNodeID)
    "voucher node certificate is revoked"
  let voucherPubKey ← (lookup announcement.voucherNodeID clusterPath).mapError fun _ =>
    "unknown voucher node"
  let contentToVerify := announcementContent announcement.newNodeID announcement.clusterPath
    announcement.newNodeAddrs announcement.publicKey
  ensure (a.crypto.accepts voucherPubKey contentToVerify announcement.voucherSignature)
    "invalid voucher signature"
  match announcement.certificate with
  | none => return
  | some cert =>
    ensure (certificateValid a clusterPath voucherPubKey announcement cert) "invalid certificate"

def NewMemberAnnouncement.member : Member :=
  { nodeID := announcement.newNodeID
    clusterPath := clusterPath
    addresses := announcement.newNodeAddrs
    publicKey := announcement.publicKey
    capabilities := announcement.capabilities }

inductive Handled
  | dropped (log : String)
  | rejects (newNodeID reason : String)
  | confirms (m : Member)
  /-- A verified confirmation goes to the join that waits for it. -/
  | authConfirmed (c : MemberAuthConfirmed)
  | authRejected (r : MemberAuthRejected)
  | certRevoked (payload : Bytes)
  deriving DecidableEq

def handleNewMemberAnnouncement : Handled :=
  match a.codec.unmarshalAnnouncement payload with
  | .error _ => .dropped "failed to unmarshal new member announcement"
  | .ok announcement =>
    match verifyAnnouncement a lookup clusterPath announcement with
    | .error reason => .rejects announcement.newNodeID reason
    | .ok _ => .confirms (announcement.member clusterPath)

def verifyConfirmed : Except String MemberAuthConfirmed := do
  let confirmation ← (a.codec.unmarshalConfirmed payload).mapError fun _ =>
    "failed to unmarshal auth confirmed"
  let confirmerPubKey ← (lookup confirmation.confirmingNodeID clusterPath).mapError fun _ =>
    "unknown confirming node"
  let content := confirmationContent a.crypto clusterPath confirmation
  ensure (a.crypto.accepts confirmerPubKey content confirmation.signature)
    "invalid signature on auth confirmation"
  return confirmation

def verifyRejected : Except String MemberAuthRejected := do
  let rejection ← (a.codec.unmarshalRejected payload).mapError fun _ =>
    "failed to unmarshal auth rejected"
  let rejecterPubKey ← (lookup rejection.rejectingNodeID clusterPath).mapError fun _ =>
    "unknown rejecting node"
  let content := rejectionContent a.crypto clusterPath rejection
  ensure (a.crypto.accepts rejecterPubKey content rejection.signature)
    "invalid signature on auth rejection"
  return rejection

def dispatch (envelope : AuthMessage) : Handled :=
  if envelope.type = "new_member" then
    handleNewMemberAnnouncement a lookup clusterPath envelope.payload
  else if envelope.type = "auth_confirmed" then
    match verifyConfirmed a lookup clusterPath envelope.payload with
    | .error log => .dropped log
    | .ok confirmation => .authConfirmed confirmation
  else if envelope.type = "auth_rejected" then
    match verifyRejected a lookup clusterPath envelope.payload with
    | .error log => .dropped log
    | .ok rejection => .authRejected rejection
  else if envelope.type = "cert_revoked" then .certRevoked envelope.payload
  else .dropped "unknown auth message type"

def handleAuthPubSubMessage [DecidableEq H] (hash : Bytes → H) (seen : Seen H) (now : Int)
    (data : Bytes) : Seen H × Handled :=
  match isDuplicate hash maxMessageAge seen now data with
  | (true, seen) => (seen, .dropped "rejecting duplicate auth message")
  | (false, seen) =>
    match openEnvelope a lookup clusterPath now data with
    | .error log => (seen, .dropped log)
    | .ok envelope => (seen, dispatch a lookup clusterPath envelope)

structure Announced (now : Int) (data : Bytes) (announcement : NewMemberAnnouncement C) : Prop where
  opened : ∃ envelope, openEnvelope a lookup clusterPath now data = .ok envelope ∧
    envelope.type = "new_member" ∧ a.codec.unmarshalAnnouncement envelope.payload = .ok announcement
  verified : verifyAnnouncement a lookup clusterPath announcement = .ok ()

end Checks

variable {a : Authenticator K C} {lookup : Lookup K} {clusterPath : String}

theorem dispatch_confirms {envelope : AuthMessage} {m : Member}
    (confirmed : dispatch a lookup clusterPath envelope = .confirms m) :
    ∃ announcement, envelope.type = "new_member" ∧
      a.codec.unmarshalAnnouncement envelope.payload = .ok announcement ∧
      verifyAnnouncement a lookup clusterPath announcement = .ok () ∧
      announcement.member clusterPath = m := by
  unfold dispatch at confirmed
  split at confirmed
  · rename_i type
    unfold handleNewMemberAnnouncement at confirmed
    split at confirmed
    · cases confirmed
    · rename_i announcement unmarshalled
      split at confirmed
      · cases confirmed
      · rename_i verified
        exact ⟨announcement, type, unmarshalled, verified, Handled.confirms.inj confirmed⟩
  · -- The other types never confirm a member.
    split at confirmed
    · split at confirmed <;> cases confirmed
    · split at confirmed
      · split at confirmed <;> cases confirmed
      · split at confirmed <;> cases confirmed

theorem announced_of_confirms [DecidableEq H] {hash : Bytes → H} {seen : Seen H} {now : Int}
    {data : Bytes} {m : Member}
    (confirmed : (handleAuthPubSubMessage a lookup clusterPath hash seen now data).2
      = .confirms m) :
    ∃ announcement, Announced a lookup clusterPath now data announcement ∧
      announcement.member clusterPath = m := by
  unfold handleAuthPubSubMessage at confirmed
  split at confirmed
  · cases confirmed
  · split at confirmed
    · cases confirmed
    · rename_i envelope opened
      obtain ⟨announcement, type, unmarshalled, verified, same⟩ := dispatch_confirms confirmed
      exact ⟨announcement, ⟨⟨envelope, opened, type, unmarshalled⟩, verified⟩, same⟩

end Falak.Auth
