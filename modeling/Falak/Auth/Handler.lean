import Falak.Auth.Messages

/-! The voucher's side of the join handshake. -/

namespace Falak.Auth

open Phonebook (Book Member Row)

variable {K C : Type}

variable (a : Authenticator K C) (joinReq : JoinRequest)

structure Stream where
  remotePeer : String
  allowed : Bool
  request : Except String JoinRequest
  serverNonce : Except String Bytes
  challenge : Except String Bytes
  challengeSent : Bool
  response : Except String ChallengeResponse

inductive Refusal
  | answered (error : String)
  | closed
  deriving DecidableEq

def step1 (s : Stream) : Except Refusal JoinRequest := do
  ensure s.allowed (.answered "rate limited")
  let joinReq ← s.request.mapError fun _ => .closed
  let hmacKey ← require (a.hmacKeys joinReq.clusterPath) (.answered "unknown cluster")
  ensure (!a.isNodeRevoked joinReq.clusterPath joinReq.nodeID)
    (.answered "node certificate has been revoked")
  let serverNonce ← s.serverNonce.mapError fun _ => .answered "internal error"
  let challenge ← s.challenge.mapError fun _ => .answered "internal error"
  ensure s.challengeSent .closed
  let challengeResp ← s.response.mapError fun _ => .closed
  let expectedResponse := a.crypto.hmac hmacKey (challenge ++ joinReq.nonce ++ serverNonce)
  ensure (challengeResp.response == expectedResponse) (.answered "authentication failed")
  let pubKey ← (a.crypto.unmarshalPublicKey joinReq.publicKey).mapError fun _ =>
    .answered "invalid public key"
  ensure (a.crypto.accepts pubKey challengeResp.response challengeResp.signature)
    (.answered "invalid signature")
  return joinReq

def JoinRequest.member : Member :=
  { nodeID := joinReq.nodeID
    clusterPath := joinReq.clusterPath
    addresses := joinReq.addresses
    publicKey := joinReq.publicKey
    capabilities := joinReq.capabilities }

def buildNewMemberAnnouncement (now : Timestamp) (joinReq : JoinRequest) :
    Except String (NewMemberAnnouncement C) := do
  let contentToSign := announcementContent joinReq.nodeID joinReq.clusterPath joinReq.addresses
    joinReq.publicKey
  let voucherSig ← (a.sign contentToSign).mapError ("failed to sign announcement: " ++ ·)
  let nodePubKey ← (a.crypto.unmarshalPublicKey joinReq.publicKey).mapError
    ("failed to unmarshal node public key for certificate: " ++ ·)
  let provider ← require (a.providers joinReq.clusterPath)
    ("no certificate provider for cluster " ++ joinReq.clusterPath)
  ensure provider.canSign
    ("certificate provider for cluster " ++ joinReq.clusterPath ++ " cannot sign (no CA key)")
  let cert ← (provider.signForNode joinReq.nodeID nodePubKey joinReq.clusterPath).mapError
    ("failed to create certificate for new node: " ++ ·)
  return { newNodeID := joinReq.nodeID
           newNodeAddrs := joinReq.addresses
           capabilities := joinReq.capabilities
           clusterPath := joinReq.clusterPath
           voucherNodeID := a.selfID
           voucherSignature := voucherSig
           publicKey := joinReq.publicKey
           timestamp := some now
           certificate := some cert }

structure AuthResult where
  confirmed : Bool
  reason : String := ""
  deriving DecidableEq

inductive Verdict
  | done (result : AuthResult)
  | timeout (confirmCount rejectCount : Nat)
  deriving DecidableEq

def Verdict.proceeds : Verdict → Bool
  | .done result => result.confirmed
  | .timeout _ rejectCount => !decide (rejectCount > 0)

structure Query where
  phonebook : Option Book := none
  fault : Option String := none

def Query.entries (q : Query) (clusterPath : String) :
    List (Sigma fun _ : String × String => Row) :=
  match q.phonebook, q.fault with
  | some book, none => book.getByCluster clusterPath
  | _, _ => []

structure Aftermath where
  now : Timestamp
  counted : Query
  broadcast : Option String
  verdict : Verdict
  listed : Query
  completeSent : Bool

def memberInfo (entry : Sigma fun _ : String × String => Row) : MemberInfo :=
  { nodeID := entry.1.1
    addresses := entry.2.addresses
    capabilities := entry.2.capabilities
    joinedAt := .new (entry.2.firstSeen * millisecond)
    publicKey := entry.2.publicKey }

/-- The last message to the joining node, if it can be sent. -/
def step2 (after : Aftermath) :
    Option (AuthComplete C) :=
  match buildNewMemberAnnouncement a after.now joinReq with
  | .error _ => some { fullyAuthenticated := false }
  | .ok announcement =>
    if after.broadcast.isSome then some { fullyAuthenticated := false }
    else if (after.counted.entries joinReq.clusterPath).length > 0 ∧ !after.verdict.proceeds then
      some { fullyAuthenticated := false }
    else if after.completeSent then
      some
        { fullyAuthenticated := true
          clusterMembers := (after.listed.entries joinReq.clusterPath).map memberInfo
          nodeCertificate := announcement.certificate }
    else none

structure Outcome (C : Type) where
  result : Except Refusal Unit
  announced : Option Member
  complete : Option (AuthComplete C)

def handleAuthStream (s : Stream) (after : Aftermath) : Outcome C :=
  match step1 a s with
  | .error refusal => ⟨.error refusal, none, none⟩
  | .ok joinReq => ⟨.ok (), some joinReq.member, step2 a joinReq after⟩

def Outcome.succeeded (o : Outcome C) : Bool := o.complete.any (·.fullyAuthenticated)

structure Admitted (a : Authenticator K C) (s : Stream) (joinReq : JoinRequest) : Prop where
  allowed : s.allowed
  request : s.request = .ok joinReq
  unrevoked : a.isNodeRevoked joinReq.clusterPath joinReq.nodeID = false
  sent : s.challengeSent
  answered : ∃ hmacKey serverNonce challenge resp pubKey,
    a.hmacKeys joinReq.clusterPath = some hmacKey ∧
      s.serverNonce = .ok serverNonce ∧ s.challenge = .ok challenge ∧ s.response = .ok resp ∧
      resp.response = a.crypto.hmac hmacKey (challenge ++ joinReq.nonce ++ serverNonce) ∧
      a.crypto.unmarshalPublicKey joinReq.publicKey = .ok pubKey ∧
      a.crypto.accepts pubKey resp.response resp.signature

theorem step1_ok {a : Authenticator K C} {s : Stream} {joinReq : JoinRequest} :
    step1 a s = .ok joinReq ↔ Admitted a s joinReq := by
  unfold step1
  simp only [bind_ok_iff, ensure_ok_iff, require_ok_iff, mapError_ok_iff, pure_ok_iff, beq_iff_eq,
    Bool.not_eq_true']
  constructor
  · -- Each step that passed is one of the conditions.
    rintro ⟨-, allowed, req, request, hmacKey, keyed, -, unrevoked, serverNonce, nonce, challenge,
      challenged, -, sent, resp, response, -, hashed, pubKey, unmarshalled, -, signed, rfl⟩
    exact ⟨allowed, request, unrevoked, sent, hmacKey, serverNonce, challenge, resp, pubKey, keyed,
      nonce, challenged, response, hashed, unmarshalled, signed⟩
  · rintro ⟨allowed, request, unrevoked, sent, hmacKey, serverNonce, challenge, resp, pubKey, keyed,
      nonce, challenged, response, hashed, unmarshalled, signed⟩
    exact ⟨(), allowed, joinReq, request, hmacKey, keyed, (), unrevoked, serverNonce, nonce,
      challenge, challenged, (), sent, resp, response, (), hashed, pubKey, unmarshalled, (), signed,
      rfl⟩

theorem handleAuthStream_announced {a : Authenticator K C} {s : Stream} {after : Aftermath}
    {m : Member} :
    (handleAuthStream a s after).announced = some m ↔
      ∃ joinReq, Admitted a s joinReq ∧ joinReq.member = m := by
  unfold handleAuthStream
  constructor
  · intro announced
    split at announced
    · cases announced
    · rename_i joinReq passed
      exact ⟨joinReq, step1_ok.mp passed, Option.some.inj announced⟩
  · rintro ⟨joinReq, admitted, rfl⟩
    rw [step1_ok.mpr admitted]

def plainCrypto : Crypto Bytes :=
  { unmarshalPublicKey := .ok
    verify := fun key _ signature => .ok (signature == key)
    hmac := fun key data => key ++ data
    marshalTime := fun _ => [] }

def plainCodec : Codec Unit :=
  { unmarshalMessage := fun _ => .error "no envelope"
    unmarshalAnnouncement := fun _ => .error "no announcement"
    unmarshalConfirmed := fun _ => .ok ⟨"node-n", "node-a", "r/d/c", [1], none⟩
    unmarshalRejected := fun _ => .ok ⟨"node-n", "node-b", "r/d/c", "no", [1], none⟩ }

def plainVoucher : Authenticator Bytes Unit :=
  { selfID := "node-v"
    crypto := plainCrypto
    codec := plainCodec
    sign := .ok
    hmacKeys := fun clusterPath => if clusterPath = "r/d/c" then some [9] else none
    isNodeRevoked := fun _ _ => false
    providers := fun _ => none
    verifyCertificateInAnnouncement := fun _ _ => .ok true
    rejectAllAuth := false }

def joining (remotePeer nodeID : String) (publicKey : Bytes) : Stream :=
  { remotePeer := remotePeer
    allowed := true
    request := .ok ⟨nodeID, "r/d/c", [], none, [], publicKey⟩
    serverNonce := .ok [2]
    challenge := .ok [3]
    challengeSent := true
    response := .ok ⟨[9, 3, 2], publicKey⟩ }

def undisturbed : Aftermath :=
  { now := .new 0
    counted := {}
    broadcast := none
    verdict := .done ⟨true, ""⟩
    listed := {}
    completeSent := true }

end Falak.Auth
