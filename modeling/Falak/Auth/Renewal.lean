import Falak.Auth.Handler

/-! The renewal of certificates. -/

namespace Falak.Auth

open Phonebook (Book)

variable {K : Type}

structure NodeCertificate where
  nodeID : String
  nodePublicKey : Bytes
  clusterPath : String
  issuerNodeID : String
  issuedAt : Option Timestamp
  expiresAt : Option Timestamp
  signature : Bytes
  isSelfSigned : Bool
  deriving DecidableEq

structure RenewalRequest where
  currentCert : Option NodeCertificate
  newPublicKey : Bytes
  clusterPath : String
  deriving DecidableEq

structure RenewalResponse where
  success : Bool
  newCert : Option NodeCertificate := none
  error : String := ""
  deriving DecidableEq

structure CertLibrary where
  certFingerprint : NodeCertificate → Except String String
  isCertRevoked : String → String → Bool

structure RenewalStream where
  remotePeer : String
  request : Except String RenewalRequest
  now : Int
  phonebook : Option Book
  fault : Option String

def CertLibrary.revokes (certs : CertLibrary) (clusterPath : String) (cert : NodeCertificate) :
    Bool :=
  match certs.certFingerprint cert with
  | .ok fingerprint => certs.isCertRevoked clusterPath fingerprint
  | .error _ => false

def RenewalStream.knows (s : RenewalStream) (nodeID clusterPath : String) : Bool :=
  match s.phonebook with
  | none => true
  | some book => s.fault.isNone && (book.get nodeID clusterPath).isSome

def RenewalRequest.nodePubKey (crypto : Crypto K) (req : RenewalRequest) (cert : NodeCertificate) :
    Except String K :=
  if req.newPublicKey.length > 0 then
    (crypto.unmarshalPublicKey req.newPublicKey).mapError fun _ => "invalid new public key"
  else (crypto.unmarshalPublicKey cert.nodePublicKey).mapError fun _ => "invalid current public key"

section

variable (a : Authenticator K NodeCertificate) (certs : CertLibrary) (s : RenewalStream)

/-- The new certificate for a request, or the error for the peer. -/
def renew (req : RenewalRequest) : Except String NodeCertificate := do
  let provider ← require (a.providers req.clusterPath) "unknown cluster"
  ensure provider.canSign "this node cannot sign certificates"
  let currentCert ← require req.currentCert "no current certificate provided"
  ensure (!certs.revokes req.clusterPath currentCert) "certificate has been revoked"
  ensure (!a.isNodeRevoked req.clusterPath currentCert.nodeID) "node has been revoked"
  ensure (s.knows currentCert.nodeID req.clusterPath) "node not found in phonebook"
  let nodePubKey ← req.nodePubKey a.crypto currentCert
  (provider.signForNode currentCert.nodeID nodePubKey req.clusterPath).mapError fun _ =>
    "failed to sign new certificate"

def handleRenewalStream : Option RenewalResponse :=
  match s.request with
  | .error _ => none
  | .ok req =>
    match renew a certs s req with
    | .error err => some { success := false, error := err }
    | .ok newCert => some { success := true, newCert := some newCert }

structure Vetted (req : RenewalRequest) (provider : Provider K NodeCertificate)
    (cert newCert : NodeCertificate) : Prop where
  request : s.request = .ok req
  provided : a.providers req.clusterPath = some provider
  canSign : provider.canSign = true
  current : req.currentCert = some cert
  unrevoked : certs.revokes req.clusterPath cert = false
  nodeUnrevoked : a.isNodeRevoked req.clusterPath cert.nodeID = false
  known : s.knows cert.nodeID req.clusterPath = true
  signed : ∃ key, req.nodePubKey a.crypto cert = .ok key ∧
    provider.signForNode cert.nodeID key req.clusterPath = .ok newCert

structure Proven (provider : Provider K NodeCertificate) (cert : NodeCertificate) : Prop where
  verified : passed (provider.verifyNodeCertificate cert) = true
  unexpired : ∀ expiry ∈ cert.expiresAt, s.now ≤ expiry.asTime
  owner : cert.nodeID = s.remotePeer
  phonebook : s.phonebook.isSome = true

structure Entitled (req : RenewalRequest) (nodeID : String) : Prop where
  certificate : ∃ provider cert, a.providers req.clusterPath = some provider ∧
    req.currentCert = some cert ∧ cert.nodeID = nodeID ∧
    passed (provider.verifyNodeCertificate cert) = true ∧
    (∀ expiry ∈ cert.expiresAt, s.now ≤ expiry.asTime) ∧
    certs.revokes req.clusterPath cert = false
  unrevoked : a.isNodeRevoked req.clusterPath nodeID = false
  member : ∃ book ∈ s.phonebook, (book.get nodeID req.clusterPath).isSome = true
  remote : s.remotePeer = nodeID

end

def IssuesAsAsked (a : Authenticator K NodeCertificate) : Prop :=
  ∀ clusterPath provider nodeID key cert, a.providers clusterPath = some provider →
    provider.signForNode nodeID key clusterPath = .ok cert → cert.nodeID = nodeID

variable {a : Authenticator K NodeCertificate} {certs : CertLibrary} {s : RenewalStream}

theorem handleRenewalStream_success {newCert : NodeCertificate} :
    handleRenewalStream a certs s = some { success := true, newCert := some newCert } ↔
      ∃ req provider cert, Vetted a certs s req provider cert newCert := by
  unfold handleRenewalStream
  constructor
  · intro sent
    split at sent
    · cases sent
    · rename_i req request
      split at sent
      · cases sent
      · rename_i issued renewed
        obtain rfl : issued = newCert := by simpa using sent
        simp only [renew, bind_ok_iff, ensure_ok_iff, require_ok_iff, mapError_ok_iff,
          Bool.not_eq_true'] at renewed
        obtain ⟨provider, provided, -, canSign, cert, current, -, unrevoked, -, nodeUnrevoked, -,
          known, key, keyed, signed⟩ := renewed
        exact ⟨req, provider, cert, request, provided, canSign, current, unrevoked, nodeUnrevoked,
          known, key, keyed, signed⟩
  · rintro ⟨req, provider, cert, vetted⟩
    obtain ⟨key, keyed, signed⟩ := vetted.signed
    have renewed : renew a certs s req = .ok newCert := by
      simp only [renew, bind_ok_iff, ensure_ok_iff, require_ok_iff, mapError_ok_iff,
        Bool.not_eq_true']
      exact ⟨provider, vetted.provided, (), vetted.canSign, cert, vetted.current, (),
        vetted.unrevoked, (), vetted.nodeUnrevoked, (), vetted.known, key, keyed, signed⟩
    rw [vetted.request]
    simp only [renewed]

variable {req : RenewalRequest} {provider : Provider K NodeCertificate} {cert : NodeCertificate}

theorem Vetted.entitled {newCert : NodeCertificate}
    (vetted : Vetted a certs s req provider cert newCert) (proven : Proven s provider cert) :
    Entitled a certs s req cert.nodeID := by
  refine ⟨⟨provider, cert, vetted.provided, vetted.current, rfl, proven.verified, proven.unexpired,
    vetted.unrevoked⟩, vetted.nodeUnrevoked, ?_, proven.owner.symm⟩
  obtain ⟨book, there⟩ := Option.isSome_iff_exists.mp proven.phonebook
  have known := vetted.known
  simp only [RenewalStream.knows, there, Bool.and_eq_true] at known
  exact ⟨book, there, known.2⟩

theorem Entitled.proven (entitled : Entitled a certs s req cert.nodeID)
    (provided : a.providers req.clusterPath = some provider)
    (current : req.currentCert = some cert) : Proven s provider cert := by
  obtain ⟨provider', cert', provided', current', -, verified, unexpired, -⟩ := entitled.certificate
  rw [provided, Option.some.injEq] at provided'
  rw [current, Option.some.injEq] at current'
  subst provided' current'
  obtain ⟨book, there, -⟩ := entitled.member
  exact ⟨verified, unexpired, entitled.remote.symm, by rw [Option.mem_def.mp there]; rfl⟩

/--
Certificates are renewed for their owners only, exactly when every request that passes the checks is
proven by other means.
-/
theorem renewed_for_owner_iff (issues : IssuesAsAsked a) :
    (∀ req newCert, s.request = .ok req →
      handleRenewalStream a certs s = some { success := true, newCert := some newCert } →
      Entitled a certs s req newCert.nodeID) ↔
    ∀ req provider cert newCert, Vetted a certs s req provider cert newCert →
      Proven s provider cert := by
  constructor
  · intro owned req provider cert newCert vetted
    obtain ⟨key, -, signed⟩ := vetted.signed
    have same : newCert.nodeID = cert.nodeID := issues _ _ _ _ _ vetted.provided signed
    have entitled := owned req newCert vetted.request
      (handleRenewalStream_success.mpr ⟨req, provider, cert, vetted⟩)
    rw [same] at entitled
    exact entitled.proven vetted.provided vetted.current
  · intro proven req newCert request sent
    obtain ⟨req', provider, cert, vetted⟩ := handleRenewalStream_success.mp sent
    -- There is one request on the stream.
    obtain rfl : req = req' := Except.ok.inj (request.symm.trans vetted.request)
    obtain ⟨key, -, signed⟩ := vetted.signed
    rw [issues _ _ _ _ _ vetted.provided signed]
    exact vetted.entitled (proven req provider cert newCert vetted)

def certificateOf (nodeID : String) (publicKey signature : Bytes) : NodeCertificate :=
  { nodeID := nodeID
    nodePublicKey := publicKey
    clusterPath := "r/d/c"
    issuerNodeID := "node-v"
    issuedAt := none
    expiresAt := none
    signature := signature
    isSelfSigned := false }

def plainProvider : Provider Bytes NodeCertificate :=
  { canSign := true
    signForNode := fun nodeID key _ => .ok (certificateOf nodeID key [7])
    verifyNodeCertificate := fun cert => .ok (cert.signature == [7]) }

def issuer : Authenticator Bytes NodeCertificate :=
  { selfID := "node-v"
    crypto := plainCrypto
    codec :=
      { unmarshalMessage := fun _ => .error "no envelope"
        unmarshalAnnouncement := fun _ => .error "no announcement"
        unmarshalConfirmed := fun _ => .error "no confirmation"
        unmarshalRejected := fun _ => .error "no rejection" }
    sign := .ok
    hmacKeys := fun _ => none
    isNodeRevoked := fun _ _ => false
    providers := fun clusterPath => if clusterPath = "r/d/c" then some plainProvider else none
    verifyCertificateInAnnouncement := fun _ _ => .ok true
    rejectAllAuth := false }

def nothingRevoked : CertLibrary := ⟨fun cert => .ok cert.nodeID, fun _ _ => false⟩

def memberRow : Phonebook.Row :=
  { publicKey := [1]
    addresses := []
    region := "r"
    datacenter := "d"
    capabilities := none
    firstSeen := 0
    lastSeen := 0
    updatedAt := 0
    tracking := {}
    status := .active }

def asking (remotePeer : String) (signature publicKey : Bytes) : RenewalStream :=
  { remotePeer := remotePeer
    request := .ok ⟨some (certificateOf "node-a" [1] signature), publicKey, "r/d/c"⟩
    now := 0
    phonebook := some (AList.singleton ("node-a", "r/d/c") memberRow)
    fault := none }

theorem issuer_issuesAsAsked : IssuesAsAsked issuer := by
  intro clusterPath provider nodeID key cert provided signed
  -- There is one provider, and it copies the node ID.
  simp only [issuer] at provided
  split at provided
  · cases provided
    cases signed
    rfl
  · cases provided

/-- A peer shows a forged certificate of another node and is sent a genuine one for its own key. -/
theorem renewed_for_stranger :
    handleRenewalStream issuer nothingRevoked (asking "node-m" [] [66])
      = some { success := true, newCert := some (certificateOf "node-a" [66] [7]) } ∧
    passed (plainProvider.verifyNodeCertificate (certificateOf "node-a" [1] [])) = false ∧
    "node-m" ≠ (certificateOf "node-a" [66] [7]).nodeID := by
  decide

/-- The owner of a genuine certificate is sent a new one, and the condition is met. -/
theorem renewed_for_owner_genuine :
    handleRenewalStream issuer nothingRevoked (asking "node-a" [7] [66])
      = some { success := true, newCert := some (certificateOf "node-a" [66] [7]) } ∧
    ∀ req newCert, (asking "node-a" [7] [66]).request = .ok req →
      handleRenewalStream issuer nothingRevoked (asking "node-a" [7] [66])
        = some { success := true, newCert := some newCert } →
      Entitled issuer nothingRevoked (asking "node-a" [7] [66]) req newCert.nodeID := by
  refine ⟨by decide, (renewed_for_owner_iff issuer_issuesAsAsked).mpr ?_⟩
  intro req provider cert newCert vetted
  obtain rfl := Except.ok.inj vetted.request
  obtain rfl := Option.some.inj vetted.current
  obtain rfl := Option.some.inj vetted.provided
  exact ⟨rfl, by simp [certificateOf], rfl, rfl⟩

end Falak.Auth
