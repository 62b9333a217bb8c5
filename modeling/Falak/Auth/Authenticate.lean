import Falak.Auth.Handler
import Falak.Auth.Sessions
import Mathlib.Logic.Function.Basic

/-!
The joining node's side of the handshake, and the two sides together.

A refusal that comes before the challenge is read as a challenge: its text has the field number of
the nonce.
-/

namespace Falak.Auth

open Phonebook (Member)

variable {K C : Type}

structure Challenge where
  challenge : Bytes
  serverNonce : Bytes

structure Step1Result where
  success : Bool
  error : String

/-- What the joining node publishes on its event bus. -/
inductive JoinEvent
  | authenticationFailed (clusterPath targetPeer reason : String)
  | clusterMembersReceived (clusterPath : String) (members : List MemberInfo)
  | peerAuthenticated (clusterPath voucherNodeID : String)
  | syncRequested (clusterPath reason : String)
  | newMemberAnnounced (member : Member)
  | clusterJoined (clusterPath voucherNodeID : String)
  | clusterJoinFailed (clusterPath reason : String)
  deriving DecidableEq

structure Joiner (C : Type) where
  sessions : String → Option Session := fun _ => none
  certificates : String → Option C := fun _ => none
  events : List JoinEvent := []

/-- What the joining node brings along: its random numbers, its key and its addresses. -/
structure Own where
  nonce : Except String Bytes
  publicKey : Except String Bytes
  addresses : List String
  saved : Except String Unit
  now : Int

/-- What the joining node meets on its stream. -/
structure Dial (C : Type) extends Own where
  stream : Except String Unit
  requestSent : Except String Unit
  challenge : Except String Challenge
  responseSent : Except String Unit
  step1Result : Except String Step1Result
  complete : Except String (AuthComplete C)

/-- Why a join fails, and the reason that is published if there is one. -/
structure JoinFailure where
  error : String
  reason : Option String := none

section Client

variable (a : Authenticator K C) (clusterPath : String)

def respond (hmacKey nonce : Bytes) (c : Challenge) : Except String ChallengeResponse := do
  let response := a.crypto.hmac hmacKey (c.challenge ++ nonce ++ c.serverNonce)
  let signature ← a.sign response
  return ⟨response, signature⟩

/-- The answers of the voucher to a response. -/
def conclude (d : Dial C) : Except JoinFailure (AuthComplete C) := do
  let result ← d.step1Result.mapError fun err =>
    { error := "failed to receive step1 result: " ++ err }
  ensure result.success
    { error := "authentication failed: " ++ result.error, reason := some result.error }
  let complete ← d.complete.mapError fun err =>
    { error := "failed to receive auth complete: " ++ err }
  ensure complete.fullyAuthenticated { error := "full authentication failed" }
  return complete

def exchange (d : Dial C) : Except JoinFailure (AuthComplete C) := do
  let hmacKey ← require (a.hmacKeys clusterPath)
    { error := "no HMAC key derived for cluster " ++ clusterPath ++ " (PSK not set)" }
  d.stream.mapError fun err =>
    { error := "failed to open auth stream: " ++ err,
      reason := some ("failed to open stream: " ++ err) }
  let nonce ← d.nonce.mapError fun err => { error := "failed to generate nonce: " ++ err }
  let _ ← d.publicKey.mapError fun err => { error := "failed to marshal public key: " ++ err }
  d.requestSent.mapError fun err => { error := "failed to send join request: " ++ err }
  let challenge ← d.challenge.mapError fun err =>
    { error := "failed to receive challenge: " ++ err }
  let _ ← (respond a hmacKey nonce challenge).mapError fun err =>
    { error := "failed to sign response: " ++ err }
  d.responseSent.mapError fun err => { error := "failed to send challenge response: " ++ err }
  conclude d

def authenticate (targetPeer : String) (d : Dial C) (x : Joiner C) :
    Joiner C × Except String Session :=
  match exchange a clusterPath d with
  | .error failure =>
    let failed := failure.reason.map (.authenticationFailed clusterPath targetPeer ·)
    ({ x with events := x.events ++ failed.toList }, .error failure.error)
  | .ok complete =>
    let session : Session := ⟨.authenticated, targetPeer, d.now, d.now, none⟩
    let received :=
      if complete.clusterMembers = [] then []
      else [.clusterMembersReceived clusterPath complete.clusterMembers]
    ({ sessions := Function.update x.sessions clusterPath (some session)
       certificates :=
        match complete.nodeCertificate, a.providers clusterPath, d.saved with
        | some cert, some _, .ok () => Function.update x.certificates clusterPath (some cert)
        | _, _, _ => x.certificates
       events := x.events ++ received ++ [.peerAuthenticated clusterPath targetPeer,
        .syncRequested clusterPath "post_auth"] }, .ok session)

end Client

/-- What a voucher has chosen when it sends its challenge. -/
structure Invitation where
  joinReq : JoinRequest
  hmacKey : Bytes
  serverNonce : Bytes
  challenge : Bytes

/-- The voucher's checks up to its challenge. -/
def invite (a : Authenticator K C) (s : Stream) : Except Refusal Invitation := do
  ensure s.allowed (.answered "rate limited")
  let joinReq ← s.request.mapError fun _ => .closed
  let hmacKey ← require (a.hmacKeys joinReq.clusterPath) (.answered "unknown cluster")
  ensure (!a.isNodeRevoked joinReq.clusterPath joinReq.nodeID)
    (.answered "node certificate has been revoked")
  let serverNonce ← s.serverNonce.mapError fun _ => .answered "internal error"
  let challenge ← s.challenge.mapError fun _ => .answered "internal error"
  ensure s.challengeSent .closed
  return ⟨joinReq, hmacKey, serverNonce, challenge⟩

/-- A join: the two sides, what each brings along, and how their messages fare. -/
structure Meeting (K C : Type) where
  client : Authenticator K C
  voucher : Authenticator K C
  clusterPath : String
  targetPeer : String
  own : Own
  allowed : Bool
  serverNonce : Except String Bytes
  challenge : Except String Bytes
  after : Aftermath
  opened : Except String Unit
  requestSent : Except String Unit
  requestRead : Except String Unit
  challengeSent : Bool
  challengeRead : Except String Unit
  responseSent : Except String Unit
  responseRead : Except String Unit
  resultRead : Except String Unit
  completeRead : Except String Unit
  /-- The error of a read after the other side has closed the stream. -/
  closed : String

namespace Meeting

variable (m : Meeting K C)

/-- The stream as the voucher sees it. -/
def stream : Stream :=
  { remotePeer := m.client.selfID
    allowed := m.allowed
    request := do
      let _ ← require (m.client.hmacKeys m.clusterPath) m.closed
      m.opened
      let nonce ← m.own.nonce
      let publicKey ← m.own.publicKey
      m.requestSent
      m.requestRead
      return ⟨m.client.selfID, m.clusterPath, m.own.addresses, none, nonce, publicKey⟩
    serverNonce := m.serverNonce
    challenge := m.challenge
    challengeSent := m.challengeSent
    response := do
      let hmacKey ← require (m.client.hmacKeys m.clusterPath) m.closed
      let nonce ← m.own.nonce
      let serverNonce ← m.serverNonce
      let challenge ← m.challenge
      m.challengeRead
      let response ← respond m.client hmacKey nonce ⟨challenge, serverNonce⟩
      m.responseSent
      m.responseRead
      return response }

def outcome : Outcome C := handleAuthStream m.voucher m.stream m.after

/-- The stream as the joining node sees it. -/
def dial : Dial C :=
  { m.own with
    stream := m.opened
    requestSent := m.requestSent
    challenge :=
      match invite m.voucher m.stream with
      | .ok i => m.challengeRead.map fun _ => ⟨i.challenge, i.serverNonce⟩
      -- The text of the refusal is taken for the nonce.
      | .error (.answered err) => m.challengeRead.map fun _ => ⟨[], utf8 err⟩
      | .error .closed => .error m.closed
    responseSent := m.responseSent
    step1Result :=
      match invite m.voucher m.stream, m.outcome.result with
      | .ok _, .ok () => m.resultRead.map fun _ => ⟨true, ""⟩
      | .ok _, .error (.answered err) => m.resultRead.map fun _ => ⟨false, err⟩
      | _, _ => .error m.closed
    complete :=
      match m.outcome.complete with
      | some complete => m.completeRead.map fun _ => complete
      | none => .error m.closed }

def exchanged : Except JoinFailure (AuthComplete C) := exchange m.client m.clusterPath m.dial

def joined (x : Joiner C) : Joiner C × Except String Session :=
  authenticate m.client m.clusterPath m.targetPeer m.dial x

variable {m} {complete : AuthComplete C}

theorem step1_eq (a : Authenticator K C) (s : Stream) :
    step1 a s = invite a s >>= fun i => do
      let challengeResp ← s.response.mapError fun _ => .closed
      ensure (challengeResp.response ==
        a.crypto.hmac i.hmacKey (i.challenge ++ i.joinReq.nonce ++ i.serverNonce))
        (.answered "authentication failed")
      let pubKey ← (a.crypto.unmarshalPublicKey i.joinReq.publicKey).mapError fun _ =>
        .answered "invalid public key"
      ensure (a.crypto.accepts pubKey challengeResp.response challengeResp.signature)
        (.answered "invalid signature")
      return i.joinReq := by
  simp only [step1, invite, bind_assoc, pure_bind]

theorem invite_ok {a : Authenticator K C} {s : Stream} {joinReq : JoinRequest}
    (passed : step1 a s = .ok joinReq) : ∃ i, invite a s = .ok i := by
  rw [step1_eq, bind_ok_iff] at passed
  obtain ⟨i, invited, -⟩ := passed
  exact ⟨i, invited⟩

theorem result_of_complete {a : Authenticator K C} {s : Stream} {after : Aftermath}
    (sent : (handleAuthStream a s after).complete = some complete) :
    (handleAuthStream a s after).result = .ok () ∧ ∃ joinReq, step1 a s = .ok joinReq := by
  unfold handleAuthStream at sent ⊢
  split at sent
  · cases sent
  · rename_i joinReq passed
    exact ⟨rfl, joinReq, passed⟩

theorem exchange_dial {joinReq : JoinRequest} {i : Invitation} {resp : ChallengeResponse}
    (request : m.stream.request = .ok joinReq)
    (invited : invite m.voucher m.stream = .ok i)
    (response : m.stream.response = .ok resp) :
    m.exchanged = conclude m.dial := by
  -- What the voucher has read tells how the messages before it have fared.
  have drawn := invited
  simp only [invite, stream, bind_ok_iff, ensure_ok_iff, require_ok_iff, mapError_ok_iff,
    pure_ok_iff] at drawn
  obtain ⟨-, -, req, -, key, -, -, -, serverNonce, nonced, challenge, challenged, -, -, rfl⟩ :=
    drawn
  simp only [stream, bind_ok_iff, require_ok_iff, pure_ok_iff] at request response
  obtain ⟨hmacKey, keyed, ⟨⟩, opened, nonce, made, publicKey, marshalled, ⟨⟩, sent, -⟩ := request
  obtain ⟨hmacKey', keyed', nonce', made', serverNonce', nonced', challenge', challenged', ⟨⟩, read,
    resp', answered, ⟨⟩, replied, -⟩ := response
  cases keyed.symm.trans keyed'
  cases made.symm.trans made'
  cases nonced.symm.trans nonced'
  cases challenged.symm.trans challenged'
  simp only [exchanged, exchange, keyed, dial, opened, made, marshalled, sent, invited, read,
    replied]
  simp only [require, Except.mapError, Except.map, answered, bind, Except.bind]

theorem step1Result_dial :
    (∃ result, m.dial.step1Result = .ok result ∧ result.success) ↔
      (∃ i, invite m.voucher m.stream = .ok i) ∧
        m.outcome.result = .ok () ∧ m.resultRead = .ok () := by
  simp only [dial]
  split
  · rename_i i invited passed
    cases m.resultRead <;> simp [Except.map, invited, passed]
  · rename_i i err invited refused
    cases m.resultRead <;> simp [Except.map, refused]
  · rename_i other _
    simp only [reduceCtorEq, false_and, exists_false, false_iff]
    rintro ⟨⟨i, invited⟩, passed, -⟩
    exact other i invited passed

theorem exchange_dial_ok :
    m.exchanged = .ok complete ↔
      m.outcome.complete = some complete ∧
        complete.fullyAuthenticated = true ∧ m.resultRead = .ok () ∧ m.completeRead = .ok () := by
  have received (c : AuthComplete C) : m.dial.complete = .ok c ↔
      m.outcome.complete = some c ∧ m.completeRead = .ok () := by
    simp only [dial]
    cases m.outcome.complete <;> cases m.completeRead <;>
      simp [Except.map]
  have concluded : conclude m.dial = .ok complete ↔
      (∃ result, m.dial.step1Result = .ok result ∧
        result.success) ∧ m.outcome.complete = some complete ∧
        m.completeRead = .ok () ∧ complete.fullyAuthenticated = true := by
    simp only [conclude, bind_ok_iff, mapError_ok_iff, ensure_ok_iff, pure_ok_iff, received]
    constructor
    · rintro ⟨result, read, -, success, _, ⟨sent, arrived⟩, -, full, rfl⟩
      exact ⟨⟨result, read, success⟩, sent, arrived, full⟩
    · rintro ⟨⟨result, read, success⟩, sent, arrived, full⟩
      exact ⟨result, read, (), success, complete, ⟨sent, arrived⟩, (), full, rfl⟩
  constructor
  · intro done
    simp only [exchanged, exchange, bind_ok_iff] at done
    obtain ⟨-, -, -, -, -, -, -, -, -, -, -, -, -, -, -, -, done⟩ := done
    obtain ⟨result, sent, arrived, full⟩ := concluded.mp done
    exact ⟨sent, full, (step1Result_dial.mp result).2.2, arrived⟩
  · rintro ⟨sent, full, read, arrived⟩
    obtain ⟨passed, joinReq, first⟩ := result_of_complete sent
    obtain ⟨i, invited⟩ := invite_ok first
    have admitted := step1_ok.mp first
    obtain ⟨-, -, -, resp, -, -, -, -, response, -⟩ := admitted.answered
    rw [exchange_dial admitted.request invited response]
    exact concluded.mpr ⟨step1Result_dial.mpr ⟨⟨i, invited⟩, passed, read⟩, sent, arrived, full⟩

/-- A failure of which nothing is published. -/
def Silent {A : Type} (x : Except JoinFailure A) : Prop :=
  ∀ failure, x = .error failure → failure.reason = none

theorem Silent.bind {A B : Type} {x : Except JoinFailure A} {k : A → Except JoinFailure B}
    (first : Silent x) (rest : ∀ y, Silent (k y)) : Silent (x >>= k) := by
  cases x with
  | error failure =>
    rintro failure ⟨⟩
    exact first _ rfl
  | ok y => exact rest y

theorem silent_mapError {A : Type} {x : Except String A} {rename : String → JoinFailure}
    (quiet : ∀ err, (rename err).reason = none) : Silent (x.mapError rename) := by
  cases x with
  | error err =>
    rintro failure ⟨⟩
    exact quiet err
  | ok x => exact nofun

theorem silent_uninvited {refusal : Refusal} (opened : m.opened = .ok ())
    (uninvited : invite m.voucher m.stream = .error refusal) :
    Silent m.exchanged := by
  have keyless : Silent (require (m.client.hmacKeys m.clusterPath)
      { error := "no HMAC key derived for cluster " ++ m.clusterPath ++ " (PSK not set)" }) := by
    cases m.client.hmacKeys m.clusterPath with
    | none =>
      rintro failure ⟨⟩
      rfl
    | some key => exact nofun
  have open' : Silent (m.dial.stream.mapError fun err =>
      (⟨"failed to open auth stream: " ++ err, some ("failed to open stream: " ++ err)⟩ :
        JoinFailure)) := by
    simp only [dial, opened]
    exact nofun
  -- The voucher has closed the stream, so there is no result to read.
  have ended : m.dial.step1Result = .error m.closed := by
    simp only [dial, uninvited]
  refine keyless.bind fun hmacKey => open'.bind fun _ => ?_
  refine (silent_mapError fun _ => rfl).bind fun nonce => ?_
  refine (silent_mapError fun _ => rfl).bind fun publicKey => ?_
  refine (silent_mapError fun _ => rfl).bind fun _ => ?_
  refine (silent_mapError fun _ => rfl).bind fun challenge => ?_
  refine (silent_mapError fun _ => rfl).bind fun response => ?_
  refine (silent_mapError fun _ => rfl).bind fun _ => ?_
  rw [conclude, ended]
  rintro failure ⟨⟩
  rfl

theorem exchange_refused {reason : String} (opened : m.opened = .ok ())
    (read : m.resultRead = .ok ())
    (refused : m.outcome.result = .error (.answered reason)) :
    ∃ failure, m.exchanged = .error failure ∧
      failure.reason = if (invite m.voucher m.stream).isOk then some reason
        else none := by
  have unpassed : step1 m.voucher m.stream = .error (.answered reason) := by
    unfold outcome handleAuthStream at refused
    split at refused
    · rename_i passed
      rw [passed, Except.error.inj refused]
    · cases refused
  cases invited : invite m.voucher m.stream with
  | error refusal =>
    cases failed : m.exchanged with
    | error failure => exact ⟨failure, rfl, silent_uninvited opened invited failure failed⟩
    | ok complete =>
      obtain ⟨sent, -⟩ := exchange_dial_ok.mp failed
      cases refused.symm.trans (result_of_complete sent).1
  | ok i =>
    rw [step1_eq, invited] at unpassed
    -- A voucher that has sent its challenge refuses only what it has read.
    cases response : m.stream.response with
    | error err =>
      rw [response] at unpassed
      cases unpassed
    | ok resp =>
      obtain ⟨joinReq, request⟩ : ∃ joinReq, m.stream.request
          = .ok joinReq := by
        simp only [invite, bind_ok_iff, mapError_ok_iff] at invited
        obtain ⟨-, -, joinReq, request, -⟩ := invited
        exact ⟨joinReq, request⟩
      rw [exchange_dial request invited response, conclude]
      simp only [dial, invited, refused, read]
      exact ⟨_, rfl, rfl⟩

theorem certificate_of_step2 {a : Authenticator K C} {joinReq : JoinRequest} {after : Aftermath}
    (sent : step2 a joinReq after = some complete) (full : complete.fullyAuthenticated = true) :
    ∃ pubKey provider cert, a.crypto.unmarshalPublicKey joinReq.publicKey = .ok pubKey ∧
      a.providers joinReq.clusterPath = some provider ∧
      provider.signForNode joinReq.nodeID pubKey joinReq.clusterPath = .ok cert ∧
      complete.nodeCertificate = some cert := by
  unfold step2 at sent
  split at sent
  · cases sent
    cases full
  · rename_i announcement built
    simp only [buildNewMemberAnnouncement, bind_ok_iff, mapError_ok_iff, require_ok_iff,
      pure_ok_iff] at built
    obtain ⟨_, -, pubKey, unmarshalled, provider, provided, -, -, cert, signed, rfl⟩ := built
    split_ifs at sent
    · cases sent
      cases full
    · cases sent
      cases full
    · cases sent
      exact ⟨pubKey, provider, cert, unmarshalled, provided, signed, rfl⟩

variable (m) in
/-- The two sides agree on the secret of the cluster, on the new member and on its certificate. -/
structure Agreement (x : Joiner C) : Prop where
  secret : ∃ key key' challenge nonce serverNonce, m.client.hmacKeys m.clusterPath = some key ∧
    m.voucher.hmacKeys m.clusterPath = some key' ∧ m.challenge = .ok challenge ∧
    m.own.nonce = .ok nonce ∧ m.serverNonce = .ok serverNonce ∧
    m.client.crypto.hmac key (challenge ++ nonce ++ serverNonce)
      = m.voucher.crypto.hmac key' (challenge ++ nonce ++ serverNonce)
  member : ∃ publicKey pubKey provider cert, m.own.publicKey = .ok publicKey ∧
    m.outcome.announced
      = some ⟨m.client.selfID, m.clusterPath, m.own.addresses, publicKey, none⟩ ∧
    m.voucher.crypto.unmarshalPublicKey publicKey = .ok pubKey ∧
    m.voucher.providers m.clusterPath = some provider ∧
    provider.signForNode m.client.selfID pubKey m.clusterPath = .ok cert ∧
    ((m.client.providers m.clusterPath).isSome = true → m.own.saved = .ok () →
      x.certificates m.clusterPath = some cert)

theorem agreement_of_complete {x : Joiner C} (done : m.exchanged = .ok complete) :
    m.Agreement (m.joined x).1 := by
  obtain ⟨sent, full, -⟩ := exchange_dial_ok.mp done
  obtain ⟨-, joinReq, first⟩ := result_of_complete sent
  obtain ⟨-, request, -, -, key', serverNonce, challenge, resp, -, keyed', nonced, challenged,
    response, hashed, -⟩ := step1_ok.mp first
  have announced : m.outcome.announced = some joinReq.member := by
    rw [outcome, handleAuthStream, first]
  simp only [outcome, handleAuthStream, first] at sent
  obtain ⟨pubKey, provider, cert, unmarshalled, provided, signed, certified⟩ :=
    certificate_of_step2 sent full
  simp only [stream, bind_ok_iff, require_ok_iff, pure_ok_iff] at request response nonced challenged
  obtain ⟨-, -, -, -, nonce, made, publicKey, marshalled, -, -, -, -, rfl⟩ := request
  obtain ⟨key, keyed, nonce', made', serverNonce', nonced', challenge', challenged', -, -, resp',
    answered, -, -, -, -, rfl⟩ := response
  cases made.symm.trans made'
  cases nonced.symm.trans nonced'
  cases challenged.symm.trans challenged'
  -- The hash that the voucher has compared is the one that was computed by the joining node.
  simp only [respond, bind_ok_iff, pure_ok_iff] at answered
  obtain ⟨_, -, rfl⟩ := answered
  refine ⟨⟨key, key', challenge, nonce, serverNonce, keyed, keyed', challenged, made, nonced,
    hashed⟩, publicKey, pubKey, provider, cert, marshalled, announced, unmarshalled, provided,
    signed, fun there saved => ?_⟩
  obtain ⟨_, there⟩ := Option.isSome_iff_exists.mp there
  have kept : m.dial.saved = .ok () := saved
  rw [exchanged] at done
  simp [joined, authenticate, done, certified, there, kept]

theorem joined_of_error {x : Joiner C} {failure : JoinFailure}
    (failed : m.exchanged = .error failure) :
    m.joined x = ({ x with events := x.events ++ (failure.reason.map
      (.authenticationFailed m.clusterPath m.targetPeer ·)).toList }, .error failure.error) := by
  rw [exchanged] at failed
  rw [joined, authenticate, failed]

theorem joined_of_ok {x : Joiner C} (done : m.exchanged = .ok complete) :
    let session := ⟨.authenticated, m.targetPeer, m.own.now, m.own.now, none⟩
    (m.joined x).2 = .ok session ∧
      (m.joined x).1.sessions = Function.update x.sessions m.clusterPath (some session) := by
  rw [exchanged] at done
  rw [joined, authenticate, done]
  exact ⟨rfl, rfl⟩

/-- A node that signs with its key and has a provider for its certificate. -/
def joiningNode : Authenticator Bytes Unit :=
  { plainVoucher with
    selfID := "node-n"
    sign := fun _ => .ok [7]
    providers := fun _ => some ⟨true, fun _ _ _ => .ok (), fun _ => .ok true⟩ }

def plainMeeting : Meeting Bytes Unit :=
  { client := joiningNode, voucher := joiningNode, clusterPath := "r/d/c", targetPeer := "node-v"
    own := ⟨.ok [1], .ok [7], [], .ok (), 0⟩, allowed := true, serverNonce := .ok [2]
    challenge := .ok [3], after := undisturbed, opened := .ok (), requestSent := .ok ()
    requestRead := .ok (), challengeSent := true, challengeRead := .ok (), responseSent := .ok ()
    responseRead := .ok (), resultRead := .ok (), completeRead := .ok (), closed := "EOF" }

end Meeting

end Falak.Auth
