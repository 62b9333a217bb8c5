import Falak.Election.Provenance
import Falak.Election.Signed

/-! What a topic knows about the author of a message that it accepts. -/

namespace Falak.Election

structure Mesh where
  honest : String → Prop
  signed : String → String → Bytes → Prop
  sent : String → String → Message → Prop

def Posted (cluster nodeID : String) (m : Message) : Prop :=
  ∃ (window start : Int) (w : Manager) (i : Nat) (f : Flight) (choice : Choice) (e : Effect),
    Reach Manager.step (fun _ _ => True) (Manager.new nodeID window start) w ∧
      w.flights[i]? = some f ∧ f.params.req.clusterPath = cluster ∧
      Round.step f.params w.now (w.localClaims f.params.req.capsuleID) f.round choice = some e ∧
      e.out = some m

structure Mesh.Trusted (mesh : Mesh) (codec : Codec) (verify : String → Verifier) : Prop where
  sound : ∀ cluster s content signature, verify cluster s content signature = true →
    mesh.signed cluster s content
  published : ∀ cluster s content, mesh.honest s → mesh.signed cluster s content →
    Short content ∧
      ∃ m now sign, mesh.sent cluster s m ∧ content = (codec.publish s m now sign).content
  /-- An honest node publishes what its rounds publish. -/
  posted : ∀ cluster s m, mesh.honest s → mesh.sent cluster s m → Posted cluster s m
  /-- What an honest node marshals is unmarshalled again. -/
  roundTrip : ∀ cluster s m, mesh.honest s → mesh.sent cluster s m →
    codec.unmarshal m.type (codec.marshal m) = some m

variable {cluster nodeID : String} {m : Message} {msg : SignedMessage}

theorem Posted.author (posted : Posted cluster nodeID m) :
    m.author = nodeID ∧ m.clusterPath = cluster := by
  obtain ⟨window, start, w, i, f, choice, e, reached, here, rfl, stepped, out⟩ := posted
  have own := (Manager.nodeID_of_reach reached).2 i f here
  have sound := (Manager.consistent_of_reach reached i f here).sound
  cases Round.step_move stepped
  case published here =>
    cases out
    simp only [Round.Sound, here] at sound
    obtain ⟨-, -, t, rfl⟩ := sound
    exact ⟨own, rfl⟩
  case report =>
    obtain ⟨-, rfl⟩ := Round.report_out _ _ _ _ _ _ out
    exact ⟨own, rfl⟩
  all_goals cases out

variable {mesh : Mesh} {codec : Codec} {verify : String → Verifier}

variable (clusterPath : String)

theorem Mesh.Trusted.sent_of_signed (trusted : mesh.Trusted codec verify)
    (signed : mesh.signed cluster msg.senderID msg.content)
    (payload : codec.unmarshal msg.type msg.payload = some m) (honest : mesh.honest msg.senderID) :
    mesh.sent cluster msg.senderID m := by
  obtain ⟨short, m', now, sign, sent, content⟩ := trusted.published _ _ _ honest signed
  rw [codec.content_publish] at content
  have short' : Short (codec.publish msg.senderID m' now none).content := content ▸ short
  obtain ⟨type, body, -, -⟩ := (Wire.signedContent_inj (Wire.fits_of_short short)
    (Wire.fits_of_short short')).mp content
  have type : msg.type = m'.type := utf8_inj type
  have body : msg.payload = codec.marshal m' := body
  rw [type, body, trusted.roundTrip _ _ _ honest sent, Option.some.injEq] at payload
  exact payload ▸ sent

theorem Mesh.Trusted.author_of_signed (trusted : mesh.Trusted codec verify)
    (signed : mesh.signed cluster msg.senderID msg.content)
    (payload : codec.unmarshal msg.type msg.payload = some m) (honest : mesh.honest msg.senderID) :
    m.author = msg.senderID ∧ m.clusterPath = cluster :=
  (trusted.posted _ _ _ honest (trusted.sent_of_signed signed payload honest)).author

def Mesh.Backs (mesh : Mesh) (c : Claim) : Prop :=
  ∃ cluster s content, mesh.signed cluster s content ∧
    (mesh.honest s → c.nodeID = s ∧ c.clusterPath = cluster)

def Event.Decoded (codec : Codec) (verify : String → Verifier) : Event → Prop
  | .handle _ envelope => ∃ cluster data msg, codec.unmarshalMessage data = some msg ∧
      envelope = codec.read (some (verify cluster)) envelope.id envelope.receivedFrom msg
  | _ => True

theorem ElectionMessage.handle_unverified {envelope : ElectionMessage} {now : Int}
    (unverified : envelope.verified = false) : envelope.handle nodeID now = none := by
  simp [handle, unverified]

theorem Mesh.Trusted.meets (trusted : mesh.Trusted codec verify) {e : Event}
    (decoded : e.Decoded codec verify)
    (verified : ∀ t envelope, e = .handle t envelope → envelope.verified = true) :
    e.Meets mesh.Backs := by
  -- Only a handled envelope brings a message in.
  cases e with
  | handle t envelope =>
    obtain ⟨cluster, data, msg, -, same⟩ := decoded
    rw [same] at verified ⊢
    intro m payload c claim
    have signed := trusted.sound cluster msg.senderID msg.content msg.signature
      (by simpa [Codec.read] using verified)
    refine ⟨cluster, msg.senderID, msg.content, signed, fun honest => ?_⟩
    subst claim
    exact trusted.author_of_signed signed payload honest
  | _ => trivial

theorem Mesh.Trusted.reach (trusted : mesh.Trusted codec verify) {start w : Manager}
    (reached : Reach Manager.step (fun _ e => e.Decoded codec verify) start w) :
    Reach Manager.step (fun _ e => e.Meets mesh.Backs) start w := by
  refine reached.invariant (Reach Manager.step (fun _ e => e.Meets mesh.Backs) start) .start ?_
  intro w e w' before decoded stepped
  by_cases verified : ∀ t envelope, e = .handle t envelope → envelope.verified = true
  · exact before.next (trusted.meets decoded verified) stepped
  · push Not at verified
    obtain ⟨t, envelope, rfl, unverified⟩ := verified
    have refused : envelope.handle w.nodeID w.now = none :=
      ElectionMessage.handle_unverified (by simpa using unverified)
    cases Manager.step_move stepped with
    | dropped => exact before
    | handle _ _ _ accepted => simp [refused] at accepted

def claimFor (nodeID : String) : Claim :=
  ⟨"capsule", "0", clusterPath, nodeID, 90, 0⟩

def claimWire (nodeID : String) : Bytes :=
  [0x0a, 7] ++ utf8 "capsule" ++ [0x12, 1] ++ utf8 "0" ++
    [0x1a, .ofNat (utf8 clusterPath).length] ++ utf8 clusterPath ++
    [0x22, .ofNat (utf8 nodeID).length] ++ utf8 nodeID ++ [0x29, 0, 0, 0, 0, 0, 0x80, 0x56, 0x40]

theorem zero_nanos_fit : -2 ^ 31 ≤ (0 : Int) ∧ (0 : Int) < 2 ^ 31 := by decide

def claimMessage (nodeID senderID : String) : SignedMessage :=
  { type := "claim"
    payload := claimWire clusterPath nodeID
    senderID := senderID
    timestamp := some ⟨0, 0, by decide, zero_nanos_fit⟩
    signature := [0xab] }

def claimData (nodeID senderID : String) : Bytes :=
  [0x0a, 5] ++ utf8 "claim" ++
    [0x12, .ofNat (claimWire clusterPath nodeID).length] ++ claimWire clusterPath nodeID ++
    [0x1a, .ofNat (utf8 senderID).length] ++ utf8 senderID ++ [0x22, 0, 0x2a, 1, 0xab]

def claimCodec (nodeID senderID : String) : Codec where
  unmarshalMessage data :=
    if data = claimData clusterPath nodeID senderID then
      some (claimMessage clusterPath nodeID senderID)
    else none
  unmarshalClaim payload :=
    if payload = claimWire clusterPath nodeID then some (claimFor clusterPath nodeID) else none
  unmarshalFailed _ := none
  marshalClaim c := if c = claimFor clusterPath nodeID then claimWire clusterPath nodeID else []
  marshalFailed _ := []

def claimVerifier (nodeID senderID : String) (cluster : String) : Verifier :=
  fun s content signature => decide (cluster = "cluster" ∧ s = senderID ∧
    content = (claimMessage clusterPath nodeID senderID).content ∧ signature = [0xab])

def claimMesh (nodeID senderID : String) (sent : String → String → Message → Prop) :
    Mesh where
  honest s := s = "node-a" ∨ s = "node-b"
  signed cluster s content := cluster = "cluster" ∧ s = senderID ∧
    content = (claimMessage clusterPath nodeID senderID).content
  sent := sent

theorem signed_of_claimVerifier {clusterPath senderID s : String}
    {sent : String → String → Message → Prop} {content signature : Bytes}
    (verified : claimVerifier clusterPath nodeID senderID cluster s content signature = true) :
    (claimMesh clusterPath nodeID senderID sent).signed cluster s content := by
  have checked := of_decide_eq_true verified
  exact ⟨checked.1, checked.2.1, checked.2.2.1⟩

theorem forged_trusted : (claimMesh "other" "node-b" "node-m" fun _ _ _ => False).Trusted
    (claimCodec "other" "node-b" "node-m") (claimVerifier "other" "node-b" "node-m") where
  sound _ _ _ _ verified := signed_of_claimVerifier verified
  published cluster s content honest signed := by
    obtain ⟨-, rfl, -⟩ := signed
    simp [claimMesh] at honest
  posted _ _ _ _ sent := sent.elim
  roundTrip _ _ _ _ sent := sent.elim

def eligibleAt (score : Score) (publishAt : Int) : List Event :=
  [.start, .joinCluster "cluster" true (.ok ()),
    .handleRequest ⟨"capsule", "0", "cluster"⟩
      ⟨true, true, some fun _ => ⟨true, score, publishAt, ""⟩, 10 * second⟩,
    .launch 0, .listen 0, .replay 0, .run 0 .go, .run 0 .go, .run 0 .go, .run 0 .go]

def forgedEnvelope : ElectionMessage :=
  (claimCodec "other" "node-b" "node-m").read
    (some (claimVerifier "other" "node-b" "node-m" "cluster")) 0 "node-m"
    (claimMessage "other" "node-b" "node-m")

def Event.forged : Event → Bool
  | .handle _ envelope => decide (envelope = forgedEnvelope)
  | _ => true

theorem posted_claim : Posted "cluster" "node-b" (.claim (claimFor "cluster" "node-b")) := by
  obtain ⟨w, reached, ends⟩ := Reach.exists_of_actions Manager.step
    (Manager.new "node-b" (300 * millisecond) 0) (eligibleAt 90 0 ++ [.run 0 .go, .run 0 .go])
    (fun w => ((w.flights[0]?).any fun f => decide (f.params.req.clusterPath = "cluster") &&
      (Round.step f.params w.now (w.localClaims f.params.req.capsuleID) f.round .published).any fun
      e => decide (e.out = some (.claim (claimFor "cluster" "node-b")))) = true) (by decide +kernel)
  simp only [Option.any_eq_true, Bool.and_eq_true, decide_eq_true_eq] at ends
  obtain ⟨f, here, path, e, stepped, out⟩ := ends
  exact ⟨_, _, w, 0, f, _, e, reached, here, path, stepped, out⟩

def genuine (cluster s : String) (m : Message) : Prop :=
  cluster = "cluster" ∧ s = "node-b" ∧ m = .claim (claimFor "cluster" "node-b")

theorem genuine_trusted : (claimMesh "cluster" "node-b" "node-b" genuine).Trusted
    (claimCodec "cluster" "node-b" "node-b") (claimVerifier "cluster" "node-b" "node-b") where
  sound _ _ _ _ verified := signed_of_claimVerifier verified
  published cluster s content honest signed := by
    obtain ⟨rfl, rfl, rfl⟩ := signed
    refine ⟨by decide +kernel, .claim (claimFor "cluster" "node-b"), ⟨0, 0, by decide, by decide⟩,
      none, ⟨rfl, rfl, rfl⟩, by decide +kernel⟩
  posted cluster s m _ sent := by
    obtain ⟨rfl, rfl, rfl⟩ := sent
    exact posted_claim
  roundTrip cluster s m _ sent := by
    obtain ⟨rfl, rfl, rfl⟩ := sent
    decide +kernel

end Falak.Election
