import Falak.Auth.Messages
import Falak.Health.Monitor
import Falak.Lib.Reach

/-!
The health topic of a cluster: how received bytes become calls of the monitor, and what is known
then about the node that signed them.
-/

namespace Falak.Health

open Phonebook
open Auth (Crypto writeString)

variable {K P : Type}

structure ScoreUpdate where
  targetNodeID : String
  score : Rat
  alive : Bool
  updatedBy : String
  timestamp : Option Timestamp
  reason : String
  deriving DecidableEq

structure PingRequest where
  targetNodeID : String
  requesterID : String
  requestID : String
  timestamp : Option Timestamp
  deriving DecidableEq

structure ThresholdCrossed where
  targetNodeID : String
  score : Rat
  reportedBy : String
  timestamp : Option Timestamp
  deriving DecidableEq

inductive Dispatch
  | scoreUpdate (update : ScoreUpdate)
  | pingRequest (req : PingRequest)
  | thresholdCrossed (tc : ThresholdCrossed)
  deriving DecidableEq

def Dispatch.author : Dispatch → String
  | .scoreUpdate update => update.updatedBy
  | .pingRequest req => req.requesterID
  | .thresholdCrossed tc => tc.reportedBy

def Dispatch.payload : Dispatch → Payload
  | .scoreUpdate u => .scoreUpdate u.targetNodeID u.score u.alive u.updatedBy u.reason
  | .pingRequest r => .pingRequest r.targetNodeID r.requesterID r.requestID
  | .thresholdCrossed t => .thresholdCrossed t.targetNodeID t.score t.reportedBy

structure HealthEnvelope where
  type : String
  payload : Bytes
  senderID : String
  timestamp : Option Timestamp
  signature : Option Bytes
  deriving DecidableEq

structure HealthCodec where
  unmarshalMessage : Bytes → Option HealthEnvelope
  unmarshalScoreUpdate : Bytes → Option ScoreUpdate
  unmarshalPingRequest : Bytes → Option PingRequest
  unmarshalThresholdCrossed : Bytes → Option ThresholdCrossed

def HealthCodec.unmarshal (codec : HealthCodec) (type : String) (payload : Bytes) :
    Option Dispatch :=
  if type = "score_update" then (codec.unmarshalScoreUpdate payload).map .scoreUpdate
  else if type = "ping_request" then (codec.unmarshalPingRequest payload).map .pingRequest
  else if type = "threshold_crossed" then
    (codec.unmarshalThresholdCrossed payload).map .thresholdCrossed
  else none

def HealthEnvelope.content (crypto : Crypto K) (msg : HealthEnvelope) : Bytes :=
  let buf := writeString [] msg.type
  let buf := Wire.appendField buf msg.payload
  let buf := writeString buf msg.senderID
  match msg.timestamp with
  | some ts => Wire.appendField buf (crypto.marshalTime ts.asTime)
  | none => Wire.appendField buf []

namespace HealthPubSub

section Handle

variable (crypto : Crypto K) (codec : HealthCodec) (maxMessageAge : Int) (clusterPath : String)

def verifySignature (book : Book) (fault : Option String) (msg : HealthEnvelope) : Bool :=
  match msg.signature with
  | none => false
  | some signature =>
    match book.read fault msg.senderID clusterPath with
    | none => false
    | some row =>
      match crypto.unmarshalPublicKey row.publicKey with
      | .error _ => false
      | .ok pubKey => crypto.accepts pubKey (msg.content crypto) signature

def handleMessage (book : Book) (fault : Option String) (now : Int) (data : Bytes) :
    Option (HealthEnvelope × Dispatch) := do
  let envelope ← codec.unmarshalMessage data
  let timestamp ← envelope.timestamp
  if maxMessageAge < now - timestamp.asTime then none
  else if verifySignature crypto clusterPath book fault envelope then
    (codec.unmarshal envelope.type envelope.payload).map (envelope, ·)
  else none

variable {crypto codec maxMessageAge clusterPath} {book : Book} {fault : Option String}
  {msg : HealthEnvelope}

theorem accepts_of_verifySignature
    (verified : verifySignature crypto clusterPath book fault msg = true) :
    ∃ row key signature, book.get msg.senderID clusterPath = some row ∧
      crypto.unmarshalPublicKey row.publicKey = .ok key ∧
      crypto.accepts key (msg.content crypto) signature = true := by
  -- Each of the three steps has succeeded.
  unfold verifySignature at verified
  cases made : msg.signature with
  | none => simp [made] at verified
  | some signature =>
    cases got : book.read fault msg.senderID clusterPath with
    | none => simp [made, got] at verified
    | some row =>
      cases unmarshalled : crypto.unmarshalPublicKey row.publicKey with
      | error err => simp [made, got, unmarshalled] at verified
      | ok key =>
        simp only [made, got, unmarshalled] at verified
        refine ⟨row, key, signature, ?_, unmarshalled, verified⟩
        unfold Book.read at got
        split at got
        · cases got
        · exact got

theorem handleMessage_some {now : Int} {data : Bytes} {d : Dispatch}
    (handled : handleMessage crypto codec maxMessageAge clusterPath book fault now data
      = some (msg, d)) :
    codec.unmarshalMessage data = some msg ∧ codec.unmarshal msg.type msg.payload = some d ∧
      verifySignature crypto clusterPath book fault msg = true := by
  simp only [handleMessage, Option.bind_eq_bind, Option.bind_eq_some_iff] at handled
  obtain ⟨envelope, decoded, timestamp, -, passed⟩ := handled
  split at passed
  · cases passed
  · split at passed
    · rename_i verified
      obtain ⟨d', payload, same⟩ := Option.map_eq_some_iff.mp passed
      cases same
      exact ⟨decoded, payload, verified⟩
    · cases passed

end Handle

end HealthPubSub

section Deliver

variable [DecidableEq P] (env : MonitorEnv P) (cfg : MonitorConfig) (self : String) (now : Int)

def Monitor.dispatch (m : Monitor) (receipt : Receipt) : Dispatch → Monitor
  | .scoreUpdate update =>
    m.onScoreUpdate env cfg now receipt.scores update.targetNodeID update.score update.alive
      update.reason
  | .pingRequest req => m.onPingRequest env cfg self receipt req.targetNodeID req.requesterID
  | .thresholdCrossed tc => m.onThresholdCrossed env tc.targetNodeID

end Deliver

structure Delivery where
  envelope : HealthEnvelope
  message : Dispatch
  book : Book

structure Inbox where
  monitor : Monitor
  dispatched : List Delivery := []

namespace Inbox

inductive Action
  | receive (now : Int) (receipt : Receipt) (data : Bytes)
  | change (m : Monitor)

section Steps

variable [DecidableEq P] (env : MonitorEnv P) (cfg : MonitorConfig) (self : String)
  (crypto : Crypto K) (codec : HealthCodec)

/-- The monitor after received bytes, and what was dispatched. -/
def receive (s : Inbox) (now : Int) (receipt : Receipt) (data : Bytes) : Inbox :=
  match HealthPubSub.handleMessage crypto codec cfg.maxMessageAge env.clusterPath
      s.monitor.tracked.book receipt.sender now data with
  | none => s
  | some (msg, d) =>
    { monitor := s.monitor.dispatch env cfg self now receipt d
      dispatched := s.dispatched ++ [⟨msg, d, s.monitor.tracked.book⟩] }

def step (s : Inbox) : Action → Option Inbox
  | .receive now receipt data => some (s.receive env cfg self crypto codec now receipt data)
  | .change m => some { s with monitor := m }

end Steps

section Signatures

variable (crypto : Crypto K) (codec : HealthCodec) (clusterPath : String)
  (signed : K → Bytes → String → Prop)

def Unforgeable : Prop :=
  ∀ key content signature, crypto.accepts key content signature = true →
    ∃ cluster, signed key content cluster

def Bound (e : Delivery) : Prop :=
  ∃ row key, e.book.get e.message.author clusterPath = some row ∧
    crypto.unmarshalPublicKey row.publicKey = .ok key ∧
    signed key (e.envelope.content crypto) clusterPath

def Careful (s : Inbox) : Action → Prop
  | .receive _ _ data =>
    ∀ msg d, codec.unmarshalMessage data = some msg →
      codec.unmarshal msg.type msg.payload = some d →
      d.author = msg.senderID ∧
      (∀ row key cluster, s.monitor.tracked.book.get msg.senderID clusterPath = some row →
        crypto.unmarshalPublicKey row.publicKey = .ok key →
        signed key (msg.content crypto) cluster → cluster = clusterPath) ∧
      ∀ e ∈ s.dispatched, e.envelope.content crypto ≠ msg.content crypto
  | .change _ => True

structure Authentic (s : Inbox) : Prop where
  bound : ∀ e ∈ s.dispatched, Bound crypto clusterPath signed e
  once : s.dispatched.Pairwise fun e e' => e.envelope.content crypto ≠ e'.envelope.content crypto

end Signatures

variable [DecidableEq P] {env : MonitorEnv P} {cfg : MonitorConfig} {self : String}
  {crypto : Crypto K} {codec : HealthCodec} {signed : K → Bytes → String → Prop}

theorem Authentic.step {s s' : Inbox} {a : Action}
    (authentic : Authentic crypto env.clusterPath signed s)
    (unforgeable : Unforgeable crypto signed)
    (careful : Careful crypto codec env.clusterPath signed s a)
    (taken : Inbox.step env cfg self crypto codec s a = some s') :
    Authentic crypto env.clusterPath signed s' := by
  cases a with
  | change m =>
    cases taken
    exact ⟨authentic.bound, authentic.once⟩
  | receive now receipt data =>
    cases taken
    unfold receive
    split
    · exact authentic
    · rename_i msg d handled
      obtain ⟨decoded, payload, verified⟩ := HealthPubSub.handleMessage_some handled
      obtain ⟨row, key, signature, there, unmarshalled, accepted⟩ :=
        HealthPubSub.accepts_of_verifySignature verified
      obtain ⟨own, here, new⟩ := careful msg d decoded payload
      obtain ⟨cluster, made⟩ := unforgeable key _ signature accepted
      obtain rfl := here row key cluster there unmarshalled made
      constructor
      · intro e member
        rcases List.mem_append.mp member with old | last
        · exact authentic.bound e old
        · rw [List.mem_singleton.mp last]
          exact ⟨row, key, own ▸ there, unmarshalled, made⟩
      · refine List.pairwise_append.mpr ⟨authentic.once, List.pairwise_singleton _ _, ?_⟩
        intro e old e' last
        rw [List.mem_singleton.mp last]
        exact new e old

/--
In a run of careful steps, everything that is dispatched was signed for this cluster by the member
that it names, and no signed envelope is dispatched twice.
-/
theorem dispatched_authentic (unforgeable : Unforgeable crypto signed) {m : Monitor} {s : Inbox}
    (reached : Reach (step env cfg self crypto codec)
      (Careful crypto codec env.clusterPath signed) ⟨m, []⟩ s) :
    (∀ e ∈ s.dispatched, Bound crypto env.clusterPath signed e) ∧
    (s.dispatched.Pairwise fun e e' =>
      e.envelope.content crypto ≠ e'.envelope.content crypto) ∧
    ∀ now receipt data s', step env cfg self crypto codec s (.receive now receipt data) = some s' →
      s' = s ∨ ∃ e, s'.dispatched = s.dispatched ++ [e] := by
  have authentic : Authentic crypto env.clusterPath signed s := by
    refine reached.invariant (Authentic crypto env.clusterPath signed) ?_ ?_
    · exact ⟨by simp, List.Pairwise.nil⟩
    · intro s a s' before careful taken
      exact before.step unforgeable careful taken
  refine ⟨authentic.bound, authentic.once, fun now receipt data s' taken => ?_⟩
  -- Without a dispatch the inbox stays as it is.
  cases taken
  unfold receive
  split
  · exact .inl rfl
  · exact .inr ⟨_, rfl⟩

def reportBy (author : String) : ScoreUpdate :=
  ⟨"node-x", 10, false, author, some (.new 0), "direct_ping_fail"⟩

def recorded : HealthEnvelope := ⟨"score_update", [7], "node-b", some (.new 0), some [0xab]⟩

def recordedCodec (author : String) : HealthCodec where
  unmarshalMessage data := if data = [1] then some recorded else none
  unmarshalScoreUpdate payload := if payload = [7] then some (reportBy author) else none
  unmarshalPingRequest _ := none
  unmarshalThresholdCrossed _ := none

def noCrypto : Crypto Bytes := ⟨.ok, fun _ _ _ => .ok false, fun _ _ => [], fun _ => []⟩

def recordedCrypto : Crypto Bytes :=
  { noCrypto with
    verify := fun key content _ => .ok (decide (key = [2] ∧ content = recorded.content noCrypto)) }

def signedFor (home : String) (key content : Bytes) (cluster : String) : Prop :=
  key = [2] ∧ content = recorded.content noCrypto ∧ cluster = home

theorem recordedCrypto_unforgeable (home : String) :
    Unforgeable recordedCrypto (signedFor home) := by
  intro key content signature accepted
  obtain ⟨own, same⟩ := of_decide_eq_true accepted
  exact ⟨home, own, same, rfl⟩

def peer (publicKey : Bytes) : Row :=
  ⟨publicKey, [], "r", "d", none, 0, 0, 0, {}, .active⟩

def listening : Monitor :=
  { tracked :=
      { book :=
          (AList.singleton ("node-b", "r/d/c") (peer [2])).insert ("node-x", "r/d/c") (peer [3])
        quarantineTimers := ∅ } }

def environment : MonitorEnv String := ⟨"r/d/c", some, fun _ _ => false⟩

def replayed : List Action :=
  [.receive 0 ⟨none, none, {}, []⟩ [1], .receive second ⟨none, none, {}, []⟩ [1]]

/--
A message that was signed for another cluster, in the name of a node that is no member, is
dispatched twice and quarantines a peer.
-/
theorem dispatched_unbound :
    ∃ s : Inbox,
      Reach (step environment {} "node-a" recordedCrypto (recordedCodec "node-c"))
        (fun _ _ => True) ⟨listening, []⟩ s ∧
      Unforgeable recordedCrypto (signedFor "r/d/other") ∧
      (∀ key content, ¬ signedFor "r/d/other" key content "r/d/c") ∧
      s.dispatched.map (fun e => (e.envelope, e.message.author))
        = [(recorded, "node-c"), (recorded, "node-c")] ∧
      s.monitor.tracked.book.get "node-c" "r/d/c" = none ∧
      (s.monitor.tracked.book.get "node-x" "r/d/c").map Row.status = some .quarantined := by
  obtain ⟨s, reached, twice, unknown, quarantined⟩ := Reach.exists_of_actions
    (step environment {} "node-a" recordedCrypto (recordedCodec "node-c")) ⟨listening, []⟩ replayed
    (fun s => s.dispatched.map (fun e => (e.envelope, e.message.author)) = [(recorded, "node-c"),
      (recorded, "node-c")] ∧ s.monitor.tracked.book.get "node-c" "r/d/c" = none ∧
      (s.monitor.tracked.book.get "node-x" "r/d/c").map Row.status = some .quarantined)
    (by decide +kernel)
  refine ⟨s, reached, recordedCrypto_unforgeable _, ?_, twice, unknown, quarantined⟩
  rintro key content ⟨-, -, elsewhere⟩
  exact absurd elsewhere (by decide)

/-- A message of a member that signs for this cluster only is dispatched and bound. -/
theorem dispatched_authentic_once :
    ∃ s : Inbox,
      Reach (step environment {} "node-a" recordedCrypto (recordedCodec "node-b"))
        (Careful recordedCrypto (recordedCodec "node-b") "r/d/c" (signedFor "r/d/c"))
        ⟨listening, []⟩ s ∧
      s.dispatched.map Delivery.envelope = [recorded] ∧
      ∀ e ∈ s.dispatched, Bound recordedCrypto "r/d/c" (signedFor "r/d/c") e := by
  obtain ⟨s, taken, ends⟩ : ∃ s, step environment {} "node-a" recordedCrypto
      (recordedCodec "node-b") ⟨listening, []⟩ (.receive 0 ⟨none, none, {}, []⟩ [1]) = some s ∧
        s.dispatched.map Delivery.envelope = [recorded] := ⟨_, rfl, by decide +kernel⟩
  have careful : Careful recordedCrypto (recordedCodec "node-b") "r/d/c" (signedFor "r/d/c")
      ⟨listening, []⟩ (.receive 0 ⟨none, none, {}, []⟩ [1]) := by
    intro msg d decoded payload
    obtain rfl : recorded = msg := Option.some.inj decoded
    obtain rfl : Dispatch.scoreUpdate (reportBy "node-b") = d := Option.some.inj payload
    refine ⟨rfl, ?_, by simp⟩
    rintro row key cluster - - ⟨-, -, here⟩
    exact here
  have reached := Reach.next .start careful taken
  exact ⟨s, reached, ends,
    (dispatched_authentic (recordedCrypto_unforgeable "r/d/c") reached).1⟩

end Inbox

end Falak.Health
