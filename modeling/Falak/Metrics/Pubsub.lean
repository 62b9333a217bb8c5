import Falak.Health.Pubsub
import Falak.Lib.Overwrite
import Falak.Metrics.Snapshot

/-! How the metrics of other nodes are received, checked and stored. -/

namespace Falak.Metrics

open Auth (Crypto)
open Health (HealthEnvelope)
open Phonebook (Book)

structure MetricsCodec where
  unmarshalMessage : Bytes → Option HealthEnvelope
  unmarshalResourceUpdate : Bytes → Option ResourceUpdate

def maxMessageAge : Int := 30 * second

structure Delivery where
  receivedFrom : String
  clusterPath : String
  data : Bytes
  now : Int
  book : Book
  bookFault : Option String := none
  storeFault : Option String := none

structure Accepted where
  sender : String
  sentAt : Option Timestamp
  snapshot : Snapshot
  deriving DecidableEq

section Subscriber

variable {K : Type} (crypto : Crypto K) (codec : MetricsCodec) (nodeID : String)

def verifySignature (clusterPath : String) (book : Book) (fault : Option String)
    (msg : HealthEnvelope) : Bool :=
  if msg.signature.getD [] = [] then false
  else Health.HealthPubSub.verifySignature crypto clusterPath book fault msg

/-- A message without a time does not grow old. -/
def stale (msg : HealthEnvelope) (now : Int) : Bool :=
  match msg.timestamp with
  | some ts => now - ts.asTime > maxMessageAge
  | none => false

def handle (d : Delivery) : Option Accepted := do
  let envelope ← codec.unmarshalMessage d.data
  if envelope.type ≠ "resource_update" then none
  else if envelope.senderID = nodeID then none
  else if stale envelope d.now then none
  else if verifySignature crypto d.clusterPath d.book d.bookFault envelope then
    let update ← codec.unmarshalResourceUpdate envelope.payload
    let snap := protoToSnapshot update
    let snap := if snap.nodeID = "" then { snap with nodeID := envelope.senderID } else snap
    some ⟨envelope.senderID, envelope.timestamp, snap⟩
  else none

/-- Store the metrics of a node in the place of those it had. -/
def upsertPeer (fault : Option String) (snap : Snapshot) (peers : List Snapshot) :
    Except String (List Snapshot) :=
  if snap.nodeID = "" then .error "metrics store: peer snapshot missing NodeID"
  else
    match fault with
    | some err => .error err
    | none => .ok (Overwrite.write Snapshot.nodeID snap.row peers)

/-- One message of the loop. An error of the store is ignored. -/
def receive (peers : List Snapshot) (d : Delivery) : List Snapshot :=
  if d.receivedFrom = nodeID then peers
  else
    match handle crypto codec nodeID d with
    | none => peers
    | some a => (upsertPeer d.storeFault a.snapshot peers).toOption.getD peers

def accepted (d : Delivery) : Option Accepted :=
  if d.receivedFrom = nodeID then none
  else (handle crypto codec nodeID d).filter fun a =>
    a.snapshot.nodeID ≠ "" ∧ d.storeFault = none

def origins (deliveries : List Delivery) : List Accepted :=
  Overwrite.written (·.snapshot.nodeID) (deliveries.filterMap (accepted crypto codec nodeID))

variable {crypto codec nodeID}

theorem receive_eq (peers : List Snapshot) (d : Delivery) :
    receive crypto codec nodeID peers d =
      match accepted crypto codec nodeID d with
      | none => peers
      | some a => Overwrite.write Snapshot.nodeID a.snapshot.row peers := by
  unfold receive accepted
  split_ifs with own
  · rfl
  · cases handled : handle crypto codec nodeID d with
    | none => rfl
    | some a =>
      unfold upsertPeer
      by_cases named : a.snapshot.nodeID = ""
      · simp [Option.filter, named, Except.toOption]
      · cases fault : d.storeFault <;> simp [Option.filter, named, Except.toOption]

theorem foldl_receive (deliveries : List Delivery) :
    deliveries.foldl (receive crypto codec nodeID) [] =
      (origins crypto codec nodeID deliveries).map (·.snapshot.row) := by
  induction deliveries using List.reverseRecOn with
  | nil => rfl
  | append_singleton deliveries d ih =>
    rw [List.foldl_append, List.foldl_cons, List.foldl_nil, ih, receive_eq, origins, origins,
      Overwrite.written_filterMap_snoc]
    cases accepted crypto codec nodeID d with
    | none => rfl
    | some a =>
      have kept : ∀ a : Accepted, a.snapshot.row.nodeID = a.snapshot.nodeID := fun _ => rfl
      exact (Overwrite.map_write kept).symm

end Subscriber

end Falak.Metrics
