import Falak.Metrics.Pubsub
import Falak.Snapshot.Discovery

/-! What a node believes of its peers: whose word it takes, and in which order. -/

namespace Falak.Node

open Auth (Crypto)
open Metrics (Accepted Delivery MetricsCodec)
open Overwrite (InOrder Newest OneStamp)
open Snapshot (Announcement Gossip GossipCodec GossipVerifier)

variable {K τ : Type} [PartialOrder τ]

section Metrics

variable (crypto : Crypto K) (codec : MetricsCodec) (nodeID : String) (stamp : Accepted → τ)

structure PeersFaithful (deliveries : List Delivery) : Prop where
  unique : ((deliveries.foldl (Metrics.receive crypto codec nodeID) []).map
    Metrics.Snapshot.nodeID).Nodup
  rows : deliveries.foldl (Metrics.receive crypto codec nodeID) [] =
    (Metrics.origins crypto codec nodeID deliveries).map (·.snapshot.row)
  faithful : ∀ a ∈ Metrics.origins crypto codec nodeID deliveries,
    a.sender = a.snapshot.nodeID ∧
      Newest (·.snapshot.nodeID) stamp
        (deliveries.filterMap (Metrics.accepted crypto codec nodeID)) a

variable {crypto codec nodeID stamp}

theorem peersFaithful_iff {deliveries : List Delivery} :
    PeersFaithful crypto codec nodeID stamp deliveries ↔
      ∀ a ∈ Metrics.origins crypto codec nodeID deliveries, a.sender = a.snapshot.nodeID ∧
        Newest (·.snapshot.nodeID) stamp
          (deliveries.filterMap (Metrics.accepted crypto codec nodeID)) a := by
  refine ⟨PeersFaithful.faithful, fun faithful => ⟨?_, Metrics.foldl_receive _, faithful⟩⟩
  rw [Metrics.foldl_receive, List.map_map]
  exact Overwrite.nodup_written

end Metrics

section Snapshots

variable (codec : GossipCodec) (verify : GossipVerifier) (hostID : String)
  (stamp : Announcement → τ)

structure IndexFaithful (key : String × String) (messages : List Gossip) : Prop where
  unique : ((messages.foldl (Snapshot.consumeGossip codec (some verify) hostID) ∅).findHolders
    key).Nodup
  entries : (messages.foldl (Snapshot.consumeGossip codec (some verify) hostID) ∅).holders key =
    (Snapshot.announcements codec (some verify) hostID key messages).map (·.avail.entry)
  faithful : ∀ a ∈ Snapshot.announcements codec (some verify) hostID key messages,
    a.sender = some a.avail.nodeID ∧
      Newest (·.avail.nodeID) stamp
        (messages.filterMap (Snapshot.announcedFor codec (some verify) hostID key)) a

variable {codec verify hostID stamp}

theorem indexFaithful_iff {key : String × String} {messages : List Gossip} :
    IndexFaithful codec verify hostID stamp key messages ↔
      ∀ a ∈ Snapshot.announcements codec (some verify) hostID key messages,
        a.sender = some a.avail.nodeID ∧ Newest (·.avail.nodeID) stamp
          (messages.filterMap (Snapshot.announcedFor codec (some verify) hostID key)) a := by
  refine ⟨IndexFaithful.faithful, fun faithful => ⟨?_, Snapshot.holders_foldl _ _, faithful⟩⟩
  rw [Snapshot.Index.findHolders, Snapshot.holders_foldl, List.map_map]
  exact Overwrite.nodup_written

end Snapshots

/--
In every order of delivery the state of the peers is faithful exactly if every accepted message
names its sender and no two messages of one node differ in their time.
-/
theorem peer_state_faithful_iff (crypto : Crypto K) (codec : MetricsCodec) (nodeID : String)
    (stamp : Accepted → τ) (deliveries : List Delivery) (gossip : GossipCodec)
    (verify : GossipVerifier) (stamp' : Announcement → τ) (key : String × String)
    (messages : List Gossip) :
    let accepted := deliveries.filterMap (Metrics.accepted crypto codec nodeID)
    let announced :=
      messages.filterMap (Snapshot.announcedFor gossip (some verify) nodeID key)
    ((∀ order : List Delivery, order.Perm deliveries →
        PeersFaithful crypto codec nodeID stamp order) ↔
      (∀ a ∈ accepted, a.sender = a.snapshot.nodeID) ∧
        OneStamp (·.snapshot.nodeID) stamp accepted) ∧
    ((∀ a ∈ accepted, a.sender = a.snapshot.nodeID) →
      InOrder (·.snapshot.nodeID) stamp accepted →
        PeersFaithful crypto codec nodeID stamp deliveries) ∧
    ((∀ order : List Gossip, order.Perm messages →
        IndexFaithful gossip verify nodeID stamp' key order) ↔
      (∀ a ∈ announced, a.sender = some a.avail.nodeID) ∧
        OneStamp (·.avail.nodeID) stamp' announced) ∧
    ((∀ a ∈ announced, a.sender = some a.avail.nodeID) →
      InOrder (·.avail.nodeID) stamp' announced →
        IndexFaithful gossip verify nodeID stamp' key messages) := by
  simp only [peersFaithful_iff, indexFaithful_iff]
  refine ⟨Overwrite.all_orders_iff stamp _ _ deliveries, fun named ordered a member => ?_,
    Overwrite.all_orders_iff stamp' _ _ messages, fun named ordered a member => ?_⟩
  · exact ⟨named a (Overwrite.mem_of_mem_written member),
      Overwrite.newest_of_inOrder stamp ordered a member⟩
  · exact ⟨named a (Overwrite.mem_of_mem_written member),
      Overwrite.newest_of_inOrder stamp' ordered a member⟩

section Forged

def keyedCrypto : Crypto Bytes where
  unmarshalPublicKey := .ok
  verify key data signature := .ok (signature = key ++ data)
  hmac _ _ := []
  marshalTime _ := []

def updateAt (nodeID : String) (sec : Int) : Metrics.ResourceUpdate :=
  ⟨nodeID, some (Timestamp.new (sec * second)), {}, {}, {}, {}, {}⟩

def signedBy (sender : String) (key payload : Bytes) : Health.HealthEnvelope :=
  let msg : Health.HealthEnvelope := ⟨"resource_update", payload, sender, none, none⟩
  { msg with signature := some (key ++ msg.content keyedCrypto) }

def threeMessages : MetricsCodec where
  unmarshalMessage data :=
    if data = [1] then some (signedBy "node-m" [2] [1])
    else if data = [2] then some (signedBy "node-n" [3] [2])
    else some (signedBy "node-n" [3] [3])
  unmarshalResourceUpdate payload :=
    if payload = [1] then some (updateAt "node-n" 0)
    else if payload = [2] then some (updateAt "node-n" 60)
    else some (updateAt "node-n" 120)

def arriving (data : Bytes) : Delivery where
  receivedFrom := "node-b"
  clusterPath := "r/d/c"
  data := data
  now := 0
  book := (AList.singleton ("node-m", "r/d/c") (Health.Inbox.peer [2])).insert
    ("node-n", "r/d/c") (Health.Inbox.peer [3])

def foreignAnnouncement : GossipCodec where
  unmarshalSigned _ := some ⟨[1], utf8 "node-m" ++ [1], "node-m"⟩
  unmarshalAvailable _ := some ⟨"web", "v1", "node-n", 1, "", 0⟩

/--
The metrics of node-n are those that node-m has signed, and of two messages of node-n the older
one stays when it arrives last. The index takes the word of node-m as well.
-/
theorem peer_state_forged :
    ((Metrics.origins keyedCrypto threeMessages "node-a" [arriving [1]]).map
        fun a => (a.sender, a.snapshot.nodeID)) = [("node-m", "node-n")] ∧
      (([arriving [3], arriving [2]].foldl (Metrics.receive keyedCrypto threeMessages "node-a")
        []).map (·.capturedAt)) = [Capsule.unixMilli (60 * second)] ∧
      ((Snapshot.announcements foreignAnnouncement
          (some fun sender content signature => signature = utf8 sender ++ content) "node-a"
          ("web", "v1") [⟨"node-b", []⟩]).map fun a => (a.sender, a.avail.nodeID))
        = [(some "node-m", "node-n")] := by
  refine ⟨by decide +kernel, by decide +kernel, by decide +kernel⟩

end Forged

end Falak.Node
