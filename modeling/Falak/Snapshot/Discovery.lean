import Falak.Lib.Bytes
import Falak.Lib.Clock
import Falak.Lib.Overwrite
import Mathlib.Data.List.AList

/-! How the announcements of snapshots are received, checked and indexed. -/

namespace Falak.Snapshot

structure SnapshotAvailable where
  capsuleID : String
  tag : String
  nodeID : String
  size : Int
  checksum : String
  timestamp : Int
  deriving DecidableEq

structure SignedMessage where
  payload : Bytes
  signature : Bytes
  senderID : String

structure GossipCodec where
  unmarshalSigned : Bytes → Option SignedMessage
  unmarshalAvailable : Bytes → Option SnapshotAvailable

abbrev GossipVerifier := String → Bytes → Bytes → Bool

structure IndexEntry where
  nodeID : String
  size : Int
  checksum : String
  timestamp : Int
  deriving DecidableEq

abbrev Index := AList fun _ : String × String => List IndexEntry

def Index.holders (index : Index) (key : String × String) : List IndexEntry :=
  (index.lookup key).getD []

def Index.findHolders (index : Index) (key : String × String) : List String :=
  (index.holders key).map (·.nodeID)

def SnapshotAvailable.entry (avail : SnapshotAvailable) : IndexEntry :=
  ⟨avail.nodeID, avail.size, avail.checksum, avail.timestamp * millisecond⟩

def SnapshotAvailable.key (avail : SnapshotAvailable) : String × String :=
  (avail.capsuleID, avail.tag)

structure Announcement where
  sender : Option String
  avail : SnapshotAvailable
  deriving DecidableEq

section Discovery

variable (codec : GossipCodec) (verifier : Option GossipVerifier) (hostID : String)

def parseAndVerify (data : Bytes) : Option Announcement :=
  match verifier with
  | some verify => do
    let signed ← codec.unmarshalSigned data
    if signed.payload = [] then none
    else if verify signed.senderID signed.payload signed.signature then
      (codec.unmarshalAvailable signed.payload).map (⟨some signed.senderID, ·⟩)
    else none
  | none => (codec.unmarshalAvailable data).map (⟨none, ·⟩)

def addToIndex (index : Index) (avail : SnapshotAvailable) : Index :=
  index.insert avail.key
    (Overwrite.write IndexEntry.nodeID avail.entry (index.holders avail.key))

structure Gossip where
  receivedFrom : String
  data : Bytes

def announced (g : Gossip) : Option Announcement :=
  if g.receivedFrom = hostID then none else parseAndVerify codec verifier g.data

def consumeGossip (index : Index) (g : Gossip) : Index :=
  match announced codec verifier hostID g with
  | none => index
  | some a => addToIndex index a.avail

def announcedFor (key : String × String) (g : Gossip) : Option Announcement :=
  (announced codec verifier hostID g).filter (·.avail.key = key)

def announcements (key : String × String) (messages : List Gossip) : List Announcement :=
  Overwrite.written (·.avail.nodeID) (messages.filterMap (announcedFor codec verifier hostID key))

variable {codec verifier hostID}

theorem holders_consumeGossip (index : Index) (g : Gossip) (key : String × String) :
    (consumeGossip codec verifier hostID index g).holders key =
      match announcedFor codec verifier hostID key g with
      | none => index.holders key
      | some a => Overwrite.write IndexEntry.nodeID a.avail.entry (index.holders key) := by
  unfold consumeGossip announcedFor
  cases announced codec verifier hostID g with
  | none => rfl
  | some a =>
    by_cases same : a.avail.key = key
    · subst same
      simp [Option.filter, addToIndex, Index.holders]
    · simp [Option.filter, same, addToIndex, Index.holders, AList.lookup_insert_ne (Ne.symm same)]

theorem holders_foldl (messages : List Gossip) (key : String × String) :
    (messages.foldl (consumeGossip codec verifier hostID) ∅).holders key =
      (announcements codec verifier hostID key messages).map (·.avail.entry) := by
  induction messages using List.reverseRecOn with
  | nil => rfl
  | append_singleton messages g ih =>
    rw [List.foldl_append, List.foldl_cons, List.foldl_nil, holders_consumeGossip, ih,
      announcements, announcements, Overwrite.written_filterMap_snoc]
    cases announcedFor codec verifier hostID key g with
    | none => rfl
    | some a =>
      have kept : ∀ a : Announcement, a.avail.entry.nodeID = a.avail.nodeID := fun _ => rfl
      exact (Overwrite.map_write kept).symm

end Discovery

end Falak.Snapshot
