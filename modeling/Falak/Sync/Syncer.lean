import Falak.Phonebook.Statements

/-!
The syncer: how a node answers a request for its members, and how it asks another node for them.

The revocations that travel with the members are left out here.
-/

namespace Falak.Phonebook

def NodeStatus.text : NodeStatus → String
  | .unset => ""
  | .active => "active"
  | .suspected => "suspected"
  | .quarantined => "quarantined"
  | .failed => "failed"

abbrev KeyedRow := Sigma fun _ : String × String => Row

end Falak.Phonebook

namespace Falak.Sync

open Phonebook

def fromMilli (ms : Int) : Int := ms * millisecond

structure SyncRequest where
  clusterPath : String
  /-- Missing in a request for all members. -/
  lastSyncTime : Option Timestamp := none
  maxMembers : Int
  cursor : String := ""

structure SyncResponse where
  members : List MemberInfo := []
  syncTime : Option Timestamp := none
  isComplete : Bool := false
  nextCursor : String := ""
  error : String := ""

section Server

structure ServerFaults where
  rateLimited : Bool := false
  query : Option String := none
  cluster : Option String := none

def UpdatedSince (since : Int) (entry : KeyedRow) : Prop :=
  since < fromMilli entry.2.updatedAt ∨ since < fromMilli entry.2.lastSeen

instance (since : Int) (entry : KeyedRow) : Decidable (UpdatedSince since entry) :=
  inferInstanceAs (Decidable (_ ∨ _))

def filterUpdatedSince (entries : List KeyedRow) (since : Int) : List KeyedRow :=
  entries.filter (UpdatedSince since ·)

def memberInfo (entry : KeyedRow) : MemberInfo :=
  { nodeID := entry.1.1
    addresses := entry.2.addresses
    capabilities := entry.2.capabilities
    publicKey := entry.2.publicKey
    joinedAt := some (.new (fromMilli entry.2.firstSeen))
    lastSeen := some (.new (fromMilli entry.2.lastSeen))
    status := entry.2.status.text }

def SyncRequest.entries (req : SyncRequest) (book : Book) : List KeyedRow :=
  let entries := book.getByCluster req.clusterPath
  match req.lastSyncTime with
  | none => entries
  | some ts => filterUpdatedSince entries ts.asTime

def SyncRequest.limit (req : SyncRequest) (maxMembersPerResponse : Int) : Int :=
  if req.maxMembers ≤ 0 ∨ maxMembersPerResponse < req.maxMembers then maxMembersPerResponse
  else req.maxMembers

def firstPage (entries : List KeyedRow) (maxMembers : Int) : Option (List KeyedRow) :=
  if maxMembers < entries.length then
    -- A slice with a negative bound is a panic.
    if maxMembers < 0 then none else some (entries.take maxMembers.toNat)
  else some entries

/-- Answer a request. There is no answer when the handler panics. -/
def handleSyncStream (book : Book) (maxMembersPerResponse : Int) (now : Int) (faults : ServerFaults)
    (remotePeer : String) (req : SyncRequest) : Option SyncResponse :=
  if faults.rateLimited then some { error := "rate limited" }
  else
    match book.exists faults.query remotePeer req.clusterPath, faults.cluster with
    | .error _, _ => some { error := "internal error" }
    | .ok false, _ => some { error := "peer not authenticated for cluster" }
    | .ok true, some err => some { error := "failed to get members: " ++ err }
    | .ok true, none =>
      let entries := req.entries book
      let maxMembers := req.limit maxMembersPerResponse
      (firstPage entries maxMembers).map fun sent =>
        { members := sent.map memberInfo
          syncTime := some (.new now)
          isComplete := entries.length ≤ maxMembers }

end Server

section Client

structure Syncer where
  phonebook : Book
  lastSync : Option Int

structure ClientFaults where
  attempt : Option String := none
  failure : ConnectionFaults := {}
  member : String → Faults := fun _ => {}

structure Exchange where
  stream : Option String := none
  write : Option String := none
  read : SyncRequest → Except String SyncResponse

abbrev Outcome := Syncer × Option (Except String Unit)

variable (maxMembersPerResponse : Int) (clusterPath : String) (now : Int) (faults : ClientFaults)

def storeMember (book : Book) (m : MemberInfo) : Book :=
  match processMember book now (faults.member m.nodeID) clusterPath m with
  | .ok (_, book) => book
  | .error _ => book

def storeMembers (book : Book) (members : List MemberInfo) : Book :=
  members.foldl (storeMember clusterPath now faults) book

def syncContinue (s : Syncer) (cursor : String) : List Exchange → Outcome
  | [] => (s, none)
  | x :: rest =>
    match x.stream, x.write with
    | some err, _ => (s, some (.error ("failed to open continuation stream: " ++ err)))
    | none, some err => (s, some (.error ("failed to send continuation request: " ++ err)))
    | none, none =>
      match x.read { clusterPath, maxMembers := int32 maxMembersPerResponse, cursor } with
      | .error err => (s, some (.error ("failed to read continuation response: " ++ err)))
      | .ok resp =>
        -- An error in the answer is not looked at.
        let stored := storeMembers clusterPath now faults s.phonebook resp.members
        let s := { s with phonebook := stored }
        if resp.isComplete = false ∧ resp.nextCursor ≠ "" then syncContinue s resp.nextCursor rest
        else (s, some (.ok ()))

def syncFromPeer (s : Syncer) (targetPeer : String) (lastSyncTime : Option Timestamp) :
    List Exchange → Outcome
  | [] => (s, none)
  | x :: rest =>
    match x.stream with
    | some err =>
      ({ s with
          phonebook :=
            recordConnectionFailure s.phonebook now faults.failure targetPeer clusterPath },
        some (.error ("failed to open sync stream: " ++ err)))
    | none =>
      let attempted := (s.phonebook.recordConnectionAttempt now faults.attempt targetPeer
        clusterPath true).toOption.getD s.phonebook
      let s := { s with phonebook := attempted }
      match x.write with
      | some err => (s, some (.error ("failed to send sync request: " ++ err)))
      | none =>
        match x.read { clusterPath, lastSyncTime, maxMembers := int32 maxMembersPerResponse } with
        | .error err => (s, some (.error ("failed to read sync response: " ++ err)))
        | .ok resp =>
          if resp.error ≠ "" then (s, some (.error ("sync error from peer: " ++ resp.error)))
          else
            let s :=
              { phonebook := storeMembers clusterPath now faults attempted resp.members
                lastSync := (resp.syncTime.map Timestamp.asTime).or s.lastSync }
            if resp.isComplete = false ∧ resp.nextCursor ≠ "" then
              syncContinue maxMembersPerResponse clusterPath now faults s resp.nextCursor rest
            else (s, some (.ok ()))

def syncFrom (s : Syncer) (targetPeer : String) (exchanges : List Exchange) : Outcome :=
  syncFromPeer maxMembersPerResponse clusterPath now faults s targetPeer none exchanges

def syncDeltaFrom (s : Syncer) (targetPeer : String) (exchanges : List Exchange) : Outcome :=
  syncFromPeer maxMembersPerResponse clusterPath now faults s targetPeer
    (s.lastSync.map Timestamp.new) exchanges

end Client

end Falak.Sync
