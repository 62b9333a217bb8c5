import Falak.Health.Bookkeeping
import Falak.Sync.Syncer

/-! Whether a node knows every member of a peer after it has synced with it. -/

namespace Falak.Sync

open Phonebook

section Answers

variable {book : Book} {maxMembers now : Int} {faults : ServerFaults} {remotePeer : String}
  {req : SyncRequest} {resp : SyncResponse}

theorem handleSyncStream_cases
    (answered : handleSyncStream book maxMembers now faults remotePeer req = some resp) :
    resp.nextCursor = "" ∧
      (resp.error ≠ "" ∨
        ∃ sent, firstPage (req.entries book) (req.limit maxMembers) = some sent ∧
          resp.members = sent.map memberInfo ∧ resp.syncTime = some (.new now)) := by
  unfold handleSyncStream at answered
  split at answered
  · cases answered
    exact ⟨rfl, .inl (by decide)⟩
  · split at answered
    · cases answered
      exact ⟨rfl, .inl (by decide)⟩
    · cases answered
      exact ⟨rfl, .inl (by decide)⟩
    · cases answered
      refine ⟨rfl, .inl fun empty => ?_⟩
      have long := congrArg String.length empty
      simp at long
    · obtain ⟨sent, paged, rfl⟩ := Option.map_eq_some_iff.mp answered
      exact ⟨rfl, .inr ⟨sent, paged, rfl, rfl⟩⟩

theorem firstPage_of_le {entries : List KeyedRow} (fits : entries.length ≤ maxMembers) :
    firstPage entries maxMembers = some entries := if_neg (by omega)

theorem mem_of_mem_firstPage {entries sent : List KeyedRow} {entry : KeyedRow}
    (paged : firstPage entries maxMembers = some sent) (there : entry ∈ sent) :
    entry ∈ entries := by
  unfold firstPage at paged
  split_ifs at paged
  · cases paged
    exact List.mem_of_mem_take there
  · cases paged
    exact there

theorem mem_of_mem_entries {entry : KeyedRow} (there : entry ∈ req.entries book) :
    entry ∈ book.getByCluster req.clusterPath := by
  unfold SyncRequest.entries at there
  split at there
  · exact there
  · exact (List.mem_filter.mp there).1

theorem keyedRow_ext {clusterPath : String} {one other : KeyedRow}
    (first : one.1.2 = clusterPath ∧ book.get one.1.1 clusterPath = some one.2)
    (second : other.1.2 = clusterPath ∧ book.get other.1.1 clusterPath = some other.2)
    (same : one.1.1 = other.1.1) : one = other := by
  obtain ⟨⟨nodeID, path⟩, row⟩ := one
  obtain ⟨⟨nodeID', path'⟩, row'⟩ := other
  obtain ⟨rfl, found⟩ := first
  obtain ⟨rfl, found'⟩ := second
  obtain rfl : nodeID = nodeID' := same
  obtain rfl : row = row' := Option.some.inj (found.symm.trans found')
  rfl

end Answers

section Members

variable {clusterPath : String} {now : Int} {faults : ClientFaults} {book : Book} {nodeID : String}

theorem isSome_storeMember (m : MemberInfo) :
    ((storeMember clusterPath now faults book m).get nodeID clusterPath).isSome ↔
      (book.get nodeID clusterPath).isSome ∨ m.nodeID = nodeID ∧ faults.member nodeID = {} := by
  unfold storeMember
  cases processed : processMember book now (faults.member m.nodeID) clusterPath m with
  | ok result =>
    obtain ⟨fine, stored⟩ := processMember_ok processed
    simp only [stored, Book.get_insert, Prod.mk.injEq, and_true]
    by_cases same : nodeID = m.nodeID
    · subst same
      simp [fine]
    · simp [same, Ne.symm same]
  | error err =>
    -- Only an error of the database is returned.
    refine ⟨.inl, ?_⟩
    rintro (known | ⟨rfl, fine⟩)
    · exact known
    · obtain ⟨result, stored⟩ := processMember_total book now clusterPath m
      rw [fine, stored] at processed
      cases processed

theorem isSome_storeMembers (members : List MemberInfo) (book : Book) :
    ((storeMembers clusterPath now faults book members).get nodeID clusterPath).isSome ↔
      (book.get nodeID clusterPath).isSome ∨
        (∃ m ∈ members, m.nodeID = nodeID) ∧ faults.member nodeID = {} := by
  induction members generalizing book with
  | nil => simp [storeMembers]
  | cons m rest ih =>
    refine (ih _).trans ?_
    rw [isSome_storeMember]
    simp only [List.exists_mem_cons_iff]
    tauto

theorem isSome_recordConnectionAttempt (fault : Option String) (target : String) (success : Bool) :
    (((book.recordConnectionAttempt now fault target clusterPath success).toOption.getD book).get
      nodeID clusterPath).isSome = (book.get nodeID clusterPath).isSome := by
  rw [Book.recordConnectionAttempt, Book.exec_getD]
  split
  · rfl
  · rw [Book.get_modifyRow]
    split
    · rename_i same
      obtain ⟨rfl, -⟩ := Prod.mk.inj same
      simp
    · rfl

theorem isSome_recordConnectionFailure {failure : ConnectionFaults} {target : String}
    (early : failure = {} → ∀ row, book.get target clusterPath = some row →
      row.tracking.consecutiveFails + 1 < maxConsecutiveFailsBeforeRemoval)
    (there : (book.get nodeID clusterPath).isSome) :
    ((recordConnectionFailure book now failure target clusterPath).get nodeID
      clusterPath).isSome := by
  let tracked : Health.Tracked := ⟨book, ∅⟩
  by_contra gone
  rw [Option.not_isSome_iff_eq_none] at gone
  by_cases same : nodeID = target
  · subst same
    obtain ⟨row, known⟩ := Option.isSome_iff_exists.mp there
    have record : Health.Tracked.record clusterPath
        ⟨recordConnectionFailure tracked.book now failure nodeID clusterPath, ∅⟩ nodeID
          = (tracked.record clusterPath nodeID).recordConnectionFailure now failure :=
      Health.Tracked.record_recordConnectionFailure failure nodeID
    have removed : ((tracked.record clusterPath nodeID).recordConnectionFailure now failure).row
        = none := by
      rw [← record]
      exact gone
    obtain ⟨fine, limit⟩ := Health.NodeRecord.limit_of_recordConnectionFailure
      (show (tracked.record clusterPath nodeID).row = some row from known) removed
    have := early fine row known
    omega
  · have record : Health.Tracked.record clusterPath
        ⟨recordConnectionFailure tracked.book now failure target clusterPath, ∅⟩ nodeID
          = tracked.record clusterPath nodeID :=
      Health.Tracked.record_recordConnectionFailure_of_ne same failure
    have kept : (recordConnectionFailure book now failure target clusterPath).get nodeID clusterPath
        = book.get nodeID clusterPath := congrArg Health.NodeRecord.row record
    rw [kept] at gone
    rw [gone] at there
    cases there

end Members

structure Config where
  clusterPath : String
  self : String
  maxMembers : Int
  peerMaxMembers : String → Int

structure Contact where
  now : Int
  faults : ClientFaults := {}
  stream : Option String := none
  write : Option String := none
  /-- The answer does not arrive. -/
  read : Option String := none
  answered : Int
  server : ServerFaults := {}

structure Network where
  client : Syncer
  peers : String → Book
  lastPeer : Option String

namespace Network

inductive Action
  | sync (delta : Bool) (peer : String) (x : Contact)
  | learn (peer : String) (book : Book)
  | change (book : Book)

variable (cfg : Config)

variable (s : Network) (delta : Bool)

def answer (peer : String) (x : Contact) (req : SyncRequest) :
    Except String SyncResponse :=
  match x.read, handleSyncStream (s.peers peer) (cfg.peerMaxMembers peer) x.answered x.server
    cfg.self req with
  | some err, _ => .error err
  | none, none => .error "EOF"
  | none, some resp => .ok resp

def sync (peer : String) (x : Contact) : Outcome :=
  let exchange : Exchange := ⟨x.stream, x.write, s.answer cfg peer x⟩
  if delta then
    syncDeltaFrom cfg.maxMembers cfg.clusterPath x.now x.faults s.client peer [exchange]
  else syncFrom cfg.maxMembers cfg.clusterPath x.now x.faults s.client peer [exchange]

def step : Action → Option Network
  | .sync delta peer x =>
    match s.sync cfg delta peer x with
    | (client, some (.ok _)) => some { s with client := client, lastPeer := some peer }
    | (client, _) => some { s with client := client }
  | .learn peer book => some { s with peers := Function.update s.peers peer book }
  | .change book => some { s with client := { s.client with phonebook := book } }

def since : Option Timestamp :=
  if delta then s.client.lastSync.map Timestamp.new else none

def request : SyncRequest :=
  { clusterPath := cfg.clusterPath
    lastSyncTime := s.since delta
    maxMembers := int32 cfg.maxMembers }

def Knows (client peer : Book) : Prop :=
  ∀ nodeID, (peer.get nodeID cfg.clusterPath).isSome → (client.get nodeID cfg.clusterPath).isSome

def Careful : Action → Prop
  | .sync delta peer x =>
    let req := s.request cfg delta
    (delta = true → s.client.lastSync ≠ none → s.lastPeer = some peer) ∧
      ((req.entries (s.peers peer)).length ≤ req.limit (cfg.peerMaxMembers peer)) ∧
      (∀ nodeID, x.faults.member nodeID = {}) ∧
      (x.stream ≠ none → x.faults.failure = {} →
        ∀ row, s.client.phonebook.get peer cfg.clusterPath = some row →
          row.tracking.consecutiveFails + 1 < maxConsecutiveFailsBeforeRemoval)
  | .learn peer book =>
    s.lastPeer = some peer → ∀ ts, s.since true = some ts →
      ∀ entry ∈ book.getByCluster cfg.clusterPath,
        entry ∈ (s.peers peer).getByCluster cfg.clusterPath ∨ UpdatedSince ts.asTime entry
  | .change book => Knows cfg book s.client.phonebook

variable {cfg} {s : Network} {delta : Bool} {peer : String} {x : Contact}

theorem sync_eq : s.sync cfg delta peer x
    = syncFromPeer cfg.maxMembers cfg.clusterPath x.now x.faults s.client peer (s.since delta)
        [⟨x.stream, x.write, s.answer cfg peer x⟩] := by
  cases delta <;> rfl

theorem answer_ok {req : SyncRequest} {resp : SyncResponse}
    (read : s.answer cfg peer x req = .ok resp) :
    handleSyncStream (s.peers peer) (cfg.peerMaxMembers peer) x.answered x.server cfg.self req
      = some resp := by
  unfold answer at read
  split at read
  · cases read
  · cases read
  · rename_i sent
    cases read
    exact sent

def connected (cfg : Config) (s : Network) (peer : String) (x : Contact) : Book :=
  (s.client.phonebook.recordConnectionAttempt x.now x.faults.attempt peer cfg.clusterPath
    true).toOption.getD s.client.phonebook

variable (cfg s delta peer x) in
theorem sync_cases :
    (x.stream ≠ none ∧ ∃ err, s.sync cfg delta peer x
      = (⟨recordConnectionFailure s.client.phonebook x.now x.faults.failure peer cfg.clusterPath,
          s.client.lastSync⟩, some (.error err))) ∨
    (∃ err, s.sync cfg delta peer x
      = (⟨s.connected cfg peer x, s.client.lastSync⟩, some (.error err))) ∨
    ∃ sent, firstPage ((s.request cfg delta).entries (s.peers peer))
        ((s.request cfg delta).limit (cfg.peerMaxMembers peer)) = some sent ∧
      s.sync cfg delta peer x
        = (⟨storeMembers cfg.clusterPath x.now x.faults (s.connected cfg peer x)
            (sent.map memberInfo), some (Timestamp.new x.answered).asTime⟩, some (.ok ())) := by
  rw [sync_eq]
  unfold syncFromPeer
  cases stream : x.stream with
  | some err => exact .inl ⟨nofun, _, rfl⟩
  | none =>
    refine .inr ?_
    cases write : x.write with
    | some err => exact .inl ⟨_, rfl⟩
    | none =>
      simp only
      cases read : s.answer cfg peer x (s.request cfg delta) with
      | error err =>
        rw [show s.answer cfg peer x ⟨cfg.clusterPath, s.since delta, _, ""⟩ = _ from read]
        exact .inl ⟨_, rfl⟩
      | ok resp =>
        rw [show s.answer cfg peer x ⟨cfg.clusterPath, s.since delta, _, ""⟩ = _ from read]
        obtain ⟨last, outcome⟩ := handleSyncStream_cases (answer_ok read)
        simp only [last, ne_eq, not_true_eq_false, and_false, if_false]
        split
        · exact .inl ⟨_, rfl⟩
        · rename_i fine
          obtain ⟨sent, paged, members, stamped⟩ := outcome.resolve_left fine
          refine .inr ⟨sent, paged, ?_⟩
          rw [members, stamped]
          rfl

theorem sync_ends : (s.sync cfg delta peer x).2 ≠ none := by
  rcases sync_cases cfg s delta peer x with ⟨-, err, ends⟩ | ⟨err, ends⟩ | ⟨sent, -, ends⟩ <;>
    rw [ends] <;> exact nofun

theorem isSome_connected {nodeID : String} :
    ((s.connected cfg peer x).get nodeID cfg.clusterPath).isSome
      = (s.client.phonebook.get nodeID cfg.clusterPath).isSome :=
  isSome_recordConnectionAttempt _ _ _

def page (cfg : Config) (s : Network) (delta : Bool) (peer : String) : List KeyedRow :=
  (firstPage ((s.request cfg delta).entries (s.peers peer))
    ((s.request cfg delta).limit (cfg.peerMaxMembers peer))).getD []

def Delivered (cfg : Config) (s : Network) (delta : Bool) (peer : String) (x : Contact)
    (entry : KeyedRow) : Prop :=
  entry ∈ s.page cfg delta peer ∧ x.faults.member entry.1.1 = {}

theorem knows_iff (done : (s.sync cfg delta peer x).2 = some (.ok ())) :
    Knows cfg (s.sync cfg delta peer x).1.phonebook (s.peers peer) ↔
      ∀ entry ∈ (s.peers peer).getByCluster cfg.clusterPath,
        (s.client.phonebook.get entry.1.1 cfg.clusterPath).isSome ∨
          s.Delivered cfg delta peer x entry := by
  rcases sync_cases cfg s delta peer x with ⟨-, err, ends⟩ | ⟨err, ends⟩ | ⟨sent, paged, ends⟩
  · rw [ends] at done
    cases done
  · rw [ends] at done
    cases done
  · have all : s.page cfg delta peer = sent := by rw [page, paged, Option.getD_some]
    simp only [ends, Knows, isSome_storeMembers, isSome_connected, Delivered, all]
    constructor
    · intro knows entry listed
      have there := Book.mem_getByCluster_iff.mp listed
      rcases knows entry.1.1 (by rw [there.2]; rfl) with known | ⟨⟨m, carried, same⟩, fine⟩
      · exact .inl known
      · obtain ⟨other, onPage, rfl⟩ := List.mem_map.mp carried
        have found := Book.mem_getByCluster_iff.mp
          (mem_of_mem_entries (mem_of_mem_firstPage paged onPage))
        obtain rfl : other = entry := keyedRow_ext found there same
        exact .inr ⟨onPage, fine⟩
    · intro delivered nodeID there
      obtain ⟨row, found⟩ := Option.isSome_iff_exists.mp there
      rcases delivered ⟨(nodeID, cfg.clusterPath), row⟩
        (Book.mem_getByCluster_iff.mpr ⟨rfl, found⟩) with known | ⟨onPage, fine⟩
      · exact .inl known
      · exact .inr ⟨⟨memberInfo _, List.mem_map_of_mem onPage, rfl⟩, fine⟩

def Watermark (cfg : Config) (s : Network) : Prop :=
  ∀ ts, s.since true = some ts → ∃ peer, s.lastPeer = some peer ∧
    ∀ entry ∈ (s.peers peer).getByCluster cfg.clusterPath,
      (s.client.phonebook.get entry.1.1 cfg.clusterPath).isSome ∨ UpdatedSince ts.asTime entry

theorem Watermark.knows (watermark : Watermark cfg s) (careful : s.Careful cfg (.sync delta peer x))
    (done : (s.sync cfg delta peer x).2 = some (.ok ())) :
    Knows cfg (s.sync cfg delta peer x).1.phonebook (s.peers peer) := by
  obtain ⟨same, fits, stored, -⟩ := careful
  rw [knows_iff done]
  intro entry listed
  have all : s.page cfg delta peer = (s.request cfg delta).entries (s.peers peer) := by
    rw [page, firstPage_of_le fits, Option.getD_some]
  rw [Delivered, all]
  cases asked : s.since delta with
  | none =>
    -- All rows are asked for.
    refine .inr ⟨?_, stored _⟩
    simpa [SyncRequest.entries, request, asked] using listed
  | some ts =>
    obtain rfl : delta = true := by
      cases delta with
      | false => cases asked
      | true => rfl
    have synced : s.client.lastSync ≠ none := by
      intro never
      simp [since, never] at asked
    obtain ⟨other, last, covered⟩ := watermark ts asked
    obtain rfl : peer = other := Option.some.inj ((same rfl synced).symm.trans last)
    refine (covered entry listed).imp_right fun updated => ⟨?_, stored _⟩
    simpa [SyncRequest.entries, request, asked, filterUpdatedSince] using ⟨listed, updated⟩

theorem Watermark.of_known (watermark : Watermark cfg s) {client : Syncer}
    (same : client.lastSync = s.client.lastSync)
    (kept : Knows cfg client.phonebook s.client.phonebook) :
    Watermark cfg { s with client := client } := by
  intro ts asked
  -- A delta asks for the same rows as before.
  have before : s.since true = some ts := by
    rw [← asked]
    simp only [since, if_true, same]
  obtain ⟨peer, last, covered⟩ := watermark ts before
  exact ⟨peer, last, fun entry listed => (covered entry listed).imp_left (kept entry.1.1)⟩

theorem Watermark.learn {book : Book} (watermark : Watermark cfg s)
    (careful : s.Careful cfg (.learn peer book)) :
    Watermark cfg { s with peers := Function.update s.peers peer book } := by
  intro ts asked
  obtain ⟨other, last, covered⟩ := watermark ts asked
  refine ⟨other, last, fun entry there => ?_⟩
  have listed : entry ∈ (Function.update s.peers peer book other).getByCluster cfg.clusterPath :=
    there
  by_cases same : other = peer
  · subst same
    rw [Function.update_self] at listed
    rcases careful last ts asked entry listed with known | updated
    · exact covered entry known
    · exact .inr updated
  · rw [Function.update_of_ne same] at listed
    exact covered entry listed

theorem Watermark.step {s' : Network} {a : Action} (watermark : Watermark cfg s)
    (careful : s.Careful cfg a) (taken : step cfg s a = some s') : Watermark cfg s' := by
  cases a with
  | sync delta peer x =>
    simp only [Network.step] at taken
    rcases sync_cases cfg s delta peer x with
      ⟨refused, err, ends⟩ | ⟨err, ends⟩ | ⟨sent, paged, ends⟩
    · rw [ends] at taken
      cases taken
      exact watermark.of_known rfl fun nodeID there =>
        isSome_recordConnectionFailure (careful.2.2.2 refused) there
    · rw [ends] at taken
      cases taken
      exact watermark.of_known rfl fun nodeID there => isSome_connected.trans there
    · have knows := watermark.knows careful (congrArg Prod.snd ends)
      rw [ends] at taken knows
      cases taken
      intro ts asked
      refine ⟨peer, rfl, fun entry listed => .inl (knows entry.1.1 ?_)⟩
      rw [Book.get_of_mem_getByCluster listed]
      rfl
  | learn peer book =>
    cases taken
    exact watermark.learn careful
  | change book =>
    cases taken
    exact watermark.of_known rfl careful

/--
Every sync with a peer ends after one exchange, and one that succeeds is complete exactly when it
delivers every row that the client lacks.
-/
theorem sync_complete {start : Network} (fresh : start.client.lastSync = none)
    (reached : Reach (step cfg) (Careful cfg) start s) (delta : Bool) (peer : String)
    (x : Contact) :
    (s.sync cfg delta peer x).2 ≠ none ∧
      ((s.sync cfg delta peer x).2 = some (.ok ()) →
        (Knows cfg (s.sync cfg delta peer x).1.phonebook (s.peers peer) ↔
          ∀ entry ∈ (s.peers peer).getByCluster cfg.clusterPath,
            (s.client.phonebook.get entry.1.1 cfg.clusterPath).isSome ∨
              s.Delivered cfg delta peer x entry) ∧
        (s.Careful cfg (.sync delta peer x) →
          Knows cfg (s.sync cfg delta peer x).1.phonebook (s.peers peer))) := by
  have watermark : Watermark cfg s := by
    refine reached.invariant (Watermark cfg) (fun ts asked => ?_)
      fun s a s' watermark careful taken => watermark.step careful taken
    -- At the start there was no sync.
    simp [since, fresh] at asked
  exact ⟨sync_ends, fun done => ⟨knows_iff done, fun careful => watermark.knows careful done⟩⟩

def limited (maxMembers : Int) : Config := ⟨"r/d/c", "node-c", maxMembers, fun _ => maxMembers⟩

def member : Row :=
  { publicKey := []
    addresses := []
    region := "r"
    datacenter := "d"
    capabilities := none
    firstSeen := 0
    lastSeen := 0
    updatedAt := 0
    tracking := {}
    status := .active }

def listing (nodeIDs : List String) : Book :=
  nodeIDs.foldl (fun book nodeID => book.insert (nodeID, "r/d/c") member) ∅

def twoPeers : Network :=
  { client := ⟨listing ["node-c"], none⟩
    peers := fun peer => if peer = "node-a" then listing ["node-x", "node-y", "node-c"]
      else listing ["node-z", "node-c"]
    lastPeer := none }

def plainly (at_ : Int) : Contact := { now := at_, answered := at_ }

/--
With a limit of one, a sync brings one of three members and succeeds. With room for all, a delta to
the second peer succeeds and brings nothing, since the first peer has answered after its rows were
written.
-/
theorem sync_incomplete :
    ((twoPeers.sync (limited 1) false "node-a" (plainly second)).2 = some (.ok ()) ∧
      ¬ Knows (limited 1) (twoPeers.sync (limited 1) false "node-a" (plainly second)).1.phonebook
        (twoPeers.peers "node-a")) ∧
    ∃ s : Network,
      Reach (step (limited 1000)) (fun _ _ => True) twoPeers s ∧
      (s.sync (limited 1000) true "node-b" (plainly (2 * second))).2 = some (.ok ()) ∧
      ¬ Knows (limited 1000)
        (s.sync (limited 1000) true "node-b" (plainly (2 * second))).1.phonebook
        (s.peers "node-b") := by
  refine ⟨⟨by decide +kernel, fun knows => ?_⟩, _, .next .start trivial
    (show step (limited 1000) twoPeers (.sync false "node-a" (plainly second)) = some _ from rfl),
    by decide +kernel, fun knows => ?_⟩
  · exact absurd (knows "node-x" (by decide +kernel)) (by decide +kernel)
  · exact absurd (knows "node-z" (by decide +kernel)) (by decide +kernel)

/-- After a sync with a peer, a delta to the same peer is complete. -/
theorem sync_complete_again :
    ∃ s : Network,
      Reach (step (limited 1000)) (Careful (limited 1000)) twoPeers s ∧
      (s.sync (limited 1000) true "node-a" (plainly (2 * second))).2 = some (.ok ()) ∧
      Knows (limited 1000) (s.sync (limited 1000) true "node-a" (plainly (2 * second))).1.phonebook
        (s.peers "node-a") := by
  have first : twoPeers.Careful (limited 1000) (.sync false "node-a" (plainly second)) :=
    ⟨nofun, by decide +kernel, fun _ => rfl, fun refused => absurd rfl refused⟩
  have reached := Reach.next .start first
    (show step (limited 1000) twoPeers (.sync false "node-a" (plainly second)) = some _ from rfl)
  obtain ⟨-, ends⟩ := sync_complete rfl reached true "node-a" (plainly (2 * second))
  obtain ⟨-, complete⟩ := ends (by decide +kernel)
  exact ⟨_, reached, by decide +kernel, complete
    ⟨fun _ _ => rfl, by decide +kernel, fun _ => rfl, fun refused => absurd rfl refused⟩⟩

end Network

end Falak.Sync
