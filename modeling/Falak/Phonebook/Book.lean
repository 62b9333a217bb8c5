import Falak.Capsule.Spec
import Falak.Capsule.Store
import Falak.Lib.Checks
import Falak.Lib.Timestamp

/-!
The phonebook: the known peers of each cluster, and the two ways in which it is written.

Every operation is given the errors that the database returns for its statements, if it returns any.
-/

namespace Falak.Phonebook

open Capsule (unixMilli)

inductive NodeStatus
  | unset
  | active
  | suspected
  | quarantined
  | failed
  deriving DecidableEq

structure Capabilities where
  cpuCores : Int
  memoryMB : Int
  diskGB : Int
  datacenter : String
  tags : List String
  metadata : List (String × String)
  deriving DecidableEq

structure Tracking where
  lastConnected : Int := zeroTime
  connectionAttempts : Int := 0
  connectionSuccess : Int := 0
  successRate : Rat := 0
  consecutiveFails : Int := 0
  reliabilityScore : Rat := 0
  lastProbeTime : Int := zeroTime
  lastProbeSuccess : Bool := false
  isConnected : Bool := false
  deriving DecidableEq

structure Entry where
  nodeID : String
  clusterPath : String
  publicKey : Bytes
  addresses : List String
  region : String := ""
  datacenter : String := ""
  capabilities : Option Capabilities
  firstSeen : Int := zeroTime
  lastSeen : Int := zeroTime
  tracking : Tracking := {}
  status : NodeStatus := .unset
  deriving DecidableEq

structure Row where
  publicKey : Bytes
  addresses : List String
  region : String
  datacenter : String
  capabilities : Option Capabilities
  firstSeen : Int
  lastSeen : Int
  updatedAt : Int
  tracking : Tracking
  status : NodeStatus
  deriving DecidableEq

abbrev Book := AList fun _ : String × String => Row

def Entry.key (entry : Entry) : String × String := (entry.nodeID, entry.clusterPath)

def Entry.row (entry : Entry) (now : Int) : Row :=
  { publicKey := entry.publicKey
    addresses := entry.addresses
    region := entry.region
    datacenter := entry.datacenter
    capabilities := entry.capabilities
    firstSeen := unixMilli entry.firstSeen
    lastSeen := unixMilli entry.lastSeen
    updatedAt := unixMilli now
    tracking :=
      { entry.tracking with
        lastConnected := unixMilli entry.tracking.lastConnected
        lastProbeTime := unixMilli entry.tracking.lastProbeTime }
    status := entry.status }

def Entry.added (entry : Entry) (now : Int) : Row :=
  let row := entry.row now
  { row with
    firstSeen := if row.firstSeen = 0 then unixMilli now else row.firstSeen
    lastSeen := if row.lastSeen = 0 then unixMilli now else row.lastSeen
    status := if row.status = .unset then .active else row.status }

def Entry.updated (entry : Entry) (now : Int) (old : Row) : Row :=
  { entry.row now with firstSeen := old.firstSeen }

structure Faults where
  query : Option String := none
  statement : Option String := none
  deriving DecidableEq

namespace Book

variable (book : Book)

def get (nodeID clusterPath : String) : Option Row := book.lookup (nodeID, clusterPath)

def «exists» (fault : Option String) (nodeID clusterPath : String) : Except String Bool :=
  match fault with
  | some err => .error err
  | none => .ok (book.get nodeID clusterPath).isSome

def getByCluster (clusterPath : String) : List (Sigma fun _ : String × String => Row) :=
  book.entries.filter fun entry => entry.1.2 = clusterPath

def add (now : Int) (fault : Option String) (entry : Entry) : Except String Book :=
  match fault with
  | some err => .error err
  | none =>
    if entry.key ∈ book then
      .error "UNIQUE constraint failed: phonebook.node_id, phonebook.cluster_path"
    else .ok (book.insert entry.key (entry.added now))

def update (now : Int) (fault : Option String) (entry : Entry) : Except String Book :=
  match fault with
  | some err => .error err
  | none =>
    match book.lookup entry.key with
    | none => .ok book
    | some old => .ok (book.insert entry.key (entry.updated now old))

end Book

structure ClusterPath where
  region : String := ""
  datacenter : String := ""
  cluster : String := ""
  deriving DecidableEq

def parseClusterPath (path : String) : Except String ClusterPath :=
  match (path.toList.splitOnP (· == '/')).map String.ofList with
  | [region, datacenter, cluster] =>
    if region = "" ∨ datacenter = "" ∨ cluster = "" then
      .error ("invalid cluster path " ++ Capsule.quoted path ++ ": empty component")
    else .ok ⟨region, datacenter, cluster⟩
  | _ =>
    .error ("invalid cluster path " ++ Capsule.quoted path
      ++ ": expected format region/datacenter/cluster")

theorem length_splitOn {path : String} {cp : ClusterPath}
    (accepted : parseClusterPath path = .ok cp) : (path.toList.splitOn '/').length = 3 := by
  unfold parseClusterPath at accepted
  split at accepted
  · rename_i parts
    simpa [List.splitOn] using congrArg List.length parts
  · cases accepted

structure Member where
  nodeID : String
  clusterPath : String
  addresses : List String
  publicKey : Bytes
  capabilities : Option Capabilities
  deriving DecidableEq

def Member.entry (m : Member) (now : Int) : Entry :=
  let cp := (parseClusterPath m.clusterPath).toOption.getD {}
  { nodeID := m.nodeID
    clusterPath := m.clusterPath
    publicKey := m.publicKey
    addresses := m.addresses
    region := cp.region
    datacenter := cp.datacenter
    capabilities := m.capabilities
    firstSeen := now
    lastSeen := now
    status := .active }

def addOrUpdateEntry (book : Book) (now : Int) (faults : Faults) (m : Member) : Book :=
  let entry := m.entry now
  -- A query that fails counts as no entry.
  let written :=
    if (book.exists faults.query m.nodeID m.clusterPath).toOption.getD false then
      book.update now faults.statement entry
    else book.add now faults.statement entry
  written.toOption.getD book

structure MemberInfo where
  nodeID : String
  addresses : List String
  capabilities : Option Capabilities
  publicKey : Bytes
  joinedAt : Option Timestamp
  lastSeen : Option Timestamp
  status : String
  deriving DecidableEq

def MemberInfo.entry (m : MemberInfo) (clusterPath : String) : Entry :=
  { nodeID := m.nodeID
    clusterPath := clusterPath
    publicKey := m.publicKey
    addresses := m.addresses
    capabilities := m.capabilities
    firstSeen := (m.joinedAt.map Timestamp.asTime).getD zeroTime
    lastSeen := (m.lastSeen.map Timestamp.asTime).getD zeroTime
    status :=
      if m.status = "" then .unset
      else if m.status = "suspected" then .suspected
      else if m.status = "quarantined" then .quarantined
      else .active }

def processMember (book : Book) (now : Int) (faults : Faults) (clusterPath : String)
    (m : MemberInfo) : Except String (Bool × Book) := do
  let known ← book.exists faults.query m.nodeID clusterPath
  let entry := m.entry clusterPath
  if known then return (false, ← book.update now faults.statement entry)
  return (true, ← book.add now faults.statement entry)

def Entry.written (entry : Entry) (now : Int) : Option Row → Row
  | none => entry.added now
  | some old => entry.updated now old

def Faults.Lose (faults : Faults) (known : Bool) : Prop :=
  faults.statement.isSome ∨ faults.query.isSome ∧ known

instance (faults : Faults) (known : Bool) : Decidable (faults.Lose known) :=
  inferInstanceAs (Decidable (_ ∨ _))

variable {book : Book} {now : Int}

@[simp] theorem Entry.written_publicKey (entry : Entry) (now : Int) (old : Option Row) :
    (entry.written now old).publicKey = entry.publicKey := by
  cases old <;> rfl

@[simp] theorem Book.get_insert (book : Book) (nodeID clusterPath other cluster : String)
    (row : Row) :
    Book.get (book.insert (nodeID, clusterPath) row) other cluster
      = if (other, cluster) = (nodeID, clusterPath) then some row else book.get other cluster := by
  unfold Book.get
  split
  · rename_i same
    rw [same]
    exact AList.lookup_insert book
  · rename_i different
    exact AList.lookup_insert_ne different

theorem Book.update_known {entry : Entry} {old : Row} (fault : Option String)
    (there : book.lookup entry.key = some old) :
    (book.update now fault entry).toOption.getD book
      = if fault.isSome then book
        else book.insert entry.key (entry.written now (book.lookup entry.key)) := by
  cases fault with
  | some err => rfl
  | none => simp [Book.update, there, Entry.written, Except.toOption]

theorem Book.add_unknown {entry : Entry} (fault : Option String)
    (free : book.lookup entry.key = none) :
    (book.add now fault entry).toOption.getD book
      = if fault.isSome then book
        else book.insert entry.key (entry.written now (book.lookup entry.key)) := by
  have absent : entry.key ∉ book := AList.lookup_eq_none.mp free
  cases fault with
  | some err => rfl
  | none => simp [Book.add, absent, free, Entry.written, Except.toOption]

theorem Book.add_known {entry : Entry} (fault : Option String)
    (there : (book.lookup entry.key).isSome) :
    (book.add now fault entry).toOption.getD book = book := by
  have present : entry.key ∈ book := AList.lookup_isSome.mp there
  cases fault with
  | some err => rfl
  | none => simp [Book.add, present, Except.toOption]

theorem addOrUpdateEntry_eq (faults : Faults) (m : Member) :
    addOrUpdateEntry book now faults m
      = if faults.Lose (book.get m.nodeID m.clusterPath).isSome then book
        else book.insert (m.nodeID, m.clusterPath)
          ((m.entry now).written now (book.get m.nodeID m.clusterPath)) := by
  obtain ⟨query, statement⟩ := faults
  show Option.getD (Except.toOption (if _ then book.update now statement (m.entry now)
    else book.add now statement (m.entry now))) book = _
  cases held : book.get m.nodeID m.clusterPath with
  | none =>
    have free : book.lookup (m.entry now).key = none := held
    have asked : ((book.exists query m.nodeID m.clusterPath).toOption.getD false) = false := by
      cases query <;> simp [Book.exists, held, Except.toOption]
    rw [if_neg (by simp [asked]), Book.add_unknown statement free, free]
    simp [Faults.Lose, Member.entry, Entry.key]
  | some old =>
    have there : book.lookup (m.entry now).key = some old := held
    cases query with
    | some err =>
      rw [if_neg (by simp [Book.exists, Except.toOption]),
        Book.add_known statement (by simp [there])]
      simp [Faults.Lose]
    | none =>
      rw [if_pos (by simp [Book.exists, held, Except.toOption]),
        Book.update_known statement there, there]
      simp [Faults.Lose, Member.entry, Entry.key]

theorem processMember_ok {faults : Faults} {clusterPath : String} {m : MemberInfo} {new : Bool}
    {after : Book} (processed : processMember book now faults clusterPath m = .ok (new, after)) :
    faults = {} ∧ after = book.insert (m.nodeID, clusterPath)
      ((m.entry clusterPath).written now (book.get m.nodeID clusterPath)) := by
  obtain ⟨query, statement⟩ := faults
  simp only [processMember, bind_ok_iff] at processed
  obtain ⟨known, asked, processed⟩ := processed
  cases query with
  | some err => cases asked
  | none =>
    obtain rfl : (book.get m.nodeID clusterPath).isSome = known := Except.ok.inj asked
    cases held : book.get m.nodeID clusterPath with
    | none =>
      -- The key is free, so the row is inserted.
      have free : book.lookup (m.entry clusterPath).key = none := held
      have absent : (m.entry clusterPath).key ∉ book := AList.lookup_eq_none.mp free
      simp only [held, Option.isSome_none, Bool.false_eq_true, if_false, bind_ok_iff,
        pure_ok_iff] at processed
      obtain ⟨added, written, same⟩ := processed
      cases same
      cases statement with
      | some err => cases written
      | none =>
        simp only [Book.add, absent, if_false, Except.ok.injEq] at written
        exact ⟨rfl, written.symm⟩
    | some old =>
      have there : book.lookup (m.entry clusterPath).key = some old := held
      simp only [held, Option.isSome_some, if_true, bind_ok_iff, pure_ok_iff] at processed
      obtain ⟨updated, written, same⟩ := processed
      cases same
      cases statement with
      | some err => cases written
      | none =>
        simp only [Book.update, there, Except.ok.injEq] at written
        exact ⟨rfl, written.symm⟩

theorem processMember_total (book : Book) (now : Int) (clusterPath : String) (m : MemberInfo) :
    ∃ result, processMember book now {} clusterPath m = .ok result := by
  cases held : book.get m.nodeID clusterPath with
  | none =>
    have absent : (m.entry clusterPath).key ∉ book := AList.lookup_eq_none.mp held
    simp [processMember, Book.exists, held, Book.add, absent, bind, Except.bind]
  | some old =>
    have there : book.lookup (m.entry clusterPath).key = some old := held
    simp [processMember, Book.exists, held, Book.update, there, bind, Except.bind]

end Falak.Phonebook
