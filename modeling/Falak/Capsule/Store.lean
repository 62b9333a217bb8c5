import Falak.Capsule.Types

/-!
The capsule store: a cache of capsules and, unless it is in memory only, a database table.

Every operation is given the error that the database returns for its statement, if it returns one.
-/

set_option linter.dupNamespace false

namespace Falak.Capsule

def unixMilli (t : Int) : Int := t / millisecond

structure Row where
  clusterID : String
  name : String
  status : CapsuleStatus
  version : String
  orbit : String
  tier : Tier
  spec : CapsuleSpec
  replicas : List ReplicaState
  momentum : MomentumState
  createdAt : Int
  updatedAt : Int
  deriving DecidableEq

def Capsule.row (c : Capsule) : Row :=
  { clusterID := c.clusterID
    name := c.spec.name
    status := c.status
    version := c.version
    orbit := c.spec.orbit
    tier := c.spec.tier
    spec := c.spec
    replicas := c.replicas
    momentum := c.momentum
    createdAt := unixMilli c.createdAt
    updatedAt := unixMilli c.updatedAt }

def scanRow (id : CapsuleID) (row : Row) : Capsule :=
  { id := id
    clusterID := row.clusterID
    spec := row.spec
    status := row.status
    replicas := row.replicas
    momentum := row.momentum
    version := row.version
    createdAt := row.createdAt * millisecond
    updatedAt := row.updatedAt * millisecond }

abbrev Table := AList fun _ : CapsuleID => Row

def insertDB (c : Capsule) (table : Table) : Except String Table :=
  if c.id ∈ table then .error "UNIQUE constraint failed: capsules.id"
  else .ok (table.insert c.id c.row)

def updateDB (c : Capsule) (table : Table) : Except String Table :=
  match table.lookup c.id with
  | none => .ok table
  | some old => .ok (table.insert c.id { c.row with createdAt := old.createdAt })

def deleteDB (id : CapsuleID) (table : Table) : Except String Table := .ok (table.erase id)

/-- A store: what is cached under an ID is a capsule with that ID. -/
structure Store where
  capsules : AList fun id : CapsuleID => { c : Capsule // c.id = id }
  db : Option Table

namespace Store

variable (table : Table) (s : Store) (c : Capsule)

def new : Store := ⟨∅, none⟩

def loadAll : AList fun id : CapsuleID => { c : Capsule // c.id = id } :=
  ⟨table.entries.map fun entry => ⟨entry.1, ⟨scanRow entry.1 entry.2, rfl⟩⟩, by
    rw [List.NodupKeys, List.keys, List.map_map]
    exact table.nodupKeys⟩

def openStore : Store := ⟨loadAll table, some table⟩

def get (id : CapsuleID) : Option Capsule := (s.capsules.lookup id).map Subtype.val

def list : List Capsule := s.capsules.entries.map fun entry => entry.2.val

def put : Store := { s with capsules := s.capsules.insert c.id ⟨c, rfl⟩ }

/-- The table after a statement, unless the database rejects it. -/
def exec (fault : Option String) (statement : Table → Except String Table) :
    Except String (Option Table) :=
  match s.db, fault with
  | none, _ => .ok none
  | some _, some err => .error err
  | some table, none => (statement table).map some

def create (now : Int) (fault : Option String) (c : Capsule) : Except String Store :=
  if (s.get c.id).isSome then .error ("capsule " ++ c.id ++ " already exists")
  else
    let c := { c with createdAt := now, updatedAt := now }
    match s.exec fault (insertDB c) with
    | .error err => .error ("failed to persist capsule: " ++ err)
    | .ok db => .ok ({ s with db := db }.put c)

def update (now : Int) (fault : Option String) (c : Capsule) : Except String Store :=
  if (s.get c.id).isNone then .error ("capsule " ++ c.id ++ " not found")
  else
    let c := { c with updatedAt := now }
    match s.exec fault (updateDB c) with
    | .error err => .error ("failed to persist capsule update: " ++ err)
    | .ok db => .ok ({ s with db := db }.put c)

def delete (fault : Option String) (id : CapsuleID) : Except String Store :=
  if (s.get id).isNone then .error ("capsule " ++ id ++ " not found")
  else
    match s.exec fault (deleteDB id) with
    | .error err => .error ("failed to delete capsule from database: " ++ err)
    | .ok db => .ok { s with db := db, capsules := s.capsules.erase id }

theorem id_of_get {s : Store} {id : CapsuleID} {c : Capsule} (found : s.get id = some c) :
    c.id = id := by
  obtain ⟨⟨c', named⟩, -, rfl⟩ := Option.map_eq_some_iff.mp found
  exact named

@[simp] theorem put_db : (s.put c).db = s.db := rfl

@[simp] theorem get_put (id : CapsuleID) :
    (s.put c).get id = if id = c.id then some c else s.get id := by
  unfold get put
  split
  · rename_i same
    subst same
    simp
  · rename_i other
    simp [other]

@[simp] theorem get_erase (db : Option Table) (id other : CapsuleID) :
    get ⟨s.capsules.erase id, db⟩ other = if other = id then none else s.get other := by
  unfold get
  split
  · rename_i same
    subst same
    simp
  · rename_i different
    simp [different]

@[simp] theorem get_withDb (db : Option Table) (id : CapsuleID) :
    get { s with db := db } id = s.get id := rfl

@[simp] theorem get_openStore (id : CapsuleID) :
    (openStore table).get id = (table.lookup id).map (scanRow id) := by
  have mapped : (loadAll table).lookup id
      = (table.lookup id).map fun row => ⟨scanRow id row, rfl⟩ :=
    List.dlookup_map₂ (f := fun id row => (⟨scanRow id row, rfl⟩ : { c : Capsule // c.id = id })) id
  simp only [openStore, get, mapped, Option.map_map]
  rfl

theorem mem_list {s : Store} {c : Capsule} : c ∈ s.list ↔ s.get c.id = some c := by
  unfold list get
  simp only [List.mem_map, Option.map_eq_some_iff]
  constructor
  · rintro ⟨⟨id, c', rfl⟩, member, rfl⟩
    exact ⟨⟨c', rfl⟩, AList.mem_lookup_iff.mpr member, rfl⟩
  · rintro ⟨stored, found, same⟩
    exact ⟨⟨c.id, stored⟩, AList.mem_lookup_iff.mp found, same⟩

theorem list_perm_map {s s' : Store} {g : Capsule → Capsule} (named : ∀ c, (g c).id = c.id)
    (gets : ∀ id, s'.get id = (s.get id).map g) : s'.list.Perm (s.list.map g) := by
  have distinct (s : Store) : (s.list.map Capsule.id).Nodup := by
    have keys : s.list.map Capsule.id = s.capsules.keys := by
      simp only [list, AList.keys, List.keys, List.map_map]
      exact List.map_congr_left fun entry _ => entry.2.property
    rw [keys]
    exact s.capsules.keys_nodup
  have mapped : (s.list.map g).Nodup := by
    refine List.Nodup.of_map Capsule.id ?_
    simpa only [List.map_map, Function.comp_def, named] using distinct s
  refine (List.perm_ext_iff_of_nodup (.of_map _ (distinct s')) mapped).mpr fun c => ?_
  rw [mem_list, gets, Option.map_eq_some_iff, List.mem_map]
  constructor
  · rintro ⟨c', found, rfl⟩
    rw [named] at found
    exact ⟨c', mem_list.mpr found, rfl⟩
  · rintro ⟨c', listed, rfl⟩
    rw [named]
    exact ⟨c', mem_list.mp listed, rfl⟩

theorem list_perm {s s' : Store} (gets : ∀ id, s'.get id = s.get id) : s'.list.Perm s.list := by
  simpa using list_perm_map (g := id) (fun _ => rfl) (fun id => by simpa using gets id)

end Store

end Falak.Capsule
