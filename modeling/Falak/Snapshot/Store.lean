import Falak.Lib.Clock
import Falak.Lib.Disk
import Mathlib.Data.List.AList

/-! The snapshots of a node: their records in the database, and their files below a directory. -/

namespace Falak.Snapshot

structure Record where
  capsuleID : String
  tag : String
  size : Int
  path : Path
  checksum : String
  createdAt : Int
  lastAccessed : Int
  ttl : Int
  inUse : Bool := false
  zone : Int := 0
  deriving DecidableEq

structure Store where
  dir : Path
  disk : Disk
  records : AList fun _ : String × String => Record

def failing {α : Type} (fault : Option String) (call : Except String α) : Except String α :=
  match fault with
  | some err => .error err
  | none => call

namespace Store

variable (s : Store) (fault : Option String) (capsuleID tag : String)

def get : Except String (Option Record) := failing fault (.ok (s.records.lookup (capsuleID, tag)))

def put (record : Record) : Except String Store :=
  failing fault (.ok { s with
    records := s.records.insert (record.capsuleID, record.tag)
      { record with ttl := record.ttl.tdiv second * second } })

def snapshotPath : Path := s.dir.join [utf8 capsuleID, utf8 tag]

def ensureDir : Except String Store :=
  failing fault ((s.disk.mkdirAll (s.snapshotPath capsuleID tag)).map ({ s with disk := · }))

/-- Remove the directory of a snapshot. An error is ignored. -/
def removeDir : Store :=
  match fault with
  | some _ => s
  | none => { s with disk := s.disk.removeAll (s.snapshotPath capsuleID tag) }

end Store

theorem failing_eq_ok {α : Type} {fault : Option String} {call : Except String α} {a : α} :
    failing fault call = .ok a ↔ fault = none ∧ call = .ok a := by
  cases fault <;> simp [failing]

end Falak.Snapshot
