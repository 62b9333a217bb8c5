import Falak.Phonebook.Book

/-!
The statements of the phonebook that change one row, and how the syncer counts failed connections.

A statement about a row that is not there changes nothing and is no error.
-/

namespace Falak.Phonebook

variable (row : Row) (now : Int)

open Capsule (unixMilli)

def Row.withScore (score : Rat) : Row :=
  { row with
    tracking := { row.tracking with reliabilityScore := score }
    updatedAt := unixMilli now }

def Row.withStatus (status : NodeStatus) : Row :=
  { row with status := status, updatedAt := unixMilli now }

def Row.attempted (success : Bool) : Row :=
  let t := row.tracking
  if success then
    { row with
      lastSeen := unixMilli now
      updatedAt := unixMilli now
      tracking :=
        { t with
          connectionAttempts := t.connectionAttempts + 1
          connectionSuccess := t.connectionSuccess + 1
          successRate := (t.connectionSuccess + 1 : Int) / (t.connectionAttempts + 1 : Int)
          consecutiveFails := 0
          lastConnected := unixMilli now
          isConnected := true } }
  else
    { row with
      updatedAt := unixMilli now
      tracking :=
        { t with
          connectionAttempts := t.connectionAttempts + 1
          successRate := t.connectionSuccess / (t.connectionAttempts + 1 : Int)
          consecutiveFails := t.consecutiveFails + 1 } }

namespace Book

variable (book : Book) (now : Int) (fault : Option String)

def exec (after : Book) : Except String Book :=
  match fault with
  | some err => .error err
  | none => .ok after

def read (nodeID clusterPath : String) : Option Row :=
  if fault.isSome then none else book.get nodeID clusterPath

def modifyRow (nodeID clusterPath : String) (change : Row → Row) : Book :=
  match book.get nodeID clusterPath with
  | none => book
  | some row => book.insert (nodeID, clusterPath) (change row)

def setReliabilityScore (nodeID clusterPath : String) (score : Rat) : Except String Book :=
  exec fault (book.modifyRow nodeID clusterPath (·.withScore now score))

def setStatus (nodeID clusterPath : String) (status : NodeStatus) : Except String Book :=
  exec fault (book.modifyRow nodeID clusterPath (·.withStatus now status))

def recordConnectionAttempt (nodeID clusterPath : String) (success : Bool) : Except String Book :=
  exec fault (book.modifyRow nodeID clusterPath (·.attempted now success))

def remove (nodeID clusterPath : String) :
    Except String Book :=
  exec fault (book.erase (nodeID, clusterPath))

def getByStatus (clusterPath : String) (status : NodeStatus) :
    List (Sigma fun _ : String × String => Row) :=
  (book.getByCluster clusterPath).filter fun entry => entry.2.status = status

theorem exec_getD (book after : Book) :
    (exec fault after).toOption.getD book = if fault.isSome then book else after := by
  cases fault <;> rfl

theorem get_modifyRow (nodeID clusterPath other cluster : String) (change : Row → Row) :
    (book.modifyRow nodeID clusterPath change).get other cluster
      = if (other, cluster) = (nodeID, clusterPath) then (book.get nodeID clusterPath).map change
        else book.get other cluster := by
  unfold modifyRow
  cases held : book.get nodeID clusterPath with
  | none =>
    -- There is nothing to change.
    simp only [Option.map_none]
    split
    · rename_i same
      obtain ⟨rfl, rfl⟩ := Prod.mk.inj same
      exact held
    · rfl
  | some row => rw [get_insert, Option.map_some]

theorem get_erase (nodeID clusterPath other cluster : String) :
    Book.get (book.erase (nodeID, clusterPath)) other cluster
      = if (other, cluster) = (nodeID, clusterPath) then none else book.get other cluster := by
  unfold get
  split
  · rename_i same
    rw [same]
    exact AList.lookup_erase _ _
  · rename_i apart
    exact AList.lookup_erase_ne apart

variable {book : Book} {clusterPath : String} {entry : Sigma fun _ : String × String => Row}

theorem get_of_mem_getByCluster (there : entry ∈ book.getByCluster clusterPath) :
    book.get entry.1.1 clusterPath = some entry.2 := by
  obtain ⟨listed, same⟩ := List.mem_filter.mp there
  obtain rfl : entry.1.2 = clusterPath := of_decide_eq_true same
  exact AList.mem_lookup_iff.mpr listed

theorem mem_getByCluster_iff :
    entry ∈ book.getByCluster clusterPath ↔
      entry.1.2 = clusterPath ∧ book.get entry.1.1 clusterPath = some entry.2 := by
  refine ⟨fun there => ⟨?_, get_of_mem_getByCluster there⟩, ?_⟩
  · exact of_decide_eq_true (List.mem_filter.mp there).2
  · rintro ⟨rfl, found⟩
    exact List.mem_filter.mpr ⟨AList.mem_lookup_iff.mp found, decide_eq_true rfl⟩

theorem length_getByCluster_modifyRow (book : Book) (nodeID clusterPath cluster : String)
    (change : Row → Row) :
    ((book.modifyRow nodeID clusterPath change).getByCluster cluster).length
      = (book.getByCluster cluster).length := by
  unfold modifyRow
  cases held : book.get nodeID clusterPath with
  | none => rfl
  | some row =>
    have there : (nodeID, clusterPath) ∈ book.entries.keys :=
      AList.lookup_isSome.mp (Option.isSome_of_eq_some held)
    obtain ⟨old, before, after, -, entries, erased⟩ := List.exists_of_kerase there
    simp only [getByCluster, AList.entries_insert, erased]
    rw [entries]
    simp only [List.filter_append, List.filter_cons, List.length_append]
    split
    · simp only [List.length_cons, List.length_append]
      omega
    · rw [List.length_append]

end Book

def maxConsecutiveFailsBeforeQuarantine : Int := 3

def maxConsecutiveFailsBeforeRemoval : Int := 5

structure ConnectionFaults where
  record : Option String := none
  query : Option String := none
  /-- For the removal, or for the status. -/
  write : Option String := none
  deriving DecidableEq

def recordConnectionFailure (book : Book) (now : Int) (faults : ConnectionFaults)
    (nodeID clusterPath : String) : Book :=
  match book.recordConnectionAttempt now faults.record nodeID clusterPath false with
  | .error _ => book
  | .ok recorded =>
    match recorded.read faults.query nodeID clusterPath with
    | none => recorded
    | some row =>
      if maxConsecutiveFailsBeforeRemoval ≤ row.tracking.consecutiveFails then
        (recorded.remove faults.write nodeID clusterPath).toOption.getD recorded
      else if maxConsecutiveFailsBeforeQuarantine ≤ row.tracking.consecutiveFails ∧
          row.status ≠ .quarantined then
        (recorded.setStatus now faults.write nodeID clusterPath .quarantined).toOption.getD recorded
      else recorded

end Falak.Phonebook
