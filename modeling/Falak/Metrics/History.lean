import Falak.Lib.Newest
import Falak.Metrics.Snapshot
import Mathlib.Data.List.Induction

/-! The table with the last snapshots of the local node. -/

namespace Falak.Metrics

def historyDepth : Nat := 10

structure HistoryRow where
  id : Nat
  /-- The columns. The time of the capture is in milliseconds. -/
  row : Snapshot

/-- The table. An id is never used again. -/
structure History where
  rows : List HistoryRow := []
  nextID : Nat := 1

/-- Where the transaction of an insertion fails, if it does. -/
structure InsertFaults where
  begun : Option String := none
  inserted : Option String := none
  trimmed : Option String := none
  committed : Option String := none
  deriving DecidableEq

/-- What is read of a row, which has no column for the node. -/
def scanRow (row : Snapshot) : Snapshot :=
  { row with nodeID := "", capturedAt := row.capturedAt * millisecond }

namespace History

variable (t : History)

/-- Delete the rows whose id is not among the greatest. -/
def trim (rows : List HistoryRow) : List HistoryRow :=
  let kept := ((rows.map HistoryRow.id).mergeSort fun a b => decide (b ≤ a)).take historyDepth
  rows.filter fun row => decide (row.id ∈ kept)

def insertLocal (snap : Snapshot) (faults : InsertFaults) : History × Except String Unit :=
  match faults with
  | ⟨some err, _, _, _⟩ => (t, .error ("begin tx: " ++ err))
  | ⟨none, some err, _, _⟩ => (t, .error ("insert local snapshot: " ++ err))
  | ⟨none, none, some err, _⟩ => (t, .error ("trim local history: " ++ err))
  | ⟨none, none, none, some err⟩ => (t, .error err)
  | ⟨none, none, none, none⟩ =>
    (⟨trim (t.rows ++ [⟨t.nextID, snap.row⟩]), t.nextID + 1⟩, .ok ())

/-- The snapshot with the greatest id, or the zero value. -/
def localLatest : Snapshot :=
  ((t.rows.mergeSort fun a b => decide (b.id ≤ a.id)).head?.map fun r => scanRow r.row).getD {}

/--
The snapshots by their times of capture, given the rows as the database finds them. Rows of one time
may come in any order.
-/
def localHistory (rows : List HistoryRow) : List Snapshot :=
  (rows.mergeSort fun a b => decide (a.row.capturedAt ≤ b.row.capturedAt)).map
    fun r => scanRow r.row

def insertAll (calls : List (Snapshot × InsertFaults)) : History :=
  calls.foldl (fun t call => (t.insertLocal call.1 call.2).1) {}

/-- The snapshots of the calls that have succeeded, as they are read. -/
def recorded (calls : List (Snapshot × InsertFaults)) : List Snapshot :=
  calls.filterMap fun call => if call.2 = {} then some (scanRow call.1.row) else none

variable {t} {snaps : List Snapshot}

/-- The table has the newest of the snapshots, by ascending ids. -/
structure Holds (t : History) (snaps : List Snapshot) : Prop where
  ids : t.rows.Pairwise (·.id < ·.id)
  fresh : ∀ r ∈ t.rows, r.id < t.nextID
  rows : t.rows.map (fun r => scanRow r.row) = newest historyDepth snaps

theorem insertLocal_failed {snap : Snapshot} {faults : InsertFaults} (failed : faults ≠ {}) :
    (t.insertLocal snap faults).1 = t := by
  unfold insertLocal
  split
  · rfl
  · rfl
  · rfl
  · rfl
  · exact absurd rfl failed

theorem Holds.insertLocal (holds : t.Holds snaps) (snap : Snapshot) :
    (t.insertLocal snap {}).1.Holds (snaps ++ [scanRow snap.row]) := by
  let new : HistoryRow := ⟨t.nextID, snap.row⟩
  have ascending : (t.rows ++ [new]).Pairwise (·.id < ·.id) := by
    rw [List.pairwise_append]
    refine ⟨holds.ids, List.pairwise_singleton _ _, fun r member other last => ?_⟩
    cases List.mem_singleton.mp last
    exact holds.fresh r member
  have kept : (t.insertLocal snap {}).1.rows = newest historyDepth (t.rows ++ [new]) :=
    filter_greatest HistoryRow.id historyDepth ascending
  refine ⟨?_, fun r member => ?_, ?_⟩
  · rw [kept]
    exact ascending.drop
  · rw [kept] at member
    rcases List.mem_append.mp (List.mem_of_mem_drop member) with before | last
    · exact Nat.lt_succ_of_lt (holds.fresh r before)
    · cases List.mem_singleton.mp last
      exact Nat.lt_succ_self _
  · rw [kept, map_newest, List.map_append, holds.rows]
    exact newest_newest_append historyDepth snaps _

theorem holds_insertAll (calls : List (Snapshot × InsertFaults)) :
    (insertAll calls).Holds (recorded calls) := by
  induction calls using List.reverseRecOn with
  | nil => exact ⟨.nil, fun _ => List.not_mem_nil.elim, rfl⟩
  | append_singleton calls call ih =>
    obtain ⟨snap, faults⟩ := call
    have table : insertAll (calls ++ [(snap, faults)])
        = ((insertAll calls).insertLocal snap faults).1 := by
      rw [insertAll, List.foldl_append]
      rfl
    rw [table]
    by_cases clean : faults = {}
    · have one : recorded (calls ++ [(snap, faults)]) = recorded calls ++ [scanRow snap.row] := by
        simp [recorded, clean]
      rw [one, clean]
      exact ih.insertLocal snap
    · have none : recorded (calls ++ [(snap, faults)]) = recorded calls := by
        simp [recorded, clean]
      rw [none, insertLocal_failed clean]
      exact ih

theorem scanRow_le {a b : Snapshot} (before : a.capturedAt ≤ b.capturedAt) :
    (scanRow a).capturedAt ≤ (scanRow b).capturedAt := by
  simp only [scanRow, millisecond, microsecond]
  omega

/--
Whatever calls fail, the history is made of the last ten snapshots that were recorded, and the
latest is the last of them. The history is ordered by the times of capture, which is the order in
which they were recorded if these ascend.
-/
theorem history_window (calls : List (Snapshot × InsertFaults)) {rows : List HistoryRow}
    (found : rows.Perm (insertAll calls).rows) :
    (insertAll calls).localLatest = (recorded calls).getLast?.getD {} ∧
    (localHistory rows).Perm (newest historyDepth (recorded calls)) ∧
    (localHistory rows).Pairwise (·.capturedAt ≤ ·.capturedAt) ∧
    ((newest historyDepth (recorded calls)).Pairwise (·.capturedAt < ·.capturedAt) →
      localHistory rows = newest historyDepth (recorded calls)) := by
  have holds := holds_insertAll calls
  have kept : (localHistory rows).Perm (newest historyDepth (recorded calls)) := by
    rw [← holds.rows]
    exact ((List.mergeSort_perm _ _).trans found).map _
  have sorted : (localHistory rows).Pairwise (·.capturedAt ≤ ·.capturedAt) := by
    rw [localHistory, List.pairwise_map]
    refine (List.pairwise_mergeSort ?_ ?_ rows).imp fun before => ?_
    · simp only [decide_eq_true_eq]
      omega
    · simp only [Bool.or_eq_true, decide_eq_true_eq]
      omega
    · exact scanRow_le (of_decide_eq_true before)
  refine ⟨?_, kept, sorted, eq_of_ascending Snapshot.capturedAt kept sorted⟩
  rw [localLatest, mergeSort_of_ascending HistoryRow.id holds.ids, List.head?_reverse,
    ← List.getLast?_map, holds.rows, getLast?_newest (by decide)]

/-- Three calls, the second of which fails at the end of its transaction. -/
def threeCalls : List (Snapshot × InsertFaults) :=
  [({ capturedAt := 0 }, {}), ({ capturedAt := 5 * second }, { committed := some "disk full" }),
    ({ capturedAt := 10 * second }, {})]

theorem history_window_three : localHistory (insertAll threeCalls).rows.reverse
    = [{ capturedAt := 0 }, { capturedAt := 10 * second }] :=
  (history_window threeCalls (List.reverse_perm _)).2.2.2 (by decide)

end History

end Falak.Metrics
