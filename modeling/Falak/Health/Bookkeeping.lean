import Falak.Health.Record
import Falak.Lib.Reach

/-!
The quarantine timers and the status column of one cluster, under all who write to the phonebook.
-/

namespace Falak.Health

open Phonebook

namespace NodeRecord

variable (v : NodeRecord)

def quarantined : Bool := v.row.any (·.status = .quarantined)

def Coupled : Prop := v.timer.isSome = v.quarantined

def recordConnectionFailure (now : Int) (faults : ConnectionFaults) :
    NodeRecord :=
  let recorded := v.write faults.record (·.attempted now false)
  if faults.record.isSome then v
  else
    match recorded.read faults.query with
    | none => recorded
    | some row =>
      if maxConsecutiveFailsBeforeRemoval ≤ row.tracking.consecutiveFails then
        if faults.write.isSome then recorded else { recorded with row := none }
      else if maxConsecutiveFailsBeforeQuarantine ≤ row.tracking.consecutiveFails ∧
          row.status ≠ .quarantined then
        recorded.write faults.write (·.withStatus now .quarantined)
      else recorded

/-- A change of the score keeps the timer and the status together. -/
def CrossesWell (eff : EffectiveThresholds) (fault : Option String) (oldScore newScore : Rat) :
    Prop :=
  match crossing eff oldScore newScore with
  | .quarantine => fault = none ∨ v.quarantined = true
  | .suspected => fault ≠ none ∨ v.quarantined = false
  | .none => True

def DisconnectsWell (faults : ConnectionFaults) : Prop :=
  ∀ row ∈ v.row, faults = {} →
    let fails := row.tracking.consecutiveFails + 1
    if maxConsecutiveFailsBeforeRemoval ≤ fails then v.quarantined = false
    else maxConsecutiveFailsBeforeQuarantine ≤ fails → v.quarantined = true

variable {v : NodeRecord}

variable (now : Int) (score : Rat)

theorem quarantined_iff :
    v.quarantined = true ↔ ∃ row, v.row = some row ∧ row.status = .quarantined := by
  cases row : v.row <;> simp [quarantined, row]

theorem quarantined_write (change : Row → Row) (kept : ∀ row, (change row).status = row.status)
    (fault : Option String) : (v.write fault change).quarantined = v.quarantined := by
  unfold write
  split
  · rfl
  · simp [quarantined, kept, Option.any_map]

@[simp] theorem quarantined_withScore (fault : Option String) :
    (v.write fault (·.withScore now score)).quarantined = v.quarantined :=
  quarantined_write (·.withScore now score) (fun _ => rfl) fault

theorem quarantined_withStatus (fault : Option String) (status : NodeStatus) :
    (v.write fault (·.withStatus now status)).quarantined
      = if fault.isSome then v.quarantined else v.row.isSome && status = .quarantined := by
  unfold write
  split
  · rfl
  · cases v.row <;> simp [quarantined, Row.withStatus]

theorem coupled_checkThresholds (coupled : v.Coupled) (there : v.row.isSome)
    (eff : EffectiveThresholds) (now : Int) (fault : Option String) (oldScore newScore : Rat) :
    (v.checkThresholds eff now fault oldScore newScore).Coupled ↔
      v.CrossesWell eff fault oldScore newScore := by
  unfold checkThresholds CrossesWell
  cases crossing eff oldScore newScore with
  | quarantine =>
    have marked := quarantined_withStatus (v := v) now fault .quarantined
    cases fault <;> simp_all [Coupled, quarantined]
  | suspected =>
    -- The timer stays, whatever becomes of the status.
    have marked := quarantined_withStatus (v := v) now fault .suspected
    cases fault <;> simp_all [Coupled, quarantined]
  | none => simpa [Coupled] using coupled

theorem crossesWell_withScore (eff : EffectiveThresholds) (fault fault' : Option String)
    (oldScore newScore : Rat) :
    (v.write fault' (·.withScore now score)).CrossesWell eff fault oldScore newScore ↔
      v.CrossesWell eff fault oldScore newScore := by
  simp only [CrossesWell, quarantined_withScore]

theorem Coupled.withScore (coupled : v.Coupled) (now : Int) (score : Rat) (fault : Option String) :
    (v.write fault (·.withScore now score)).Coupled := by
  rw [Coupled, timer_write, quarantined_withScore]
  exact coupled

theorem coupled_recordFailure (coupled : v.Coupled) (increment : Rat) (eff : EffectiveThresholds)
    (now : Int) (faults : ScoreFaults) :
    (v.recordFailure increment eff now faults).Coupled ↔
      ∀ row ∈ v.read faults.get, faults.score = none →
        v.CrossesWell eff faults.status row.tracking.reliabilityScore
          (row.tracking.reliabilityScore + increment) := by
  unfold recordFailure
  cases got : v.read faults.get with
  | none => simp [coupled]
  | some row =>
    cases faults.score with
    | some err => simp [coupled]
    | none =>
      simp only [Option.isSome_none, Bool.false_eq_true, if_false, Option.mem_some, forall_eq',
        forall_const]
      rw [coupled_checkThresholds (coupled.withScore now _ none)
        (by simp [row_of_read got]), crossesWell_withScore]

theorem coupled_setScore (coupled : v.Coupled) (eff : EffectiveThresholds) (now : Int)
    (faults : ScoreFaults) (score : Rat) :
    (v.setScore eff now faults score).Coupled ↔
      ∀ row ∈ v.read faults.get,
        v.CrossesWell eff faults.status row.tracking.reliabilityScore score := by
  unfold setScore
  cases got : v.read faults.get with
  | none => simp [coupled]
  | some row =>
    simp only [Option.mem_some, forall_eq']
    rw [coupled_checkThresholds (coupled.withScore now _ _)
      (by simp [row_of_read got]), crossesWell_withScore]

theorem coupled_setAlive (faults : ScoreFaults) :
    (v.setAlive now faults).Coupled ↔ faults.status = none ∨ v.quarantined = false := by
  have marked : (v.setAlive now faults).quarantined = (faults.status.isSome && v.quarantined) := by
    have written := quarantined_withStatus (v := v.write faults.score (·.withScore now 0)) now
      faults.status .active
    refine written.trans ?_
    cases faults.status <;> simp
  -- The timer is removed in any case.
  show false = _ ↔ _
  rw [marked]
  cases faults.status with
  | none => simp
  | some err => simp only [Option.isSome_some, Bool.true_and, reduceCtorEq, false_or, eq_comm]

theorem Coupled.recordSuccess (coupled : v.Coupled) (now : Int) (faults : ScoreFaults) :
    (v.recordSuccess now faults).Coupled := by
  unfold NodeRecord.recordSuccess
  split
  · exact coupled
  · split_ifs with score status
    · exact coupled
    · exact coupled.withScore now 0 none
    · have marked := quarantined_withStatus (v := v.write none (·.withScore now 0)) now none .active
      simp_all [Coupled, quarantined]

theorem Coupled.expire (coupled : v.Coupled) (timeout now : Int) (fault : Option String) :
    (v.expire timeout now fault).Coupled := by
  unfold NodeRecord.expire
  split
  · cases row : v.row <;> simp [Coupled, fail, quarantined, Row.withStatus, row]
  · exact coupled

theorem coupled_replace (coupled : v.Coupled) (row : Option Row) :
    Coupled ⟨row, v.timer⟩ ↔ v.quarantined = row.any (·.status = .quarantined) := by
  rw [← coupled]
  exact Iff.rfl

theorem Coupled.quarantined_of_expired {timeout now : Int} (coupled : v.Coupled)
    (expired : v.Expired timeout now) : v.quarantined = true := by
  obtain ⟨start, timer, -⟩ := expired
  rw [← coupled, Option.mem_def.mp timer]
  rfl

theorem coupled_recordConnectionFailure (coupled : v.Coupled) (now : Int)
    (faults : ConnectionFaults) :
    (v.recordConnectionFailure now faults).Coupled ↔ v.DisconnectsWell faults := by
  obtain ⟨row, timer⟩ := v
  cases row with
  | none =>
    refine iff_of_true ?_ (by simp [DisconnectsWell])
    cases faults.record <;> cases faults.query <;>
      simpa [recordConnectionFailure, write, read] using coupled
  | some row =>
    obtain ⟨record, query, statement⟩ := faults
    have kept : Coupled ⟨some (row.attempted now false), timer⟩ := coupled
    have fails : (row.attempted now false).tracking.consecutiveFails
        = row.tracking.consecutiveFails + 1 := rfl
    have status : (row.attempted now false).status = row.status := rfl
    cases record with
    | some err => simpa [recordConnectionFailure, DisconnectsWell] using coupled
    | none =>
      cases query with
      | some err => simpa [recordConnectionFailure, DisconnectsWell, write, read] using kept
      | none =>
        cases statement with
        | some err =>
          -- The decision is made, and not carried out.
          refine iff_of_true ?_ (by simp [DisconnectsWell])
          simp only [recordConnectionFailure, write, read, Option.isSome_none, Option.isSome_some,
            Bool.false_eq_true, if_false, if_true, Option.map_some]
          split_ifs <;> exact kept
        | none =>
          simp only [recordConnectionFailure, DisconnectsWell, write, read, Option.isSome_none,
            Bool.false_eq_true, if_false, Option.map_some, Option.mem_some, forall_eq', fails,
            status, forall_const]
          split_ifs with removed quarantined
          · -- The row goes, and the timer stays.
            rw [← coupled]
            simp [Coupled, NodeRecord.quarantined]
          · -- The status is set, and the timer is not.
            rw [← coupled]
            simp [Coupled, NodeRecord.quarantined, Row.withStatus, quarantined.1]
          · refine iff_of_true kept fun many => ?_
            have held : row.status = .quarantined := by
              by_contra apart
              exact quarantined ⟨many, apart⟩
            simp [NodeRecord.quarantined, held]

theorem limit_of_recordConnectionFailure {now : Int} {faults : ConnectionFaults} {row : Row}
    (there : v.row = some row) (gone : (v.recordConnectionFailure now faults).row = none) :
    faults = {} ∧ maxConsecutiveFailsBeforeRemoval ≤ row.tracking.consecutiveFails + 1 := by
  obtain ⟨record, query, statement⟩ := faults
  have fails : (row.attempted now false).tracking.consecutiveFails
      = row.tracking.consecutiveFails + 1 := rfl
  -- With an error anywhere the row stays.
  cases record with
  | some err => simp [recordConnectionFailure, there] at gone
  | none =>
    cases query with
    | some err => simp [recordConnectionFailure, write, read, there] at gone
    | none =>
      simp only [recordConnectionFailure, write, read, there, Option.isSome_none,
        Bool.false_eq_true, if_false, Option.map_some, fails] at gone
      by_cases limit : maxConsecutiveFailsBeforeRemoval ≤ row.tracking.consecutiveFails + 1
      · cases statement with
        | some err => simp [limit] at gone
        | none => exact ⟨rfl, limit⟩
      · rw [if_neg limit] at gone
        split_ifs at gone

end NodeRecord

namespace Tracked

variable {clusterPath : String} {s : Tracked} {now : Int}

theorem record_erase_row (nodeID : String) :
    record clusterPath ⟨s.book.erase (nodeID, clusterPath), s.quarantineTimers⟩ nodeID
      = { s.record clusterPath nodeID with row := none } := by
  simp [record, Book.get_erase]

theorem record_erase_row_of_ne {nodeID m : String} (apart : m ≠ nodeID) :
    record clusterPath ⟨s.book.erase (nodeID, clusterPath), s.quarantineTimers⟩ m
      = s.record clusterPath m := by
  simp [record, Book.get_erase, apart]

theorem record_recordConnectionFailure (faults : ConnectionFaults) (nodeID : String) :
    record clusterPath
        ⟨recordConnectionFailure s.book now faults nodeID clusterPath, s.quarantineTimers⟩ nodeID
      = (s.record clusterPath nodeID).recordConnectionFailure now faults := by
  obtain ⟨attempt, query, statement⟩ := faults
  cases attempt with
  | some err => rfl
  | none =>
    let after : Tracked :=
      ⟨s.book.modifyRow nodeID clusterPath (·.attempted now false), s.quarantineTimers⟩
    have recorded : record clusterPath after nodeID
        = (s.record clusterPath nodeID).write none (·.attempted now false) :=
      record_modifyRow_self nodeID _
    have same : after.book.read query nodeID clusterPath
        = ((s.record clusterPath nodeID).write none (·.attempted now false)).read query := by
      rw [← recorded]
      rfl
    simp only [recordConnectionFailure, Book.recordConnectionAttempt, Book.exec,
      NodeRecord.recordConnectionFailure, Option.isSome_none, Bool.false_eq_true, if_false]
    rw [same, ← recorded]
    cases NodeRecord.read _ query with
    | none => rfl
    | some row =>
      cases statement with
      | some err =>
        simp only [Book.remove, Book.setStatus, Book.exec, Option.isSome_some, if_true,
          NodeRecord.write]
        split_ifs <;> rfl
      | none =>
        simp only [Option.isSome_none, Bool.false_eq_true, if_false]
        split_ifs
        · exact record_erase_row (s := after) nodeID
        · exact record_modifyRow_self (s := after) nodeID _
        · rfl

theorem record_recordConnectionFailure_of_ne {nodeID m : String} (apart : m ≠ nodeID)
    (faults : ConnectionFaults) :
    record clusterPath
        ⟨recordConnectionFailure s.book now faults nodeID clusterPath, s.quarantineTimers⟩ m
      = s.record clusterPath m := by
  obtain ⟨attempt, query, statement⟩ := faults
  cases attempt with
  | some err => rfl
  | none =>
    have recorded : record clusterPath
        ⟨s.book.modifyRow nodeID clusterPath (·.attempted now false), s.quarantineTimers⟩ m
          = s.record clusterPath m := record_modifyRow_of_ne apart _
    simp only [recordConnectionFailure, Book.recordConnectionAttempt, Book.exec]
    split
    · exact recorded
    · cases statement with
      | some err => split_ifs <;> exact recorded
      | none =>
        split_ifs
        · exact (record_erase_row_of_ne apart).trans recorded
        · exact (record_modifyRow_of_ne apart _).trans recorded
        · exact recorded

theorem record_insert_row (nodeID : String) (row : Row) :
    record clusterPath ⟨s.book.insert (nodeID, clusterPath) row, s.quarantineTimers⟩ nodeID
      = ⟨some row, (s.record clusterPath nodeID).timer⟩ := by
  simp [record]

theorem record_insert_row_of_ne {nodeID path m : String} (apart : (m, clusterPath) ≠ (nodeID, path))
    (row : Row) :
    record clusterPath ⟨s.book.insert (nodeID, path) row, s.quarantineTimers⟩ m
      = s.record clusterPath m := by
  simp only [record, Book.get_insert, if_neg apart]

end Tracked

namespace Quarantine

structure Cluster where
  tracked : Tracked
  failed : List String

inductive Action
  | recordFailure (now : Int) (faults : ScoreFaults) (nodeID reason : String)
  | recordSuccess (now : Int) (faults : ScoreFaults) (nodeID reason : String)
  | setScore (now : Int) (faults : ScoreFaults) (nodeID : String) (score : Rat) (alive : Bool)
    (reason : String)
  | checkQuarantineTimeouts (now : Int) (faults : CheckFaults)
  | removeFailed (fault : Option String) (nodeID : String)
  | processMember (now : Int) (faults : Faults) (m : MemberInfo)
  | recordConnectionFailure (now : Int) (faults : ConnectionFaults) (nodeID : String)
  | addOrUpdateEntry (now : Int) (faults : Faults) (m : Member)

variable (cfg : ScoreConfig) (clusterPath : String)

variable (s : Cluster)

def Cluster.rewrite (book : Book) : Cluster :=
  { s with tracked := { s.tracked with book := book } }

def step : Action → Option Cluster
  | .recordFailure now faults nodeID reason =>
    some
      { s with tracked := (s.tracked.recordFailure cfg clusterPath now faults nodeID reason).state }
  | .recordSuccess now faults nodeID reason =>
    some { s with tracked := (s.tracked.recordSuccess clusterPath now faults nodeID reason).state }
  | .setScore now faults nodeID score alive reason =>
    some { s with
      tracked := (s.tracked.setScore cfg clusterPath now faults nodeID score alive reason).state }
  | .checkQuarantineTimeouts now faults =>
    let checked := s.tracked.checkQuarantineTimeouts cfg clusterPath now faults
    some ⟨checked.state, s.failed ++ checked.result⟩
  | .removeFailed fault nodeID =>
    if nodeID ∈ s.failed then
      let book := (s.tracked.book.remove fault nodeID clusterPath).toOption.getD s.tracked.book
      some { s.rewrite book with failed := s.failed.erase nodeID }
    else none
  | .processMember now faults m =>
    match processMember s.tracked.book now faults clusterPath m with
    | .ok (_, book) => some (s.rewrite book)
    | .error _ => some s
  | .recordConnectionFailure now faults nodeID =>
    some (s.rewrite (recordConnectionFailure s.tracked.book now faults nodeID clusterPath))
  | .addOrUpdateEntry now faults m =>
    some (s.rewrite (addOrUpdateEntry s.tracked.book now faults m))

def Coupled : Prop := ∀ nodeID, (s.tracked.record clusterPath nodeID).Coupled

def Careful : Action → Prop
  | .recordFailure _ faults nodeID _ =>
    let v := s.tracked.record clusterPath nodeID
    ∀ row ∈ v.read faults.get, faults.score = none →
      v.CrossesWell (s.tracked.effective cfg clusterPath faults.cluster) faults.status
        row.tracking.reliabilityScore (row.tracking.reliabilityScore + cfg.scoreIncrement)
  | .setScore _ faults nodeID score alive _ =>
    let v := s.tracked.record clusterPath nodeID
    if alive then faults.status = none ∨ v.quarantined = false
    else
      ∀ row ∈ v.read faults.get,
        v.CrossesWell (s.tracked.effective cfg clusterPath faults.cluster) faults.status
          row.tracking.reliabilityScore score
  | .recordSuccess .. | .checkQuarantineTimeouts .. => True
  | .removeFailed fault nodeID =>
    fault ≠ none ∨ (s.tracked.record clusterPath nodeID).quarantined = false
  | .processMember _ faults m =>
    faults = {} → (m.status = "quarantined" ↔
      (s.tracked.record clusterPath m.nodeID).quarantined = true)
  | .recordConnectionFailure _ faults nodeID =>
    (s.tracked.record clusterPath nodeID).DisconnectsWell faults
  | .addOrUpdateEntry _ faults m =>
    m.clusterPath = clusterPath →
      faults.Lose (s.tracked.book.get m.nodeID clusterPath).isSome ∨
        (s.tracked.record clusterPath m.nodeID).quarantined = false

variable {cfg clusterPath}

theorem coupled_iff {s s' : Cluster} (coupled : Coupled clusterPath s) {nodeID : String}
    (others : ∀ m, m ≠ nodeID → s'.tracked.record clusterPath m = s.tracked.record clusterPath m) :
    Coupled clusterPath s' ↔ (s'.tracked.record clusterPath nodeID).Coupled := by
  refine ⟨fun all => all nodeID, fun own m => ?_⟩
  by_cases same : m = nodeID
  · rw [same]
    exact own
  · rw [others m same]
    exact coupled m

theorem written_quarantined (m : MemberInfo) (now : Int) (old : Option Row) :
    ((m.entry clusterPath).written now old).status = .quarantined ↔ m.status = "quarantined" := by
  cases old <;> simp only [Entry.written, Entry.added, Entry.updated, Entry.row, MemberInfo.entry]
  · split_ifs <;> simp_all
  · split_ifs <;> simp_all

theorem written_active (m : Member) (now : Int) (old : Option Row) :
    ((m.entry now).written now old).status = .active := by
  cases old <;> rfl

theorem coupled_step_iff {s s' : Cluster} {a : Action} (coupled : Coupled clusterPath s)
    (taken : step cfg clusterPath s a = some s') :
    Coupled clusterPath s' ↔ Careful cfg clusterPath s a := by
  cases a with
  | recordFailure now faults nodeID reason =>
    cases taken
    rw [coupled_iff coupled fun m apart => Tracked.record_recordFailure_of_ne apart faults reason]
    rw [Tracked.record_recordFailure]
    exact NodeRecord.coupled_recordFailure (coupled nodeID) ..
  | recordSuccess now faults nodeID reason =>
    cases taken
    rw [coupled_iff coupled fun m apart => Tracked.record_recordSuccess_of_ne apart faults reason]
    rw [Tracked.record_recordSuccess]
    exact iff_of_true ((coupled nodeID).recordSuccess now faults) trivial
  | setScore now faults nodeID score alive reason =>
    cases taken
    rw [coupled_iff coupled fun m apart =>
      Tracked.record_setScore_of_ne apart faults reason score alive]
    cases alive with
    | true =>
      rw [Tracked.record_setScore_alive]
      exact NodeRecord.coupled_setAlive now faults
    | false =>
      rw [Tracked.record_setScore]
      exact NodeRecord.coupled_setScore (coupled nodeID) ..
  | checkQuarantineTimeouts now faults =>
    cases taken
    refine iff_of_true (fun m => ?_) trivial
    rw [Tracked.record_checkQuarantineTimeouts]
    exact (coupled m).expire ..
  | removeFailed fault nodeID =>
    simp only [step] at taken
    split at taken
    · cases taken
      cases fault with
      | some err => exact iff_of_true coupled (.inl nofun)
      | none =>
        -- The row goes, and the timer stays.
        rw [coupled_iff coupled fun m apart => Tracked.record_erase_row_of_ne apart]
        have gone : Tracked.record clusterPath
            ⟨s.tracked.book.erase (nodeID, clusterPath), s.tracked.quarantineTimers⟩ nodeID
              = ⟨none, (s.tracked.record clusterPath nodeID).timer⟩ :=
            Tracked.record_erase_row nodeID
        refine (Iff.of_eq (congrArg NodeRecord.Coupled gone)).trans ?_
        rw [NodeRecord.coupled_replace (coupled nodeID)]
        simp [Careful]
    · cases taken
  | processMember now faults m =>
    simp only [step] at taken
    split at taken
    · rename_i new book processed
      cases taken
      obtain ⟨rfl, rfl⟩ := processMember_ok processed
      rw [coupled_iff coupled fun n apart =>
        Tracked.record_insert_row_of_ne (fun same => apart (Prod.mk.inj same).1) _]
      refine (Iff.of_eq (congrArg NodeRecord.Coupled
        (Tracked.record_insert_row m.nodeID _))).trans ?_
      rw [NodeRecord.coupled_replace (coupled m.nodeID)]
      simp only [Careful, forall_const, Option.any_some, written_quarantined]
      rw [eq_comm, Bool.eq_iff_iff, decide_eq_true_eq]
    · rename_i err refused
      cases taken
      refine iff_of_true coupled ?_
      rintro rfl
      obtain ⟨result, processed⟩ := processMember_total s.tracked.book now clusterPath m
      rw [processed] at refused
      cases refused
  | recordConnectionFailure now faults nodeID =>
    cases taken
    rw [coupled_iff coupled fun m apart =>
      Tracked.record_recordConnectionFailure_of_ne apart faults]
    refine (Iff.of_eq (congrArg NodeRecord.Coupled ?_)).trans
      (NodeRecord.coupled_recordConnectionFailure (coupled nodeID) now faults)
    exact Tracked.record_recordConnectionFailure faults nodeID
  | addOrUpdateEntry now faults m =>
    cases taken
    simp only [Cluster.rewrite, addOrUpdateEntry_eq, Careful]
    split
    · -- The write is lost.
      rename_i lost
      refine iff_of_true coupled fun here => .inl ?_
      rw [← here]
      exact lost
    · rename_i kept
      by_cases here : m.clusterPath = clusterPath
      · subst here
        rw [coupled_iff coupled fun n apart =>
          Tracked.record_insert_row_of_ne (fun same => apart (Prod.mk.inj same).1) _]
        refine (Iff.of_eq
          (congrArg NodeRecord.Coupled (Tracked.record_insert_row m.nodeID _))).trans ?_
        rw [NodeRecord.coupled_replace (coupled m.nodeID)]
        simp [written_active, kept]
      · -- The row belongs to another cluster.
        refine iff_of_true (fun n => ?_) fun same => absurd same here
        rw [Tracked.record_insert_row_of_ne fun same => here (Prod.mk.inj same).2.symm]
        exact coupled n

theorem coupled_iff_mem {s : Tracked} {nodeID : String} :
    (s.record clusterPath nodeID).Coupled ↔
      (nodeID ∈ s.quarantineTimers ↔
        ∃ row, s.book.get nodeID clusterPath = some row ∧ row.status = .quarantined) := by
  rw [NodeRecord.Coupled, Bool.eq_iff_iff, NodeRecord.quarantined_iff, ← AList.lookup_isSome]
  rfl

def knownPeer : Row :=
  { publicKey := []
    addresses := []
    region := "r"
    datacenter := "d"
    capabilities := none
    firstSeen := 0
    lastSeen := 0
    updatedAt := 0
    tracking := {}
    status := .active }

def onePeer : Book := AList.insert ("node-x", "r/d/c") knownPeer ∅

def threePeers : Book :=
  (onePeer.insert ("node-y", "r/d/c") knownPeer).insert ("node-z", "r/d/c") knownPeer

def rejoin : List Action :=
  [.setScore 0 {} "node-x" 10 false "direct_ping_fail",
    .addOrUpdateEntry second {} ⟨"node-x", "r/d/c", [], [], none⟩]

end Quarantine

end Falak.Health
