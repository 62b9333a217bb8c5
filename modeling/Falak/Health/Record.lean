import Falak.Health.Score
import Mathlib.Data.List.Count

/-! What a tracker knows about one node, and how each call changes it. -/

namespace Falak.Health

open Phonebook

structure NodeRecord where
  row : Option Row
  timer : Option Int

namespace NodeRecord

variable (v : NodeRecord) (timeout : Int) (eff : EffectiveThresholds) (now : Int)
  (fault : Option String) (change : Row → Row)

def read : Option Row :=
  if fault.isSome then none else v.row

def write : NodeRecord :=
  if fault.isSome then v else { v with row := v.row.map change }

def checkThresholds (oldScore newScore : Rat) : NodeRecord :=
  match crossing eff oldScore newScore with
  | .quarantine => { v.write fault (·.withStatus now .quarantined) with timer := some now }
  | .suspected => v.write fault (·.withStatus now .suspected)
  | .none => v

def recordFailure (increment : Rat) (eff : EffectiveThresholds) (now : Int) (faults : ScoreFaults) :
    NodeRecord :=
  match v.read faults.get with
  | none => v
  | some row =>
    let oldScore := row.tracking.reliabilityScore
    if faults.score.isSome then v
    else
      (v.write none (·.withScore now (oldScore + increment))).checkThresholds eff now faults.status
        oldScore (oldScore + increment)

def recordSuccess (faults : ScoreFaults) : NodeRecord :=
  match v.read faults.get with
  | none => v
  | some _ =>
    let scored := v.write none (·.withScore now 0)
    if faults.score.isSome then v
    else if faults.status.isSome then scored
    else { scored.write none (·.withStatus now .active) with timer := none }

def setAlive (faults : ScoreFaults) : NodeRecord :=
  { (v.write faults.score (·.withScore now 0)).write faults.status (·.withStatus now .active) with
    timer := none }

def setScore (faults : ScoreFaults) (score : Rat) : NodeRecord :=
  match v.read faults.get with
  | none => v
  | some row =>
    (v.write faults.score (·.withScore now score)).checkThresholds eff now faults.status
      row.tracking.reliabilityScore score

def Expired : Prop := ∃ at_ ∈ v.timer, timeout < now - at_

instance (v : NodeRecord) (timeout now : Int) : Decidable (v.Expired timeout now) :=
  inferInstanceAs (Decidable (∃ at_ ∈ v.timer, _))

def fail : NodeRecord := ⟨v.row.map (·.withStatus now .failed), none⟩

def expire : NodeRecord :=
  if v.Expired timeout now ∧ fault = none then v.fail now else v

@[simp] theorem timer_write :
    (v.write fault change).timer = v.timer := by
  unfold write
  split <;> rfl

@[simp] theorem isSome_write :
    (v.write fault change).row.isSome = v.row.isSome := by
  unfold write
  split <;> simp

@[simp] theorem isSome_checkThresholds (oldScore newScore : Rat) :
    (v.checkThresholds eff now fault oldScore newScore).row.isSome = v.row.isSome := by
  cases crossed : crossing eff oldScore newScore <;> simp [checkThresholds, crossed]

@[simp] theorem isSome_recordFailure (increment : Rat) (eff : EffectiveThresholds) (now : Int)
    (faults : ScoreFaults) :
    (v.recordFailure increment eff now faults).row.isSome = v.row.isSome := by
  unfold recordFailure
  cases v.read faults.get with
  | none => rfl
  | some row => cases faults.score <;> simp

@[simp] theorem isSome_recordSuccess (faults : ScoreFaults) :
    (v.recordSuccess now faults).row.isSome = v.row.isSome := by
  unfold recordSuccess
  split
  · rfl
  · -- The score is written first, and then the status.
    simp only
    split
    · rfl
    · split <;> simp

@[simp] theorem isSome_setScore (faults : ScoreFaults) (score : Rat) :
    (v.setScore eff now faults score).row.isSome = v.row.isSome := by
  unfold setScore
  cases v.read faults.get <;> simp

@[simp] theorem isSome_setAlive (faults : ScoreFaults) :
    (v.setAlive now faults).row.isSome = v.row.isSome := by
  simp [setAlive]

@[simp] theorem isSome_expire :
    (v.expire timeout now fault).row.isSome = v.row.isSome := by
  unfold expire
  split <;> simp [fail]

theorem row_of_read {v : NodeRecord} {fault : Option String} {row : Row}
    (got : v.read fault = some row) : v.row = some row := by
  unfold read at got
  split at got
  · cases got
  · exact got

theorem fail_fail : (v.fail now).fail now = v.fail now := by
  simp only [fail, Option.map_map]
  rfl

end NodeRecord

namespace Tracked

variable {cfg : ScoreConfig} {clusterPath : String} {s : Tracked} {now : Int}

def record (clusterPath : String) (s : Tracked) (nodeID : String) : NodeRecord :=
  ⟨s.book.get nodeID clusterPath, s.quarantineTimers.lookup nodeID⟩

theorem record_modifyRow_self (nodeID : String) (change : Row → Row) :
    record clusterPath ⟨s.book.modifyRow nodeID clusterPath change, s.quarantineTimers⟩ nodeID
      = (s.record clusterPath nodeID).write none change := by
  simp [record, Book.get_modifyRow, NodeRecord.write]

variable {nodeID m : String} {timeout : Int} {faults : CheckFaults} {acc : Tracked × List String}
  {timer : Sigma fun _ : String => Int}

theorem record_modifyRow_of_ne (apart : m ≠ nodeID) (change : Row → Row) :
    record clusterPath ⟨s.book.modifyRow nodeID clusterPath change, s.quarantineTimers⟩ m
      = s.record clusterPath m := by
  simp [record, Book.get_modifyRow, apart]

theorem record_insert_of_ne (apart : m ≠ nodeID) (start : Int) :
    record clusterPath ⟨s.book, s.quarantineTimers.insert nodeID start⟩ m
      = s.record clusterPath m := by
  simp [record, AList.lookup_insert_ne apart]

theorem record_erase_of_ne (apart : m ≠ nodeID) :
    record clusterPath ⟨s.book, s.quarantineTimers.erase nodeID⟩ m = s.record clusterPath m := by
  simp [record, AList.lookup_erase_ne apart]

theorem record_trySetStatus (fault : Option String) (nodeID : String) (status : NodeStatus) :
    record clusterPath (s.trySetStatus clusterPath now fault nodeID status) nodeID
      = (s.record clusterPath nodeID).write fault (·.withStatus now status) := by
  cases fault with
  | some err => rfl
  | none => exact record_modifyRow_self nodeID _

theorem record_trySetStatus_of_ne (apart : m ≠ nodeID) (fault : Option String)
    (status : NodeStatus) :
    record clusterPath (s.trySetStatus clusterPath now fault nodeID status) m
      = s.record clusterPath m := by
  cases fault with
  | some err => rfl
  | none => exact record_modifyRow_of_ne apart _

theorem record_checkThresholds (faults : ScoreFaults) (nodeID reason : String)
    (oldScore newScore : Rat) :
    record clusterPath
        (s.checkThresholds cfg clusterPath now faults nodeID oldScore newScore reason).1 nodeID
      = (s.record clusterPath nodeID).checkThresholds (s.effective cfg clusterPath faults.cluster)
          now faults.status oldScore newScore := by
  cases crossed : crossing (s.effective cfg clusterPath faults.cluster) oldScore newScore with
  | quarantine =>
    -- The timer is set next to the row.
    simp only [checkThresholds, NodeRecord.checkThresholds, crossed]
    rw [← record_trySetStatus]
    simp [record]
  | suspected =>
    simp only [checkThresholds, NodeRecord.checkThresholds, crossed]
    exact record_trySetStatus faults.status nodeID .suspected
  | none => simp only [checkThresholds, NodeRecord.checkThresholds, crossed]

theorem record_checkThresholds_of_ne (apart : m ≠ nodeID) (faults : ScoreFaults) (reason : String)
    (oldScore newScore : Rat) :
    record clusterPath
        (s.checkThresholds cfg clusterPath now faults nodeID oldScore newScore reason).1 m
      = s.record clusterPath m := by
  unfold checkThresholds
  split
  · exact (record_insert_of_ne apart now).trans (record_trySetStatus_of_ne apart _ _)
  · exact record_trySetStatus_of_ne apart _ _
  · rfl

theorem effective_modifyRow (nodeID : String) (change : Row → Row) (fault : Option String)
    (timers : AList fun _ : String => Int) :
    effective cfg clusterPath ⟨s.book.modifyRow nodeID clusterPath change, timers⟩ fault
      = s.effective cfg clusterPath fault := by
  simp [effective, clusterSize, Book.length_getByCluster_modifyRow]

-- The tracker and the record read the same row.
theorem read_eq_record (fault : Option String) (nodeID : String) :
    s.book.read fault nodeID clusterPath = (s.record clusterPath nodeID).read fault := rfl

theorem record_recordFailure (faults : ScoreFaults) (nodeID reason : String) :
    record clusterPath (s.recordFailure cfg clusterPath now faults nodeID reason).state nodeID
      = (s.record clusterPath nodeID).recordFailure cfg.scoreIncrement
          (s.effective cfg clusterPath faults.cluster) now faults := by
  unfold recordFailure NodeRecord.recordFailure
  rw [read_eq_record]
  cases (s.record clusterPath nodeID).read faults.get with
  | none => rfl
  | some row =>
    cases fault : faults.score with
    | some err => simp [Book.setReliabilityScore, Book.exec]
    | none =>
      simp only [Book.setReliabilityScore, Book.exec, Option.isSome_none, Bool.false_eq_true,
        if_false]
      rw [record_checkThresholds, effective_modifyRow, record_modifyRow_self]

theorem record_recordFailure_of_ne (apart : m ≠ nodeID) (faults : ScoreFaults) (reason : String) :
    record clusterPath (s.recordFailure cfg clusterPath now faults nodeID reason).state m
      = s.record clusterPath m := by
  unfold recordFailure
  split
  · rfl
  · cases fault : faults.score with
    | some err => rfl
    | none =>
      exact (record_checkThresholds_of_ne apart ..).trans (record_modifyRow_of_ne apart _)

theorem record_recordSuccess (faults : ScoreFaults) (nodeID reason : String) :
    record clusterPath (s.recordSuccess clusterPath now faults nodeID reason).state nodeID
      = (s.record clusterPath nodeID).recordSuccess now faults := by
  unfold recordSuccess NodeRecord.recordSuccess
  rw [read_eq_record]
  cases (s.record clusterPath nodeID).read faults.get with
  | none => rfl
  | some row =>
    cases score : faults.score with
    | some err => simp [Book.setReliabilityScore, Book.exec]
    | none =>
      cases status : faults.status with
      | some err =>
        exact record_modifyRow_self nodeID _
      | none =>
        simp only [Book.setReliabilityScore, Book.setStatus, Book.exec, Option.isSome_none,
          Bool.false_eq_true, if_false]
        rw [← record_modifyRow_self, ← record_modifyRow_self]
        simp [record]

theorem record_recordSuccess_of_ne (apart : m ≠ nodeID) (faults : ScoreFaults) (reason : String) :
    record clusterPath (s.recordSuccess clusterPath now faults nodeID reason).state m
      = s.record clusterPath m := by
  unfold recordSuccess
  split
  · rfl
  · cases score : faults.score with
    | some err => rfl
    | none =>
      have scored : record clusterPath
          ⟨s.book.modifyRow nodeID clusterPath (·.withScore now 0), s.quarantineTimers⟩ m
            = s.record clusterPath m := record_modifyRow_of_ne apart _
      cases status : faults.status with
      | some err => exact scored
      | none =>
        exact (record_erase_of_ne apart).trans ((record_modifyRow_of_ne apart _).trans scored)

theorem record_setScore_alive (faults : ScoreFaults) (nodeID reason : String) (score : Rat) :
    record clusterPath (s.setScore cfg clusterPath now faults nodeID score true reason).state nodeID
      = (s.record clusterPath nodeID).setAlive now faults := by
  cases written : faults.score <;> cases marked : faults.status <;>
    simp [setScore, trySetStatus, Book.setReliabilityScore, Book.setStatus, Book.exec,
      Except.toOption, NodeRecord.setAlive, NodeRecord.write, written, marked, record,
      Book.get_modifyRow]

theorem record_setScore (faults : ScoreFaults) (nodeID reason : String) (score : Rat) :
    record clusterPath
        (s.setScore cfg clusterPath now faults nodeID score false reason).state nodeID
      = (s.record clusterPath nodeID).setScore (s.effective cfg clusterPath faults.cluster) now
          faults score := by
  simp only [setScore, NodeRecord.setScore, Bool.false_eq_true, if_false]
  rw [read_eq_record]
  cases (s.record clusterPath nodeID).read faults.get with
  | none => rfl
  | some row =>
    simp only [record_checkThresholds, Book.setReliabilityScore, Book.exec_getD]
    cases faults.score with
    | some err => rfl
    | none =>
      simp only [Option.isSome_none, Bool.false_eq_true, if_false, effective_modifyRow]
      rw [record_modifyRow_self]

theorem record_setScore_of_ne (apart : m ≠ nodeID) (faults : ScoreFaults) (reason : String)
    (score : Rat) (alive : Bool) :
    record clusterPath (s.setScore cfg clusterPath now faults nodeID score alive reason).state m
      = s.record clusterPath m := by
  -- The score is written before anything else.
  have scored (value : Rat) : record clusterPath
      { s with
        book := (s.book.setReliabilityScore now faults.score nodeID clusterPath value).toOption.getD
          s.book } m = s.record clusterPath m := by
    cases faults.score with
    | some err => rfl
    | none => exact record_modifyRow_of_ne apart _
  unfold setScore
  cases alive with
  | true =>
    exact (record_erase_of_ne apart).trans ((record_trySetStatus_of_ne apart _ _).trans (scored 0))
  | false =>
    simp only [Bool.false_eq_true, if_false]
    split
    · rfl
    · exact (record_checkThresholds_of_ne apart ..).trans (scored score)

def Due (timeout now : Int) (faults : CheckFaults) (timer : Sigma fun _ : String => Int) : Prop :=
  timeout < now - timer.2 ∧ faults.status timer.1 = none

instance (timeout now : Int) (faults : CheckFaults) (timer : Sigma fun _ : String => Int) :
    Decidable (Due timeout now faults timer) :=
  inferInstanceAs (Decidable (_ ∧ _))

theorem expire_of_not_due (early : ¬ Due timeout now faults timer) :
    expire clusterPath now timeout faults acc timer = acc := by
  unfold expire
  split
  · rfl
  · rename_i late
    have refused : faults.status timer.1 ≠ none := fun fine => early ⟨by omega, fine⟩
    obtain ⟨err, fault⟩ := Option.ne_none_iff_exists'.mp refused
    simp [Book.setStatus, Book.exec, fault]

theorem expire_of_due (due : Due timeout now faults timer) :
    expire clusterPath now timeout faults acc timer
      = (⟨acc.1.book.modifyRow timer.1 clusterPath (·.withStatus now .failed),
          acc.1.quarantineTimers.erase timer.1⟩, acc.2 ++ [timer.1]) := by
  have late : ¬ now - timer.2 ≤ timeout := by
    have := due.1
    omega
  simp [expire, late, Book.setStatus, Book.exec, due.2]

theorem record_fail_self (nodeID : String) :
    record clusterPath
        ⟨s.book.modifyRow nodeID clusterPath (·.withStatus now .failed),
          s.quarantineTimers.erase nodeID⟩ nodeID
      = (s.record clusterPath nodeID).fail now := by
  simp [record, Book.get_modifyRow, NodeRecord.fail]

theorem record_fail_of_ne (apart : m ≠ nodeID) :
    record clusterPath
        ⟨s.book.modifyRow nodeID clusterPath (·.withStatus now .failed),
          s.quarantineTimers.erase nodeID⟩ m
      = s.record clusterPath m :=
  (record_erase_of_ne apart).trans (record_modifyRow_of_ne apart _)

variable (clusterPath now) in
theorem foldl_expire (timeout : Int) (faults : CheckFaults)
    (timers : List (Sigma fun _ : String => Int)) (acc : Tracked × List String) :
    let due := (timers.filter (Due timeout now faults ·)).map Sigma.fst
    let after := timers.foldl (expire clusterPath now timeout faults) acc
    after.2 = acc.2 ++ due ∧
      ∀ m, (m ∈ due → record clusterPath after.1 m = (record clusterPath acc.1 m).fail now) ∧
        (m ∉ due → record clusterPath after.1 m = record clusterPath acc.1 m) := by
  induction timers generalizing acc with
  | nil => simp
  | cons timer rest ih =>
    simp only [List.foldl_cons]
    by_cases due : Due timeout now faults timer
    · rw [List.filter_cons_of_pos (by simpa using due), List.map_cons, expire_of_due due]
      obtain ⟨failed, records⟩ := ih _
      refine ⟨by rw [failed, List.append_assoc, List.singleton_append], fun m => ?_⟩
      obtain ⟨marked, kept⟩ := records m
      rw [List.mem_cons]
      by_cases same : m = timer.1
      · subst same
        refine ⟨fun _ => ?_, fun apart => absurd (.inl rfl) apart⟩
        by_cases again : timer.1 ∈ (rest.filter (Due timeout now faults ·)).map Sigma.fst
        · rw [marked again, record_fail_self, NodeRecord.fail_fail]
        · rw [kept again, record_fail_self]
      · rw [record_fail_of_ne same] at marked kept
        exact ⟨fun there => marked (there.resolve_left same), fun apart => kept fun there =>
          apart (.inr there)⟩
    · rw [List.filter_cons_of_neg (by simpa using due), expire_of_not_due due]
      exact ih acc

variable (clusterPath) in
theorem mem_due_iff {timeout : Int} {faults : CheckFaults} {m : String} :
    m ∈ (s.quarantineTimers.entries.filter (Due timeout now faults ·)).map Sigma.fst ↔
      (s.record clusterPath m).Expired timeout now ∧ faults.status m = none := by
  simp only [List.mem_map, List.mem_filter, decide_eq_true_eq, NodeRecord.Expired]
  constructor
  · rintro ⟨⟨_, start⟩, ⟨there, late, fine⟩, rfl⟩
    exact ⟨⟨start, AList.mem_lookup_iff.mpr there, late⟩, fine⟩
  · rintro ⟨⟨start, there, late⟩, fine⟩
    exact ⟨⟨m, start⟩, ⟨AList.mem_lookup_iff.mp there, late, fine⟩, rfl⟩

theorem record_checkQuarantineTimeouts (faults : CheckFaults) (m : String) :
    record clusterPath (s.checkQuarantineTimeouts cfg clusterPath now faults).state m
      = (s.record clusterPath m).expire
          (s.effective cfg clusterPath faults.cluster).quarantineTimeout now (faults.status m) := by
  obtain ⟨-, records⟩ := foldl_expire clusterPath now
    (s.effective cfg clusterPath faults.cluster).quarantineTimeout faults
    s.quarantineTimers.entries (s, [])
  obtain ⟨marked, kept⟩ := records m
  rw [mem_due_iff clusterPath] at marked kept
  unfold NodeRecord.expire
  split
  · rename_i due
    exact marked due
  · rename_i early
    exact kept early

theorem result_checkQuarantineTimeouts (faults : CheckFaults) :
    (s.checkQuarantineTimeouts cfg clusterPath now faults).result
      = (s.quarantineTimers.entries.filter
          (Due (s.effective cfg clusterPath faults.cluster).quarantineTimeout now faults ·)).map
          Sigma.fst :=
  (foldl_expire clusterPath now _ faults s.quarantineTimers.entries (s, [])).1

theorem mem_checkQuarantineTimeouts (faults : CheckFaults) (m : String) :
    m ∈ (s.checkQuarantineTimeouts cfg clusterPath now faults).result ↔
      (s.record clusterPath m).Expired
        (s.effective cfg clusterPath faults.cluster).quarantineTimeout now ∧
        faults.status m = none := by
  rw [result_checkQuarantineTimeouts, mem_due_iff clusterPath]

theorem nodup_checkQuarantineTimeouts (faults : CheckFaults) :
    (s.checkQuarantineTimeouts cfg clusterPath now faults).result.Nodup := by
  rw [result_checkQuarantineTimeouts]
  exact (List.filter_sublist.map Sigma.fst).nodup s.quarantineTimers.keys_nodup

theorem count_checkQuarantineTimeouts (faults : CheckFaults) (m : String) :
    (s.checkQuarantineTimeouts cfg clusterPath now faults).events.count (.nodeFailed m)
      = if m ∈ (s.checkQuarantineTimeouts cfg clusterPath now faults).result then 1 else 0 := by
  rw [← (nodup_checkQuarantineTimeouts faults).count]
  exact List.count_map_of_injective _ _ (fun _ _ => HealthEvent.nodeFailed.inj) m

end Tracked

end Falak.Health
