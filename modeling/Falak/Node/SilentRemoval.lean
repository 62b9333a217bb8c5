import Falak.Health.Bookkeeping
import Falak.Node.NodeFailure

/-! Whether a peer that is removed from the phonebook was reported as failed before. -/

namespace Falak.Health

open Phonebook

namespace NodeRecord

variable {v : NodeRecord}

def active (v : NodeRecord) : Bool := v.row.any (·.status = .active)

variable {now : Int} {fault : Option String} {eff : EffectiveThresholds} {faults : ConnectionFaults}

theorem active_withStatus (status : NodeStatus) (other : status ≠ .active)
    (after : (v.write fault (·.withStatus now status)).active = true) : v.active = true := by
  unfold write at after
  split at after
  · exact after
  · cases there : v.row <;> simp [active, there, Row.withStatus, other] at after

theorem active_write {change : Row → Row} (kept : ∀ row, (change row).status = row.status) :
    (v.write fault change).active = v.active := by
  unfold write
  split
  · rfl
  · simp [active, kept, Option.any_map]

theorem active_checkThresholds {oldScore newScore : Rat}
    (after : (v.checkThresholds eff now fault oldScore newScore).active = true) :
    v.active = true := by
  unfold checkThresholds at after
  split at after
  · exact active_withStatus .quarantined (by decide) after
  · exact active_withStatus .suspected (by decide) after
  · exact after

theorem active_withScore (now : Int) (score : Rat) (fault : Option String) :
    (v.write fault (·.withScore now score)).active = v.active :=
  active_write fun row => show (row.withScore now score).status = row.status from rfl

theorem active_recordFailure {increment : Rat} {faults : ScoreFaults}
    (after : (v.recordFailure increment eff now faults).active = true) : v.active = true := by
  unfold recordFailure at after
  split at after
  · exact after
  · split at after
    · exact after
    · rw [← active_withScore]
      exact active_checkThresholds after

theorem active_setScore {faults : ScoreFaults} {score : Rat}
    (after : (v.setScore eff now faults score).active = true) : v.active = true := by
  unfold setScore at after
  split at after
  · exact after
  · rw [← active_withScore]
    exact active_checkThresholds after

theorem recordConnectionFailure_cases (v : NodeRecord) (now : Int) (faults : ConnectionFaults) :
    (v.recordConnectionFailure now faults).row = none ∨
      ∃ statement, v.recordConnectionFailure now faults
        = (v.write faults.record (·.attempted now false)).write statement
          (·.withStatus now .quarantined) := by
  have left (v : NodeRecord) : v = v.write (some "") (·.withStatus now .quarantined) := rfl
  unfold recordConnectionFailure
  simp only
  split
  · rename_i refused
    refine .inr ⟨some "", ?_⟩
    rw [← left, write, if_pos refused]
  · split
    · exact .inr ⟨some "", left _⟩
    · split
      · split
        · exact .inr ⟨some "", left _⟩
        · exact .inl rfl
      · split
        · exact .inr ⟨faults.write, rfl⟩
        · exact .inr ⟨some "", left _⟩

theorem active_recordConnectionFailure
    (after : (v.recordConnectionFailure now faults).active = true) : v.active = true := by
  rcases recordConnectionFailure_cases v now faults with gone | ⟨statement, made⟩
  · simp [active, gone] at after
  · -- The count leaves the status alone.
    have counted : (v.write faults.record (·.attempted now false)).active = v.active :=
      active_write fun _ => rfl
    rw [made] at after
    rw [← counted]
    exact active_withStatus .quarantined (by decide) after

theorem isSome_of_recordConnectionFailure
    (after : (v.recordConnectionFailure now faults).row.isSome) : v.row.isSome := by
  rcases recordConnectionFailure_cases v now faults with gone | ⟨statement, made⟩
  · simp [gone] at after
  · rwa [made, isSome_write, isSome_write] at after

structure Steady (v v' : NodeRecord) (waits : Prop) : Prop where
  present : v'.row.isSome →
    v.row.isSome ∧ (v'.active = true → v.active = true) ∨
      ¬ waits ∧ (v.row.isSome ∨ v'.active = true)
  removed : v.row.isSome → ¬ v'.row.isSome → waits

namespace Steady

variable {v' : NodeRecord} {waits : Prop}

theorem worse (same : v'.row.isSome = v.row.isSome) (active : v'.active = true → v.active = true) :
    Steady v v' waits where
  present there := .inl ⟨same ▸ there, active⟩
  removed there gone := absurd (same ▸ there) gone

theorem better (same : v'.row.isSome = v.row.isSome) (free : ¬ waits) : Steady v v' waits where
  present there := .inr ⟨free, .inl (same ▸ there)⟩
  removed there gone := absurd (same ▸ there) gone

theorem written (there : v'.row.isSome) (free : ¬ waits) (known : v.row.isSome ∨ v'.active = true) :
    Steady v v' waits where
  present _ := .inr ⟨free, known⟩
  removed _ gone := absurd there gone

theorem rfl : Steady v v waits := worse (Eq.refl _) id

end Steady

end NodeRecord

namespace Tracked

variable {cfg : ScoreConfig} {clusterPath : String} {s : Tracked} {now : Int} {faults : ScoreFaults}
  {nodeID reason m : String}

theorem nodeFailed_notMem_checkThresholds {oldScore newScore : Rat} :
    .nodeFailed m
      ∉ (s.checkThresholds cfg clusterPath now faults nodeID oldScore newScore reason).2 := by
  unfold checkThresholds
  split <;> simp

theorem nodeFailed_notMem_recovery {oldStatus : NodeStatus} :
    .nodeFailed m ∉ recovery nodeID oldStatus := by
  unfold recovery
  split <;> simp

theorem nodeFailed_notMem_recordFailure :
    .nodeFailed m ∉ (s.recordFailure cfg clusterPath now faults nodeID reason).events := by
  unfold recordFailure
  split
  · exact List.not_mem_nil
  · simp only
    split
    · exact List.not_mem_nil
    · exact nodeFailed_notMem_checkThresholds

theorem nodeFailed_notMem_recordSuccess :
    .nodeFailed m ∉ (s.recordSuccess clusterPath now faults nodeID reason).events := by
  unfold recordSuccess
  split
  · exact List.not_mem_nil
  · split
    · exact List.not_mem_nil
    · split
      · exact List.not_mem_nil
      · simp [nodeFailed_notMem_recovery]

theorem nodeFailed_notMem_setScore {score : Rat} {alive : Bool} :
    .nodeFailed m ∉ (s.setScore cfg clusterPath now faults nodeID score alive reason).events := by
  unfold setScore
  cases alive with
  | true =>
    simp only [if_true]
    split
    · exact List.not_mem_nil
    · exact nodeFailed_notMem_recovery
  | false =>
    simp only [Bool.false_eq_true, if_false]
    split
    · exact List.not_mem_nil
    · exact nodeFailed_notMem_checkThresholds

end Tracked

namespace Quarantine

variable (cfg : ScoreConfig) (clusterPath : String)

def published (s : Cluster) : Action → List HealthEvent
  | .recordFailure now faults nodeID reason =>
    (s.tracked.recordFailure cfg clusterPath now faults nodeID reason).events
  | .recordSuccess now faults nodeID reason =>
    (s.tracked.recordSuccess clusterPath now faults nodeID reason).events
  | .setScore now faults nodeID score alive reason =>
    (s.tracked.setScore cfg clusterPath now faults nodeID score alive reason).events
  | .checkQuarantineTimeouts now faults =>
    (s.tracked.checkQuarantineTimeouts cfg clusterPath now faults).events
  | .removeFailed .. | .processMember .. | .recordConnectionFailure .. | .addOrUpdateEntry .. => []

def Action.checks : Action → Bool
  | .checkQuarantineTimeouts .. => true
  | _ => false

variable {cfg clusterPath}

theorem tracked_rewrite (s : Cluster) (book : Book) :
    (s.rewrite book).tracked = ⟨book, s.tracked.quarantineTimers⟩ := rfl

theorem nodeFailed_notMem_published {s : Cluster} {a : Action} (other : a.checks = false)
    (m : String) : .nodeFailed m ∉ published cfg clusterPath s a := by
  cases a with
  | recordFailure => exact Tracked.nodeFailed_notMem_recordFailure
  | recordSuccess => exact Tracked.nodeFailed_notMem_recordSuccess
  | setScore => exact Tracked.nodeFailed_notMem_setScore
  | checkQuarantineTimeouts => cases other
  | removeFailed | processMember | recordConnectionFailure | addOrUpdateEntry =>
    exact List.not_mem_nil

end Quarantine

end Falak.Health

namespace Falak.Node

open Phonebook Health

structure Watched where
  cluster : Quarantine.Cluster
  failures : String → Nat

namespace Watched

def Has (clusterPath : String) (s : Watched) (nodeID : String) : Prop :=
  (s.cluster.tracked.record clusterPath nodeID).row.isSome

variable (cfg : ScoreConfig) (clusterPath : String)

def step (s : Watched) (a : Quarantine.Action) : Option Watched :=
  if a.checks ∧ s.cluster.failed ≠ [] then none
  else
    (Quarantine.step cfg clusterPath s.cluster a).map fun after =>
      { cluster := after
        failures := fun nodeID =>
          if (after.tracked.record clusterPath nodeID).active then 0
          else
            s.failures nodeID
              + (Quarantine.published cfg clusterPath s.cluster a).count (.nodeFailed nodeID) }

def Careful (s : Watched) : Quarantine.Action → Prop
  | .recordConnectionFailure _ faults nodeID =>
    ∀ row, s.cluster.tracked.book.get nodeID clusterPath = some row → faults = {} →
      maxConsecutiveFailsBeforeRemoval ≤ row.tracking.consecutiveFails + 1 →
      nodeID ∈ s.cluster.failed
  | .removeFailed fault _ => fault = none
  | .recordSuccess _ _ nodeID _ => nodeID ∉ s.cluster.failed
  | .setScore _ _ nodeID _ alive _ => alive = true → nodeID ∉ s.cluster.failed
  | .processMember _ _ m =>
    m.nodeID ∉ s.cluster.failed ∧
      (¬ s.Has clusterPath m.nodeID → m.status ≠ "suspected" ∧ m.status ≠ "quarantined")
  | .addOrUpdateEntry _ _ m => m.clusterPath = clusterPath → m.nodeID ∉ s.cluster.failed
  | .recordFailure .. | .checkQuarantineTimeouts .. => True

structure Announced (s : Watched) : Prop where
  once : ∀ nodeID, s.Has clusterPath nodeID →
    s.failures nodeID = if nodeID ∈ s.cluster.failed then 1 else 0
  reset : ∀ nodeID, (s.cluster.tracked.record clusterPath nodeID).active = true →
    s.failures nodeID = 0

variable {cfg clusterPath} {s s' : Watched} {a : Quarantine.Action}

theorem step_eq (taken : step cfg clusterPath s a = some s') :
    (a.checks = true → s.cluster.failed = []) ∧
      Quarantine.step cfg clusterPath s.cluster a = some s'.cluster ∧
      ∀ nodeID, s'.failures nodeID =
        if (s'.cluster.tracked.record clusterPath nodeID).active then 0
        else
          s.failures nodeID
            + (Quarantine.published cfg clusterPath s.cluster a).count (.nodeFailed nodeID) := by
  unfold step at taken
  split at taken
  · cases taken
  · rename_i free
    obtain ⟨after, made, rfl⟩ := Option.map_eq_some_iff.mp taken
    exact ⟨fun checks => not_not.mp fun waits => free ⟨checks, waits⟩, made, fun _ => rfl⟩

theorem steady_of_own {before after : Quarantine.Cluster} {waits : String → Prop} (nodeID : String)
    (others : ∀ m, m ≠ nodeID →
      after.tracked.record clusterPath m = before.tracked.record clusterPath m)
    (own : NodeRecord.Steady (before.tracked.record clusterPath nodeID)
      (after.tracked.record clusterPath nodeID) (waits nodeID)) (m : String) :
    NodeRecord.Steady (before.tracked.record clusterPath m) (after.tracked.record clusterPath m)
      (waits m) := by
  by_cases same : m = nodeID
  · rw [same]
    exact own
  · rw [others m same]
    exact .rfl

theorem steady_step {s s' : Quarantine.Cluster} {failures : String → Nat}
    (careful : Careful clusterPath ⟨s, failures⟩ a)
    (taken : Quarantine.step cfg clusterPath s a = some s') (checks : a.checks = false)
    (removes : ∀ fault nodeID, a ≠ .removeFailed fault nodeID) :
    s'.failed = s.failed ∧ ∀ m, NodeRecord.Steady (s.tracked.record clusterPath m)
      (s'.tracked.record clusterPath m) (m ∈ s.failed) := by
  cases a with
  | recordFailure now faults nodeID reason =>
    cases taken
    refine ⟨rfl, steady_of_own nodeID
      (fun m apart => Tracked.record_recordFailure_of_ne apart faults reason) ?_⟩
    rw [Tracked.record_recordFailure]
    exact .worse (NodeRecord.isSome_recordFailure ..) NodeRecord.active_recordFailure
  | recordSuccess now faults nodeID reason =>
    cases taken
    refine ⟨rfl, steady_of_own nodeID
      (fun m apart => Tracked.record_recordSuccess_of_ne apart faults reason) ?_⟩
    rw [Tracked.record_recordSuccess]
    exact .better (NodeRecord.isSome_recordSuccess ..) careful
  | setScore now faults nodeID score alive reason =>
    cases taken
    refine ⟨rfl, steady_of_own nodeID
      (fun m apart => Tracked.record_setScore_of_ne apart faults reason score alive) ?_⟩
    cases alive with
    | true =>
      rw [Tracked.record_setScore_alive]
      exact .better (NodeRecord.isSome_setAlive ..) (careful rfl)
    | false =>
      rw [Tracked.record_setScore]
      exact .worse (NodeRecord.isSome_setScore ..) NodeRecord.active_setScore
  | checkQuarantineTimeouts => cases checks
  | removeFailed fault nodeID => exact absurd rfl (removes fault nodeID)
  | processMember now faults m =>
    simp only [Quarantine.step] at taken
    split at taken
    · rename_i new book processed
      cases taken
      obtain ⟨rfl, rfl⟩ := processMember_ok processed
      refine ⟨rfl, steady_of_own m.nodeID (fun n apart =>
        Tracked.record_insert_row_of_ne (fun same => apart (Prod.mk.inj same).1) _) ?_⟩
      rw [Quarantine.tracked_rewrite, Tracked.record_insert_row]
      refine .written rfl careful.1 ?_
      by_cases known : (s.tracked.record clusterPath m.nodeID).row.isSome
      · exact .inl known
      · obtain ⟨notSuspected, notQuarantined⟩ := careful.2 known
        have fresh : s.tracked.book.get m.nodeID clusterPath = none := by
          simpa [Tracked.record] using known
        right
        rw [fresh]
        simp only [NodeRecord.active, Entry.written, Entry.added, Entry.row, MemberInfo.entry,
          if_neg notSuspected, if_neg notQuarantined, Option.any_some, decide_eq_true_eq]
        by_cases empty : m.status = "" <;> simp [empty]
    · cases taken
      exact ⟨rfl, fun m => .rfl⟩
  | recordConnectionFailure now faults nodeID =>
    cases taken
    refine ⟨rfl, steady_of_own nodeID
      (fun m apart => Tracked.record_recordConnectionFailure_of_ne apart faults) ?_⟩
    rw [Quarantine.tracked_rewrite, Tracked.record_recordConnectionFailure]
    refine ⟨fun there => .inl ⟨NodeRecord.isSome_of_recordConnectionFailure there,
      NodeRecord.active_recordConnectionFailure⟩, fun there gone => ?_⟩
    obtain ⟨row, known⟩ := Option.isSome_iff_exists.mp there
    obtain ⟨fine, limit⟩ := NodeRecord.limit_of_recordConnectionFailure known
      (Option.not_isSome_iff_eq_none.mp gone)
    exact careful row known fine limit
  | addOrUpdateEntry now faults m =>
    cases taken
    refine ⟨rfl, ?_⟩
    rw [addOrUpdateEntry_eq]
    split
    · exact fun m => .rfl
    · by_cases here : m.clusterPath = clusterPath
      · subst here
        refine steady_of_own m.nodeID (fun n apart =>
          Tracked.record_insert_row_of_ne (fun same => apart (Prod.mk.inj same).1) _) ?_
        rw [Quarantine.tracked_rewrite, Tracked.record_insert_row]
        refine .written rfl (careful rfl) (.inr ?_)
        simp [NodeRecord.active, Quarantine.written_active]
      · -- The row belongs to another cluster.
        intro n
        rw [Quarantine.tracked_rewrite,
          Tracked.record_insert_row_of_ne fun same => here (Prod.mk.inj same).2.symm]
        exact .rfl

theorem Announced.of_steady (announced : Announced clusterPath s)
    (failed : s'.cluster.failed = s.cluster.failed)
    (steady : ∀ m, NodeRecord.Steady (s.cluster.tracked.record clusterPath m)
      (s'.cluster.tracked.record clusterPath m) (m ∈ s.cluster.failed))
    (counted : ∀ m, s'.failures m =
      if (s'.cluster.tracked.record clusterPath m).active then 0 else s.failures m) :
    Announced clusterPath s' := by
  refine ⟨fun nodeID there => ?_, fun nodeID active => by rw [counted, if_pos active]⟩
  rw [counted, failed]
  split
  · rename_i active
    have free : nodeID ∉ s.cluster.failed := by
      rcases (steady nodeID).present there with ⟨known, before⟩ | ⟨free, -⟩
      · intro waits
        have once := announced.once nodeID known
        rw [if_pos waits, announced.reset nodeID (before active)] at once
        cases once
      · exact free
    rw [if_neg free]
  · rename_i inactive
    rcases (steady nodeID).present there with ⟨known, -⟩ | ⟨-, known | active⟩
    · exact announced.once nodeID known
    · exact announced.once nodeID known
    · exact absurd active inactive

variable {nodeID : String}

theorem Announced.remove (announced : Announced clusterPath s)
    (taken : Quarantine.step cfg clusterPath s.cluster (.removeFailed none nodeID)
      = some s'.cluster)
    (counted : ∀ m, s'.failures m =
      if (s'.cluster.tracked.record clusterPath m).active then 0 else s.failures m) :
    Announced clusterPath s' := by
  simp only [Quarantine.step] at taken
  split at taken
  · have made := Option.some.inj taken
    refine ⟨fun m there => ?_, fun m active => by rw [counted, if_pos active]⟩
    unfold Has at there
    rw [counted]
    rw [← made] at there ⊢
    by_cases same : m = nodeID
    · -- The row of this node is gone.
      subst same
      have gone : (Tracked.record clusterPath
          ⟨s.cluster.tracked.book.erase (m, clusterPath), s.cluster.tracked.quarantineTimers⟩
            m).row.isSome := there
      rw [Tracked.record_erase_row] at gone
      cases gone
    · have kept : Tracked.record clusterPath
          ⟨s.cluster.tracked.book.erase (nodeID, clusterPath), s.cluster.tracked.quarantineTimers⟩
            m = s.cluster.tracked.record clusterPath m := Tracked.record_erase_row_of_ne same
      have known : s.Has clusterPath m := by
        unfold Has
        rw [← kept]
        exact there
      have waits : m ∈ s.cluster.failed.erase nodeID ↔ m ∈ s.cluster.failed :=
        List.mem_erase_of_ne same
      show (if (Tracked.record clusterPath ⟨s.cluster.tracked.book.erase (nodeID, clusterPath), _⟩
        m).active then 0 else s.failures m) = if m ∈ s.cluster.failed.erase nodeID then 1 else 0
      rw [kept, if_congr waits rfl rfl, ← announced.once m known]
      split
      · rename_i active
        exact (announced.reset m active).symm
      · rfl
  · cases taken

theorem Announced.check {now : Int} {faults : CheckFaults} (announced : Announced clusterPath s)
    (free : s.cluster.failed = [])
    (taken : Quarantine.step cfg clusterPath s.cluster (.checkQuarantineTimeouts now faults)
      = some s'.cluster)
    (counted : ∀ m, s'.failures m =
      if (s'.cluster.tracked.record clusterPath m).active then 0
      else s.failures m +
        (s.cluster.tracked.checkQuarantineTimeouts cfg clusterPath now faults).events.count
          (.nodeFailed m)) :
    Announced clusterPath s' := by
  have made := Option.some.inj taken
  refine ⟨fun m there => ?_, fun m active => by rw [counted, if_pos active]⟩
  have failed : s'.cluster.failed
      = (s.cluster.tracked.checkQuarantineTimeouts cfg clusterPath now faults).result := by
    rw [← made, free]
    rfl
  have record : s'.cluster.tracked.record clusterPath m
      = (s.cluster.tracked.record clusterPath m).expire
        (s.cluster.tracked.effective cfg clusterPath faults.cluster).quarantineTimeout now
        (faults.status m) := by
    rw [← made]
    exact Tracked.record_checkQuarantineTimeouts faults m
  have known : s.Has clusterPath m := by
    unfold Has at there ⊢
    rwa [record, NodeRecord.isSome_expire] at there
  have before : s.failures m = 0 := by
    rw [announced.once m known, free]
    rfl
  rw [counted, failed, Tracked.count_checkQuarantineTimeouts, before, Nat.zero_add]
  split
  · rename_i active
    -- A node that is marked as failed is not active.
    rw [if_neg]
    intro returned
    have due := (Tracked.mem_checkQuarantineTimeouts faults m).mp returned
    rw [record, NodeRecord.expire, if_pos due] at active
    cases row : (s.cluster.tracked.record clusterPath m).row <;>
      simp [NodeRecord.active, NodeRecord.fail, Row.withStatus, row] at active
  · rfl

theorem Announced.step (announced : Announced clusterPath s) (careful : s.Careful clusterPath a)
    (taken : step cfg clusterPath s a = some s') : Announced clusterPath s' := by
  obtain ⟨free, made, counted⟩ := step_eq taken
  -- Only a check of the timers publishes failures.
  cases checks : a.checks with
  | true =>
    cases a with
    | checkQuarantineTimeouts now faults => exact announced.check (free checks) made counted
    | _ => cases checks
  | false =>
    have silent (m : String) : s'.failures m =
        if (s'.cluster.tracked.record clusterPath m).active then 0 else s.failures m := by
      rw [counted, List.count_eq_zero_of_not_mem (Quarantine.nodeFailed_notMem_published checks m)]
      rfl
    by_cases removes : ∃ fault nodeID, a = .removeFailed fault nodeID
    · obtain ⟨fault, nodeID, rfl⟩ := removes
      obtain rfl : fault = none := careful
      exact announced.remove made silent
    · obtain ⟨failed, steady⟩ := steady_step careful made checks fun fault nodeID same =>
        removes ⟨fault, nodeID, same⟩
      exact announced.of_steady failed steady silent

theorem record_removeFailed {s s' : Quarantine.Cluster} {fault : Option String} {m : String}
    (apart : m ≠ nodeID)
    (taken : Quarantine.step cfg clusterPath s (.removeFailed fault nodeID) = some s') :
    s'.tracked.record clusterPath m = s.tracked.record clusterPath m := by
  simp only [Quarantine.step] at taken
  split at taken
  · cases taken
    -- The database may refuse the statement.
    cases fault with
    | some err => rfl
    | none => exact Tracked.record_erase_row_of_ne apart
  · cases taken

theorem waits_of_removed (careful : s.Careful clusterPath a)
    (taken : step cfg clusterPath s a = some s') (there : s.Has clusterPath nodeID)
    (gone : ¬ s'.Has clusterPath nodeID) : nodeID ∈ s.cluster.failed := by
  obtain ⟨-, made, -⟩ := step_eq taken
  unfold Has at there gone
  cases a with
  | checkQuarantineTimeouts now faults =>
    rw [← Option.some.inj made, Tracked.record_checkQuarantineTimeouts,
      NodeRecord.isSome_expire] at gone
    exact absurd there gone
  | removeFailed fault removed =>
    by_cases same : nodeID = removed
    · subst same
      simp only [Quarantine.step] at made
      split at made
      · assumption
      · cases made
    · rw [record_removeFailed same made] at gone
      exact absurd there gone
  | _ =>
    obtain ⟨-, steady⟩ := steady_step careful made rfl fun fault removed same => by cases same
    exact (steady nodeID).removed there gone

instance (clusterPath : String) (s : Watched) (nodeID : String) :
    Decidable (s.Has clusterPath nodeID) :=
  inferInstanceAs (Decidable (_ = true))

def onePeer : Watched := ⟨⟨⟨Quarantine.onePeer, ∅⟩, []⟩, fun _ => 0⟩

def disconnected : Quarantine.Action := .recordConnectionFailure second {} "node-x"

def expiry : List Quarantine.Action :=
  [.setScore 0 {} "node-x" 10 false "direct_ping_fail", .checkQuarantineTimeouts (20 * second) {}]

def expires (_ : Watched) : Quarantine.Action → Bool
  | .setScore _ _ _ _ alive _ => !alive
  | .checkQuarantineTimeouts .. => true
  | _ => false

theorem careful_of_expires (s : Watched) (a : Quarantine.Action) (accepted : expires s a = true) :
    s.Careful "r/d/c" a := by
  cases a with
  | setScore now faults nodeID score alive reason =>
    have dead : (!alive) = true := accepted
    intro found
    rw [found] at dead
    cases dead
  | checkQuarantineTimeouts => trivial
  | _ => cases accepted

end Watched

end Falak.Node
