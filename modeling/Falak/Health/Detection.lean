import Falak.Health.Bookkeeping
import Falak.Lib.Entry

/-! How long it takes until a node that stays silent is marked as failed. -/

namespace Falak.Health

open Phonebook

namespace NodeRecord

variable {v : NodeRecord}

variable (eff : EffectiveThresholds) (now : Int)

theorem timer_checkThresholds (fault : Option String) (oldScore newScore : Rat) :
    (v.checkThresholds eff now fault oldScore newScore).timer
      = if crossing eff oldScore newScore = .quarantine then some now else v.timer := by
  cases crossed : crossing eff oldScore newScore <;> simp [checkThresholds, crossed]

def failureCrosses (v : NodeRecord) (increment : Rat) (eff : EffectiveThresholds)
    (faults : ScoreFaults) : Bool :=
  faults.score.isNone && (v.read faults.get).any fun row =>
    crossing eff row.tracking.reliabilityScore (row.tracking.reliabilityScore + increment)
      = .quarantine

def scoreCrosses (v : NodeRecord) (eff : EffectiveThresholds) (faults : ScoreFaults) (score : Rat) :
    Bool :=
  (v.read faults.get).any fun row => crossing eff row.tracking.reliabilityScore score = .quarantine

theorem isSome_of_failureCrosses {increment : Rat} {eff : EffectiveThresholds}
    {faults : ScoreFaults} (crosses : v.failureCrosses increment eff faults = true) :
    v.row.isSome = true := by
  obtain ⟨-, any⟩ := Bool.and_eq_true_iff.mp crosses
  obtain ⟨there, -⟩ := (Option.any_eq_true_iff_get ..).mp any
  obtain ⟨row, got⟩ := Option.isSome_iff_exists.mp there
  exact Option.isSome_of_eq_some (row_of_read got)

theorem isSome_of_scoreCrosses {eff : EffectiveThresholds} {faults : ScoreFaults} {score : Rat}
    (crosses : v.scoreCrosses eff faults score = true) : v.row.isSome = true := by
  obtain ⟨there, -⟩ := (Option.any_eq_true_iff_get ..).mp crosses
  obtain ⟨row, got⟩ := Option.isSome_iff_exists.mp there
  exact Option.isSome_of_eq_some (row_of_read got)

theorem timer_recordFailure (increment : Rat) (eff : EffectiveThresholds) (now : Int)
    (faults : ScoreFaults) :
    (v.recordFailure increment eff now faults).timer
      = if v.failureCrosses increment eff faults then some now else v.timer := by
  unfold recordFailure failureCrosses
  cases v.read faults.get with
  | none => simp
  | some row => cases faults.score <;> simp [timer_checkThresholds]

theorem timer_setScore (faults : ScoreFaults) (score : Rat) :
    (v.setScore eff now faults score).timer
      = if v.scoreCrosses eff faults score then some now else v.timer := by
  unfold setScore scoreCrosses
  cases v.read faults.get <;> simp [timer_checkThresholds]

end NodeRecord

theorem Tracked.count_nodeFailed (cfg : ScoreConfig) (clusterPath : String) (s : Tracked)
    (now : Int) (faults : CheckFaults) (m : String) :
    (s.checkQuarantineTimeouts cfg clusterPath now faults).events.count (.nodeFailed m)
      = if (s.record clusterPath m).Expired
            (s.effective cfg clusterPath faults.cluster).quarantineTimeout now ∧
          faults.status m = none then 1
        else 0 := by
  rw [count_checkQuarantineTimeouts]
  exact if_congr (mem_checkQuarantineTimeouts faults m) rfl rfl

namespace Detection

structure Watch where
  tracked : Tracked
  clock : Int
  again : List Int

inductive Call
  | recordFailure (faults : ScoreFaults) (nodeID reason : String)
  | recordSuccess (faults : ScoreFaults) (nodeID reason : String)
  | setScore (faults : ScoreFaults) (nodeID : String) (score : Rat) (alive : Bool) (reason : String)
  | checkQuarantineTimeouts (faults : CheckFaults)
  | change (book : Book)

variable (cfg : ScoreConfig) (clusterPath nodeID : String)

def Call.apply (s : Tracked) (now : Int) : Call → Tracked
  | .recordFailure faults nodeID reason =>
    (s.recordFailure cfg clusterPath now faults nodeID reason).state
  | .recordSuccess faults nodeID reason =>
    (s.recordSuccess clusterPath now faults nodeID reason).state
  | .setScore faults nodeID score alive reason =>
    (s.setScore cfg clusterPath now faults nodeID score alive reason).state
  | .checkQuarantineTimeouts faults =>
    (s.checkQuarantineTimeouts cfg clusterPath now faults).state
  | .change book => { s with book := book }

def Call.crosses (s : Tracked) : Call → Bool
  | .recordFailure faults m _ =>
    m = nodeID && (s.record clusterPath nodeID).failureCrosses cfg.scoreIncrement
      (s.effective cfg clusterPath faults.cluster) faults
  | .setScore faults m score alive _ =>
    m = nodeID && !alive && (s.record clusterPath nodeID).scoreCrosses
      (s.effective cfg clusterPath faults.cluster) faults score
  | _ => false

/-- One call at an instant that is not before the last one. -/
def step (s : Watch) (call : Int × Call) : Option Watch :=
  if call.1 < s.clock then none
  else
    some
      { tracked := call.2.apply cfg clusterPath s.tracked call.1
        clock := call.1
        again :=
          if call.2.crosses cfg clusterPath nodeID s.tracked then s.again ++ [call.1]
          else s.again }

def Silent (start : Int) (s : Watch) : Int × Call → Prop
  | (_, .recordFailure ..) => True
  | (_, .recordSuccess _ m _) => m ≠ nodeID
  | (_, .setScore _ m _ alive _) => alive = true → m ≠ nodeID
  | (now, .checkQuarantineTimeouts faults) =>
    now - start ≤ (s.tracked.effective cfg clusterPath faults.cluster).quarantineTimeout
  | (_, .change book) => book.get nodeID clusterPath = s.tracked.book.get nodeID clusterPath

structure Inv (start : Int) (s : Watch) : Prop where
  there : (s.tracked.record clusterPath nodeID).row.isSome
  timer : (s.tracked.record clusterPath nodeID).timer = (start :: s.again).getLast?
  past : ∀ at_ ∈ start :: s.again, at_ ≤ s.clock
  ordered : (start :: s.again).Pairwise (· ≤ ·)

variable {cfg clusterPath nodeID}

theorem Silent.record {start now : Int} {s : Watch} {call : Call}
    (silent : Silent cfg clusterPath nodeID start s (now, call))
    (inv : Inv clusterPath nodeID start s) :
    let after := (call.apply cfg clusterPath s.tracked now).record clusterPath nodeID
    after.row.isSome ∧
      after.timer = if call.crosses cfg clusterPath nodeID s.tracked then some now
        else (start :: s.again).getLast? := by
  rw [← inv.timer]
  have there := inv.there
  cases call with
  | recordFailure faults m reason =>
    by_cases same : m = nodeID
    · subst same
      simp only [Call.apply, Call.crosses, Tracked.record_recordFailure,
        NodeRecord.isSome_recordFailure, NodeRecord.timer_recordFailure, decide_true,
        Bool.true_and]
      exact ⟨there, trivial⟩
    · simpa [Call.apply, Call.crosses, Tracked.record_recordFailure_of_ne (Ne.symm same), same]
        using there
  | recordSuccess faults m reason =>
    simpa [Call.apply, Call.crosses, Tracked.record_recordSuccess_of_ne (Ne.symm silent)]
      using there
  | setScore faults m score alive reason =>
    by_cases same : m = nodeID
    · subst same
      -- The node is not found alive.
      obtain rfl : alive = false := by
        cases alive
        · rfl
        · exact absurd rfl (silent rfl)
      simp only [Call.apply, Call.crosses, Tracked.record_setScore, NodeRecord.isSome_setScore,
        NodeRecord.timer_setScore, decide_true, Bool.true_and, Bool.not_false]
      exact ⟨there, trivial⟩
    · simpa [Call.apply, Call.crosses, Tracked.record_setScore_of_ne (Ne.symm same), same]
        using there
  | checkQuarantineTimeouts faults =>
    have since (at_ : Int) (crossed : at_ ∈ start :: s.again) : start ≤ at_ := by
      rcases List.mem_cons.mp crossed with rfl | later
      · exact le_rfl
      · exact List.rel_of_pairwise_cons inv.ordered later
    have early : ¬ (s.tracked.record clusterPath nodeID).Expired
        (s.tracked.effective cfg clusterPath faults.cluster).quarantineTimeout now := by
      rintro ⟨at_, timer, late⟩
      rw [inv.timer] at timer
      have := since at_ (List.mem_of_getLast? timer)
      have limit : now - start
        ≤ (s.tracked.effective cfg clusterPath faults.cluster).quarantineTimeout := silent
      omega
    simpa [Call.apply, Call.crosses, Tracked.record_checkQuarantineTimeouts, NodeRecord.expire,
      early] using there
  | change book =>
    have same : book.get nodeID clusterPath = s.tracked.book.get nodeID clusterPath := silent
    simpa [Call.apply, Call.crosses, Tracked.record, same] using there

theorem Inv.step {start : Int} {s s' : Watch} {call : Int × Call}
    (inv : Inv clusterPath nodeID start s) (silent : Silent cfg clusterPath nodeID start s call)
    (taken : Detection.step cfg clusterPath nodeID s call = some s') :
    Inv clusterPath nodeID start s' := by
  obtain ⟨now, call⟩ := call
  obtain ⟨there, timer⟩ := silent.record inv
  unfold Detection.step at taken
  split at taken
  · cases taken
  · rename_i later
    cases taken
    have bound (at_ : Int) (crossed : at_ ∈ start :: s.again) : at_ ≤ now := by
      have := inv.past at_ crossed
      omega
    cases crossed : call.crosses cfg clusterPath nodeID s.tracked with
    | false =>
      simp only [crossed, Bool.false_eq_true, if_false] at timer ⊢
      exact ⟨there, timer, bound, inv.ordered⟩
    | true =>
      -- The crossing is the last one.
      simp only [crossed, if_true] at timer ⊢
      refine ⟨there, ?_, ?_, ?_⟩
      · rw [timer, ← List.cons_append, List.getLast?_concat]
      · intro at_ crossed
        rw [← List.cons_append, List.mem_append, List.mem_singleton] at crossed
        exact crossed.elim (bound at_) Eq.le
      · rw [← List.cons_append]
        exact pairwise_snoc inv.ordered bound

theorem Inv.start {before : Tracked} {call : Call} {start : Int}
    (enters : call.crosses cfg clusterPath nodeID before = true) :
    Inv clusterPath nodeID start ⟨call.apply cfg clusterPath before start, start, []⟩ := by
  suffices fresh :
      ((call.apply cfg clusterPath before start).record clusterPath nodeID).row.isSome ∧
      ((call.apply cfg clusterPath before start).record clusterPath nodeID).timer = some start by
    exact ⟨fresh.1, fresh.2, by simp, by simp⟩
  cases call with
  | recordFailure faults m reason =>
    simp only [Call.crosses, Bool.and_eq_true, decide_eq_true_eq] at enters
    obtain ⟨rfl, crosses⟩ := enters
    have there := NodeRecord.isSome_of_failureCrosses crosses
    simp only [Call.apply, Tracked.record_recordFailure, NodeRecord.isSome_recordFailure,
      NodeRecord.timer_recordFailure, crosses, if_true, there, and_self]
  | setScore faults m score alive reason =>
    simp only [Call.crosses, Bool.and_eq_true, decide_eq_true_eq, Bool.not_eq_true'] at enters
    obtain ⟨⟨rfl, rfl⟩, crosses⟩ := enters
    have there := NodeRecord.isSome_of_scoreCrosses crosses
    simp only [Call.apply, Tracked.record_setScore, NodeRecord.isSome_setScore,
      NodeRecord.timer_setScore, crosses, if_true, there, and_self]
  | recordSuccess | checkQuarantineTimeouts | change => cases enters

theorem Inv.expired_iff {start : Int} {s : Watch} (inv : Inv clusterPath nodeID start s)
    (timeout now : Int) :
    (s.tracked.record clusterPath nodeID).Expired timeout now ↔
      ∀ at_ ∈ start :: s.again, timeout < now - at_ := by
  unfold NodeRecord.Expired
  rw [inv.timer]
  constructor
  · rintro ⟨last, isLast, late⟩ at_ crossed
    -- No crossing is after the last one.
    obtain ⟨before, split⟩ := List.getLast?_eq_some_iff.mp isLast
    have ordered := inv.ordered
    rw [split] at ordered crossed
    have le : at_ ≤ last := by
      rcases List.mem_append.mp crossed with earlier | same
      · exact (List.pairwise_append.mp ordered).2.2 at_ earlier last (List.mem_singleton_self last)
      · exact (List.mem_singleton.mp same).le
    omega
  · intro late
    obtain ⟨last, isLast⟩ : ∃ last, last ∈ (start :: s.again).getLast? :=
      ⟨_, List.getLast?_eq_some_getLast (List.cons_ne_nil _ _)⟩
    exact ⟨last, isLast, late last (List.mem_of_getLast? isLast)⟩

/--
A silent node that entered quarantine at `t` is marked as failed by the first check after its
quarantine has lasted too long, and this is published once, exactly when the last time at which it
crossed the threshold again is long enough ago and the database accepts the statement.
-/
theorem detected_iff {before : Tracked} {t : Int} {call : Call}
    (enters : call.crosses cfg clusterPath nodeID before = true) {s : Watch}
    (reached : Reach (step cfg clusterPath nodeID) (Silent cfg clusterPath nodeID t)
      ⟨call.apply cfg clusterPath before t, t, []⟩ s)
    (u : Int) (faults : CheckFaults)
    (late : (s.tracked.effective cfg clusterPath faults.cluster).quarantineTimeout < u - t) :
    let timeout := (s.tracked.effective cfg clusterPath faults.cluster).quarantineTimeout
    let after := s.tracked.checkQuarantineTimeouts cfg clusterPath u faults
    ((after.state.book.get nodeID clusterPath).any (·.status = .failed) = true ∧
        after.events.count (.nodeFailed nodeID) = 1) ↔
      (∀ at_ ∈ s.again, timeout < u - at_) ∧ faults.status nodeID = none := by
  intro timeout after
  have inv : Inv clusterPath nodeID t s := reached.invariant (Inv clusterPath nodeID t)
    (.start enters) fun _ _ _ inv silent taken => inv.step silent taken
  have due : (s.tracked.record clusterPath nodeID).Expired timeout u ↔
      ∀ at_ ∈ s.again, timeout < u - at_ := by
    rw [inv.expired_iff, List.forall_mem_cons]
    exact and_iff_right late
  have count := s.tracked.count_nodeFailed cfg clusterPath u faults nodeID
  rw [← due]
  constructor
  · rintro ⟨-, once⟩
    by_contra early
    rw [count, if_neg early] at once
    cases once
  · intro ready
    refine ⟨?_, count.trans (if_pos ready)⟩
    have marked : after.state.record clusterPath nodeID
        = (s.tracked.record clusterPath nodeID).fail u := by
      rw [Tracked.record_checkQuarantineTimeouts]
      exact if_pos ready
    have row : after.state.book.get nodeID clusterPath
        = (s.tracked.record clusterPath nodeID).row.map (·.withStatus u .failed) :=
      congrArg NodeRecord.row marked
    obtain ⟨old, got⟩ := Option.isSome_iff_exists.mp inv.there
    rw [row, got]
    rfl

def Call.dead : Call → Bool
  | .setScore _ _ _ alive _ => !alive
  | _ => false

theorem silent_of_dead {start : Int} {s : Watch} {call : Int × Call} (dead : call.2.dead = true) :
    Silent cfg clusterPath nodeID start s call := by
  obtain ⟨now, call⟩ := call
  cases call with
  | setScore faults m score alive reason =>
    intro found
    rw [found] at dead
    cases dead
  | recordFailure | recordSuccess | checkQuarantineTimeouts | change => cases dead

def unreachable : Call := .setScore {} "node-x" 10 false "direct_ping_fail"

def quarantinedPeer : Tracked := unreachable.apply {} "r/d/c" ⟨Quarantine.onePeer, ∅⟩ 0

def lowerAndHigher : List (Int × Call) :=
  [(8 * second, .setScore {} "node-x" 0 false "gossip"), (9 * second, unreachable)]

/-- Ten seconds after a silent peer was quarantined it is not marked, although 9.9 seconds pass. -/
theorem undetected :
    unreachable.crosses {} "r/d/c" "node-x" ⟨Quarantine.onePeer, ∅⟩ = true ∧
    (quarantinedPeer.book.get "node-x" "r/d/c").map Row.status = some .quarantined ∧
    ∃ s : Watch,
      Reach (step {} "r/d/c" "node-x") (Silent {} "r/d/c" "node-x" 0) ⟨quarantinedPeer, 0, []⟩ s ∧
      (s.tracked.effective {} "r/d/c" none).quarantineTimeout < 10 * second - 0 ∧
      (s.tracked.checkQuarantineTimeouts {} "r/d/c" (10 * second) {}).events = [] := by
  refine ⟨by decide +kernel, by decide +kernel, ?_⟩
  exact Reach.exists_of_accepted (fun _ call => call.2.dead) (fun _ _ dead => silent_of_dead dead) _
    _ lowerAndHigher _ (by decide +kernel)

/-- A silent peer whose score only grows is marked by the first check after 9.9 seconds. -/
theorem detected_iff_higher :
    ∃ s : Watch,
      Reach (step {} "r/d/c" "node-x") (Silent {} "r/d/c" "node-x" 0) ⟨quarantinedPeer, 0, []⟩ s ∧
      s.clock = 5 * second ∧
      ((s.tracked.checkQuarantineTimeouts {} "r/d/c" (20 * second) {}).state.book.get
        "node-x" "r/d/c").any (·.status = .failed) = true ∧
      (s.tracked.checkQuarantineTimeouts {} "r/d/c" (20 * second) {}).events.count
        (.nodeFailed "node-x") = 1 := by
  obtain ⟨s, reached, clock, once, late⟩ := Reach.exists_of_accepted (fun _ call => call.2.dead)
    (fun _ _ dead => silent_of_dead dead) (step {} "r/d/c" "node-x") ⟨quarantinedPeer, 0, []⟩
    [(5 * second, Call.setScore {} "node-x" 12 false "gossip")]
    (fun s => s.clock = 5 * second ∧ s.again = [] ∧
      (s.tracked.effective {} "r/d/c" none).quarantineTimeout < 20 * second - 0) (by decide +kernel)
  have enters : unreachable.crosses {} "r/d/c" "node-x" ⟨Quarantine.onePeer, ∅⟩ = true := by
    decide +kernel
  have marked := (detected_iff enters reached (20 * second) {} late).mpr ⟨by simp [once], rfl⟩
  exact ⟨s, reached, clock, marked⟩

end Detection

end Falak.Health
