import Falak.Health.Bookkeeping

/-! Whether the status of a node follows its score. -/

namespace Falak.Health

open Phonebook

/-- The status is one that the score asks for. -/
def EffectiveThresholds.Follows (eff : EffectiveThresholds) (score : Rat) (status : NodeStatus) :
    Prop :=
  (eff.quarantineThreshold ≤ score → status = .quarantined) ∧
    (score < eff.quarantineThreshold → eff.suspectedThreshold ≤ score →
      status = .suspected ∨ status = .quarantined)

instance (eff : EffectiveThresholds) (score : Rat) (status : NodeStatus) :
    Decidable (eff.Follows score status) :=
  inferInstanceAs (Decidable (_ ∧ _))

theorem EffectiveThresholds.follows_quarantined (eff : EffectiveThresholds) (score : Rat) :
    eff.Follows score .quarantined :=
  ⟨fun _ => rfl, fun _ _ => .inr rfl⟩

theorem EffectiveThresholds.follows_suspected_iff (eff : EffectiveThresholds) (score : Rat) :
    eff.Follows score .suspected ↔ score < eff.quarantineThreshold := by
  constructor
  · rintro ⟨high, -⟩
    by_contra reached
    cases high (le_of_not_gt reached)
  · intro low
    exact ⟨fun reached => absurd low (not_lt_of_ge reached), fun _ _ => .inl rfl⟩

def Crossing.mark (crossed : Crossing) (fault : Option String) (status : NodeStatus) : NodeStatus :=
  if fault.isSome then status
  else
    match crossed with
    | .quarantine => .quarantined
    | .suspected => .suspected
    | .none => status

def Crossing.Keeps (crossed : Crossing) (eff : EffectiveThresholds) (fault : Option String)
    (score : Rat) (status : NodeStatus) : Prop :=
  match crossed with
  | .quarantine => fault = .none ∨ eff.Follows score status
  | .suspected =>
    if fault = .none then status ≠ .quarantined ∧ score < eff.quarantineThreshold
    else eff.Follows score status
  | .none => eff.Follows score status

theorem Crossing.keeps_iff (crossed : Crossing) (eff : EffectiveThresholds) (fault : Option String)
    (score : Rat) (status : NodeStatus) :
    (eff.Follows score (crossed.mark fault status) ∧
        (status = .quarantined → crossed.mark fault status ≠ .suspected)) ↔
      crossed.Keeps eff fault score status := by
  have stays : status = .quarantined → status ≠ .suspected := by
    rintro rfl
    decide
  have kept : (eff.Follows score status ∧ (status = .quarantined → status ≠ .suspected)) ↔
      eff.Follows score status := and_iff_left stays
  cases crossed with
  | none => cases fault <;> exact kept
  | quarantine =>
    cases fault with
    | some err => simpa [mark, Keeps] using kept
    | none => simpa [mark, Keeps] using eff.follows_quarantined score
  | suspected =>
    cases fault with
    | some err => simpa [mark, Keeps] using kept
    | none => simp [mark, Keeps, eff.follows_suspected_iff, and_comm]

namespace NodeRecord

variable {v : NodeRecord}

def standing (v : NodeRecord) : Option (Rat × NodeStatus) :=
  v.row.map fun row => (row.tracking.reliabilityScore, row.status)

theorem standing_withScore (fault : Option String) (now : Int) (score : Rat) :
    (v.write fault (·.withScore now score)).standing
      = v.standing.map fun was => (if fault.isSome then was.1 else score, was.2) := by
  cases fault <;> cases there : v.row <;> simp [write, standing, there, Row.withScore]

theorem standing_checkThresholds (eff : EffectiveThresholds) (now : Int) (fault : Option String)
    (oldScore newScore : Rat) :
    (v.checkThresholds eff now fault oldScore newScore).standing
      = v.standing.map fun was => (was.1, (crossing eff oldScore newScore).mark fault was.2) := by
  cases crossed : crossing eff oldScore newScore <;> cases fault <;> cases there : v.row <;>
    simp [checkThresholds, crossed, write, standing, there, Row.withStatus, Crossing.mark]

end NodeRecord

namespace Tracked

variable {cfg : ScoreConfig} {clusterPath : String} {s : Tracked} {now : Int}

theorem effective_trySetStatus (fault query : Option String) (nodeID : String)
    (status : NodeStatus) :
    (s.trySetStatus clusterPath now fault nodeID status).effective cfg clusterPath query
      = s.effective cfg clusterPath query := by
  cases fault with
  | some err => rfl
  | none => exact effective_modifyRow nodeID _ query _

theorem effective_checkThresholds (faults : ScoreFaults) (query : Option String)
    (nodeID reason : String) (oldScore newScore : Rat) :
    effective cfg clusterPath
        (s.checkThresholds cfg clusterPath now faults nodeID oldScore newScore reason).1 query
      = s.effective cfg clusterPath query := by
  unfold checkThresholds
  split
  · exact effective_trySetStatus faults.status query nodeID .quarantined
  · exact effective_trySetStatus faults.status query nodeID .suspected
  · rfl

end Tracked

inductive Rating
  | recordFailure
  | setScore (score : Rat)

namespace Rating

def apply (cfg : ScoreConfig) (clusterPath nodeID reason : String) (s : Tracked) (now : Int)
    (faults : ScoreFaults) : Rating → Tracked
  | .recordFailure => (s.recordFailure cfg clusterPath now faults nodeID reason).state
  | .setScore score => (s.setScore cfg clusterPath now faults nodeID score false reason).state

def asked (increment oldScore : Rat) : Rating → Rat
  | .recordFailure => oldScore + increment
  | .setScore score => score

def stored (increment : Rat) (faults : ScoreFaults) (oldScore : Rat) (rating : Rating) : Rat :=
  if faults.get.isSome ∨ faults.score.isSome then oldScore else rating.asked increment oldScore

def crossed (increment : Rat) (eff : EffectiveThresholds) (faults : ScoreFaults) (oldScore : Rat)
    (rating : Rating) : Crossing :=
  if faults.get.isSome then .none
  else
    match rating with
    | .recordFailure =>
      if faults.score.isSome then .none else crossing eff oldScore (oldScore + increment)
    | .setScore score => crossing eff oldScore score

theorem standing_apply (cfg : ScoreConfig) {clusterPath nodeID : String} (reason : String)
    {s : Tracked} (now : Int) (faults : ScoreFaults) (rating : Rating) {row : Row}
    (there : s.book.get nodeID clusterPath = some row) :
    ((rating.apply cfg clusterPath nodeID reason s now faults).record clusterPath nodeID).standing
      = some (rating.stored cfg.scoreIncrement faults row.tracking.reliabilityScore,
          (rating.crossed cfg.scoreIncrement (s.effective cfg clusterPath faults.cluster) faults
            row.tracking.reliabilityScore).mark faults.status row.status) := by
  have held : (s.record clusterPath nodeID).row = some row := there
  have was : (s.record clusterPath nodeID).standing
      = some (row.tracking.reliabilityScore, row.status) := by
    simp [NodeRecord.standing, held]
  have unmarked (status : NodeStatus) : Crossing.none.mark faults.status status = status := by
    cases faults.status <;> rfl
  cases rating with
  | recordFailure =>
    rw [apply, Tracked.record_recordFailure]
    cases get : faults.get with
    | some err =>
      simp [NodeRecord.recordFailure, NodeRecord.read, get, was, stored, crossed, unmarked]
    | none =>
      cases score : faults.score with
      | some err =>
        simp [NodeRecord.recordFailure, NodeRecord.read, get, held, was, stored, crossed, score,
          unmarked]
      | none =>
        simp [NodeRecord.recordFailure, NodeRecord.read, get, held, was, stored, crossed, score,
          asked, NodeRecord.standing_checkThresholds, NodeRecord.standing_withScore]
  | setScore value =>
    rw [apply, Tracked.record_setScore]
    cases get : faults.get with
    | some err => simp [NodeRecord.setScore, NodeRecord.read, get, was, stored, crossed, unmarked]
    | none =>
      simp [NodeRecord.setScore, NodeRecord.read, get, held, was, stored, crossed, asked,
        NodeRecord.standing_checkThresholds, NodeRecord.standing_withScore]

theorem effective_apply (cfg : ScoreConfig) (clusterPath nodeID reason : String) (s : Tracked)
    (now : Int) (faults : ScoreFaults) (rating : Rating) :
    (rating.apply cfg clusterPath nodeID reason s now faults).effective cfg clusterPath none
      = s.effective cfg clusterPath none := by
  cases rating with
  | recordFailure =>
    simp only [apply, Tracked.recordFailure]
    split
    · rfl
    · cases faults.score with
      | some err => rfl
      | none => exact (Tracked.effective_checkThresholds ..).trans (Tracked.effective_modifyRow ..)
  | setScore score =>
    simp only [apply, Tracked.setScore, Bool.false_eq_true, if_false]
    split
    · rfl
    · rw [Tracked.effective_checkThresholds]
      cases faults.score with
      | some err => rfl
      | none => exact Tracked.effective_modifyRow ..

def Keeps (increment : Rat) (eff seen : EffectiveThresholds) (faults : ScoreFaults) (row : Row)
    (rating : Rating) : Prop :=
  (rating.crossed increment seen faults row.tracking.reliabilityScore).Keeps eff faults.status
    (rating.stored increment faults row.tracking.reliabilityScore) row.status

def shrunk : Tracked :=
  let rated := (setScore (3 / 2)).apply {} "r/d/c" "node-x" "gossip" ⟨Quarantine.threePeers, ∅⟩ 0 {}
  { rated with book := rated.book.erase ("node-z", "r/d/c") }

def reported : Tracked :=
  (setScore 10).apply {} "r/d/c" "node-x" "gossip" ⟨Quarantine.onePeer, ∅⟩ 0 {}

def lowered : Tracked := (setScore 0).apply {} "r/d/c" "node-x" "gossip" reported 0 {}

end Rating

end Falak.Health
