import Falak.Health.Bookkeeping
import Falak.Health.Monitor

/-! A node that answers every ping is never suspected. -/

namespace Falak.Health

open Phonebook

namespace NodeRecord

variable {v : NodeRecord}

structure Calm (increment : Rat) (raised : Prop) (v : NodeRecord) : Prop where
  timer : v.timer = none
  active : ∀ row ∈ v.row, row.status = .active
  score : ∀ row ∈ v.row, row.tracking.reliabilityScore = 0 ∨
    raised ∧ row.tracking.reliabilityScore = increment

variable {increment : Rat} {raised : Prop} {eff : EffectiveThresholds}

theorem Calm.mono {raised' : Prop} (calm : v.Calm increment raised) (weaker : raised → raised') :
    v.Calm increment raised' :=
  ⟨calm.timer, calm.active, fun row there => (calm.score row there).imp_right (.imp_left weaker)⟩

theorem Calm.withScore {raised' : Prop} (calm : v.Calm increment raised) (now : Int) {score : Rat}
    (fine : score = 0 ∨ raised' ∧ score = increment) :
    (v.write none (·.withScore now score)).Calm increment raised' := by
  refine ⟨calm.timer, ?_, ?_⟩
  · intro row there
    obtain ⟨old, held, rfl⟩ := Option.map_eq_some_iff.mp there
    exact calm.active old held
  · intro row there
    obtain ⟨old, held, rfl⟩ := Option.map_eq_some_iff.mp there
    exact fine

theorem Calm.withActive (calm : v.Calm increment raised) (now : Int) (fault : Option String) :
    (v.write fault (·.withStatus now .active)).Calm increment raised := by
  cases fault with
  | some err => exact calm
  | none =>
    -- The score of the row stays.
    refine ⟨calm.timer, ?_, ?_⟩
    · intro row there
      obtain ⟨old, held, rfl⟩ := Option.map_eq_some_iff.mp there
      rfl
    · intro row there
      obtain ⟨old, held, rfl⟩ := Option.map_eq_some_iff.mp there
      exact calm.score old held

theorem crossing_of_lt {oldScore newScore : Rat} (quarantine : newScore < eff.quarantineThreshold)
    (suspected : newScore < eff.suspectedThreshold) :
    crossing eff oldScore newScore = .none := by
  rw [crossing, if_neg (fun crossed => not_lt_of_ge crossed.2 quarantine),
    if_neg (fun crossed => not_lt_of_ge crossed.2 suspected)]

theorem Calm.recordFailure (calm : v.Calm increment False)
    (quarantine : increment < eff.quarantineThreshold)
    (suspected : increment < eff.suspectedThreshold) (now : Int) (faults : ScoreFaults) :
    (v.recordFailure increment eff now faults).Calm increment True := by
  have kept : v.Calm increment True := calm.mono False.elim
  unfold NodeRecord.recordFailure
  cases got : v.read faults.get with
  | none => exact kept
  | some row =>
    have held : row ∈ v.row := row_of_read got
    have zero : row.tracking.reliabilityScore = 0 :=
      (calm.score row held).resolve_right fun raised => raised.1
    simp only [zero, zero_add]
    cases faults.score with
    | some err => exact kept
    | none =>
      simp only [Option.isSome_none, Bool.false_eq_true, if_false, checkThresholds,
        crossing_of_lt quarantine suspected]
      exact calm.withScore now (.inr ⟨trivial, rfl⟩)

theorem Calm.recordSuccess (calm : v.Calm increment raised) (now : Int) (faults : ScoreFaults) :
    (v.recordSuccess now faults).Calm increment raised := by
  have scored : (v.write none (·.withScore now 0)).Calm increment raised :=
    calm.withScore now (.inl rfl)
  unfold NodeRecord.recordSuccess
  cases v.read faults.get with
  | none => exact calm
  | some row =>
    simp only
    split
    · exact calm
    · split
      · exact scored
      · have active := scored.withActive now none
        exact ⟨rfl, active.active, active.score⟩

theorem Calm.recordSuccess_reset (calm : v.Calm increment raised) (now : Int) :
    (v.recordSuccess now {}).Calm increment False := by
  have scored : (v.write none (·.withScore now 0)).Calm increment False :=
    calm.withScore now (.inl rfl)
  have active := scored.withActive now none
  unfold NodeRecord.recordSuccess
  cases got : v.read none with
  | none =>
    -- Without a row there is nothing to reset.
    have absent : v.row = none := got
    exact ⟨calm.timer, by simp [absent], by simp [absent]⟩
  | some row => exact ⟨rfl, active.active, active.score⟩

theorem Calm.setAlive (calm : v.Calm increment raised) (now : Int) (faults : ScoreFaults) :
    (v.setAlive now faults).Calm increment raised := by
  have scored : (v.write faults.score (·.withScore now 0)).Calm increment raised := by
    cases faults.score with
    | some err => exact calm
    | none => exact calm.withScore now (.inl rfl)
  -- The timer is removed whatever the database says.
  have active := scored.withActive now faults.status
  exact ⟨rfl, active.active, active.score⟩

theorem Calm.expire (calm : v.Calm increment raised) (timeout now : Int) (fault : Option String) :
    (v.expire timeout now fault).Calm increment raised := by
  have early : ¬ v.Expired timeout now := by
    rintro ⟨at_, timer, -⟩
    rw [calm.timer] at timer
    cases timer
  rw [NodeRecord.expire, if_neg fun due => early due.1]
  exact calm

end NodeRecord

namespace Tracked

variable {cfg : ScoreConfig} {clusterPath nodeID : String} {s : Tracked} {increment : Rat}
  {raised : Prop}

theorem calm_recordSuccess (calm : (s.record clusterPath nodeID).Calm increment raised) (now : Int)
    (faults : ScoreFaults) (target reason : String) :
    ((s.recordSuccess clusterPath now faults target reason).state.record clusterPath nodeID).Calm
      increment raised := by
  by_cases same : target = nodeID
  · subst same
    rw [record_recordSuccess]
    exact calm.recordSuccess now faults
  · rw [record_recordSuccess_of_ne (Ne.symm same)]
    exact calm

theorem calm_setScore (calm : (s.record clusterPath nodeID).Calm increment raised) (now : Int)
    (faults : ScoreFaults) (target reason : String) (score : Rat) (alive : Bool)
    (harmless : target = nodeID → alive = true) :
    ((s.setScore cfg clusterPath now faults target score alive reason).state.record clusterPath
      nodeID).Calm increment raised := by
  by_cases same : target = nodeID
  · rw [harmless same]
    subst same
    rw [record_setScore_alive]
    exact calm.setAlive now faults
  · rw [record_setScore_of_ne (Ne.symm same)]
    exact calm

theorem calm_checkQuarantineTimeouts (calm : (s.record clusterPath nodeID).Calm increment raised)
    (now : Int) (faults : CheckFaults) :
    ((s.checkQuarantineTimeouts cfg clusterPath now faults).state.record clusterPath nodeID).Calm
        increment raised ∧
      nodeID ∉ (s.checkQuarantineTimeouts cfg clusterPath now faults).result := by
  constructor
  · rw [record_checkQuarantineTimeouts]
    exact calm.expire ..
  · rw [mem_checkQuarantineTimeouts]
    rintro ⟨⟨at_, timer, -⟩, -⟩
    rw [calm.timer] at timer
    cases timer

end Tracked

def Payload.Harmless (nodeID : String) (gentle : Prop) : Payload → Prop
  | .scoreUpdate target _ alive _ _ => target = nodeID → alive = true
  | .pingRequest target _ _ => target = nodeID → gentle
  | .thresholdCrossed _ _ _ => True

namespace Monitor

variable {P : Type} {env : MonitorEnv P} {cfg : MonitorConfig} {self : String}
  {now : Int} {m : Monitor} {nodeID : String} {gentle : Prop}

structure Calm (env : MonitorEnv P) (cfg : MonitorConfig) (nodeID : String) (gentle : Prop)
    (m : Monitor) : Prop where
  record : (m.tracked.record env.clusterPath nodeID).Calm cfg.score.scoreIncrement
    (m.handler = some (.indirect nodeID))
  kept : nodeID ∉ m.removing
  probed : m.handler = some (.respond nodeID) ∨ m.handler = some (.indirect nodeID) → gentle

def Fine (env : MonitorEnv P) (cfg : MonitorConfig) (nodeID : String) (gentle : Prop)
    (after : Monitor × List Payload) : Prop :=
  after.1.Calm env cfg nodeID gentle ∧ ∀ p ∈ after.2, p.Harmless nodeID gentle

theorem Calm.withProtocol (calm : m.Calm env cfg nodeID gentle) (protocol : Option ProtocolState) :
    Calm env cfg nodeID gentle { m with protocol := protocol } :=
  ⟨calm.record, calm.kept, calm.probed⟩

variable {handler : Option HandlerState} {target : String} {action : Action}

section

variable (calm : m.Calm env cfg nodeID gentle)
include calm

theorem Calm.withHandler (other : m.handler ≠ some (.indirect nodeID))
    (probed : handler = some (.respond nodeID) ∨ handler = some (.indirect nodeID) → gentle) :
    Calm env cfg nodeID gentle { m with handler := handler } :=
  ⟨calm.record.mono fun raised => absurd raised other, calm.kept, probed⟩

theorem Calm.withoutProbe (other : m.handler ≠ some (.indirect nodeID))
    (respond : handler ≠ some (.respond nodeID)) (indirect : handler ≠ some (.indirect nodeID)) :
    Calm env cfg nodeID gentle { m with handler := handler } :=
  calm.withHandler other fun probed => absurd probed (not_or.mpr ⟨respond, indirect⟩)

theorem Calm.withTracked {tracked : Tracked}
    (record : (tracked.record env.clusterPath nodeID).Calm cfg.score.scoreIncrement
      (m.handler = some (.indirect nodeID))) :
    Calm env cfg nodeID gentle { m with tracked := tracked } :=
  ⟨record, calm.kept, calm.probed⟩

theorem Calm.runProtocolPeriod (fault : Option String) (index : Nat) :
    (m.runProtocolPeriod env self fault index).Calm env cfg nodeID gentle := by
  unfold Monitor.runProtocolPeriod
  split
  · exact calm
  · split
    · exact calm
    · exact calm.withProtocol _

theorem Calm.onProbeSuccess (faults : ScoreFaults) (target : String) :
    Fine env cfg nodeID gentle (m.onProbeSuccess env self now faults target) := by
  refine ⟨(calm.withTracked ?_).withProtocol none, ?_⟩
  · exact Tracked.calm_recordSuccess calm.record now faults target "direct"
  · simp [Monitor.onProbeSuccess, Payload.Harmless]

theorem Calm.onDirectPingFail (faults : ScoreFaults)
    (other : target ≠ nodeID) (requestID : String) :
    Fine env cfg nodeID gentle
      (m.onDirectPingFail env cfg self now faults target requestID) := by
  refine ⟨(calm.withTracked ?_).withProtocol _, ?_⟩
  · rw [Tracked.record_recordFailure_of_ne other.symm]
    exact calm.record
  · simp [Monitor.onDirectPingFail, Payload.Harmless, other]

end

theorem harmless_publishCrossed (fault : Option String) (target : String) (newScore : Rat) :
    ∀ p ∈ m.publishCrossed env self fault target newScore, p.Harmless nodeID gentle := by
  unfold publishCrossed
  split
  · simp
  · split <;> simp [Payload.Harmless]

theorem Calm.handleMessage [DecidableEq P] (calm : m.Calm env cfg nodeID gentle)
    (idle : m.handler = none) (receipt : Receipt) {msg : HealthMessage}
    (harmless : msg.payload.Harmless nodeID gentle) :
    (m.handleMessage env cfg self now receipt msg).Calm env cfg nodeID gentle := by
  have other : m.handler ≠ some (.indirect nodeID) := by
    rw [idle]
    exact (Option.some_ne_none _).symm
  unfold Monitor.handleMessage
  split
  · exact calm
  split
  · cases payload : msg.payload with
    | scoreUpdate target score alive updatedBy reason =>
      rw [payload] at harmless
      exact calm.withTracked (Tracked.calm_setScore calm.record now receipt.scores target reason
        score alive harmless)
    | pingRequest target requester requestID =>
      rw [payload] at harmless
      simp only [onPingRequest]
      split
      · exact calm
      split
      · exact calm
      split
      · refine calm.withHandler other ?_
        rintro (same | same)
        · exact harmless (by simpa using same)
        · cases same
      · exact calm
    | thresholdCrossed target score reportedBy =>
      simp only [onThresholdCrossed]
      split
      · exact calm
      · exact calm.withoutProbe other (by simp) (by simp)
  · exact calm

section

variable (calm : m.Calm env cfg nodeID gentle)
include calm

theorem Calm.startIndirect
    (suspected : ∀ size, cfg.score.scoreIncrement
      < (cfg.score.computeEffective size).suspectedThreshold)
    (quarantine : gentle → ∀ size, cfg.score.scoreIncrement
      < (cfg.score.computeEffective size).quarantineThreshold)
    (faults : ScoreFaults) (responds : m.handler = some (.respond target)) :
    (m.startIndirect env cfg now faults target).Calm env cfg nodeID gentle := by
  by_cases same : target = nodeID
  · subst same
    have allowed := calm.probed (.inl responds)
    refine ⟨?_, calm.kept, fun _ => allowed⟩
    simp only [Monitor.startIndirect, Tracked.record_recordFailure]
    have before := calm.record
    rw [responds] at before
    exact ((before.mono fun raised => by cases raised).recordFailure (quarantine allowed _)
      (suspected _) now faults).mono fun _ => trivial
  · refine ⟨?_, calm.kept, ?_⟩
    · simp only [Monitor.startIndirect, Tracked.record_recordFailure_of_ne (Ne.symm same)]
      refine calm.record.mono fun raised => ?_
      rw [responds] at raised
      cases raised
    · rintro (probed | probed)
      · cases probed
      · exact absurd (by simpa [Monitor.startIndirect] using probed) same

theorem Calm.finishIndirect {success : Bool} {faults : ScoreFaults}
    (probes : m.handler = some (.indirect target))
    (answers : target = nodeID → success = true ∧ faults = {}) :
    Fine env cfg nodeID gentle (m.finishIndirect env self now success faults target) := by
  by_cases same : target = nodeID
  · -- The answer takes the increment back.
    obtain ⟨rfl, rfl⟩ := answers same
    subst same
    refine ⟨⟨?_, calm.kept, ?_⟩, ?_⟩
    · simp only [Monitor.finishIndirect, if_true, Tracked.record_recordSuccess]
      exact (calm.record.recordSuccess_reset now).mono False.elim
    · rintro (probed | probed) <;> cases probed
    · simp [Monitor.finishIndirect, Payload.Harmless]
  · have other : m.handler ≠ some (.indirect nodeID) := by
      rw [probes]
      simpa using same
    cases success with
    | true =>
      have recorded := calm.withTracked (Tracked.calm_recordSuccess calm.record now faults target
        "indirect_ping_success")
      refine ⟨recorded.withoutProbe other (by simp) (by simp), ?_⟩
      simp [Monitor.finishIndirect, Payload.Harmless]
    | false =>
      refine ⟨calm.withoutProbe other (by simp) (by simp), ?_⟩
      simp [Monitor.finishIndirect, Payload.Harmless, same]

theorem Calm.finishConfirm (success : Bool) (faults : ScoreFaults)
    (probes : m.handler = some (.confirm target)) :
    Fine env cfg nodeID gentle (m.finishConfirm env self now success faults target) := by
  have other : m.handler ≠ some (.indirect nodeID) := by
    rw [probes]
    simp
  cases success with
  | true =>
    have recorded := calm.withTracked (Tracked.calm_recordSuccess calm.record now faults target
      "final_confirmation_success")
    refine ⟨recorded.withoutProbe other (by simp) (by simp), ?_⟩
    simp [Monitor.finishConfirm, Payload.Harmless]
  | false =>
    refine ⟨calm.withoutProbe other (by simp) (by simp), ?_⟩
    simp [Monitor.finishConfirm]

theorem Calm.checkQuarantineTimeouts (faults : CheckFaults) :
    (m.checkQuarantineTimeouts env cfg now faults).Calm env cfg nodeID gentle := by
  obtain ⟨record, kept⟩ := Tracked.calm_checkQuarantineTimeouts calm.record now faults
  exact ⟨record, kept, calm.probed⟩

theorem Calm.removeFailed (fault : Option String) {rest : List String}
    (next : m.removing = target :: rest) :
    (m.removeFailed env fault target rest).Calm env cfg nodeID gentle := by
  have kept := calm.kept
  rw [next, List.mem_cons, not_or] at kept
  refine ⟨?_, kept.2, calm.probed⟩
  -- The row of another node is deleted.
  have same : (m.removeFailed env fault target rest).tracked.record env.clusterPath nodeID
      = m.tracked.record env.clusterPath nodeID := by
    cases fault <;>
      simp [Monitor.removeFailed, Tracked.record, Book.remove, Book.exec, Except.toOption,
        Book.get_erase, kept.1]
  rw [same]
  exact calm.record

theorem Calm.probeQuarantinedPeers (fault : Option String) (requestID : String → String) :
    ∀ p ∈ m.probeQuarantinedPeers env self fault requestID, p.Harmless nodeID gentle := by
  unfold Monitor.probeQuarantinedPeers
  split
  · simp
  · intro p there
    obtain ⟨entry, listed, rfl⟩ := List.mem_map.mp there
    obtain ⟨inCluster, quarantined⟩ := List.mem_filter.mp listed
    rintro rfl
    -- The row of the node itself would be quarantined.
    have active := calm.record.active entry.2 (Book.get_of_mem_getByCluster inCluster)
    simp [active] at quarantined

end

def Answers (env : MonitorEnv P) (nodeID : String) (m : Monitor) : Action → Prop
  | .directPing success _ _ => m.protocol = some (.ping nodeID) → success = true
  | .handlerPing success faults =>
    m.handler = some (.indirect nodeID) → success = true ∧ faults = {}
  | .change book =>
    book.get nodeID env.clusterPath = m.tracked.book.get nodeID env.clusterPath ∨
      ∀ row, book.get nodeID env.clusterPath = some row →
        row.status = .active ∧ row.tracking.reliabilityScore = 0
  | _ => True

theorem Calm.change (calm : m.Calm env cfg nodeID gentle) {book : Book}
    (answers : m.Answers env nodeID (.change book)) :
    Calm env cfg nodeID gentle { m with tracked := { m.tracked with book := book } } := by
  refine calm.withTracked ?_
  -- The row is the same, or it is as at the start.
  rcases answers with same | fresh
  · have record : Tracked.record env.clusterPath { m.tracked with book := book } nodeID
        = m.tracked.record env.clusterPath nodeID := by
      simp only [Tracked.record, same]
    rw [record]
    exact calm.record
  · exact ⟨calm.record.timer, fun row there => (fresh row there).1,
      fun row there => .inl (fresh row there).2⟩

theorem Calm.step [DecidableEq P] (calm : m.Calm env cfg nodeID gentle)
    {network : List HealthMessage}
    (harmless : ∀ msg ∈ network, msg.payload.Harmless nodeID gentle)
    (suspected : ∀ size, cfg.score.scoreIncrement
      < (cfg.score.computeEffective size).suspectedThreshold)
    (quarantine : gentle → ∀ size, cfg.score.scoreIncrement
      < (cfg.score.computeEffective size).quarantineThreshold)
    (answers : m.Answers env nodeID action) {after : Monitor × List Payload}
    (taken : m.step env cfg self now network action = some after) :
    Fine env cfg nodeID gentle after := by
  have silent {m' : Monitor} (calm : m'.Calm env cfg nodeID gentle) :
      Fine env cfg nodeID gentle (m', []) := ⟨calm, by simp⟩
  cases move_of_step taken with
  | period idle => exact silent (calm.runProtocolPeriod _ _)
  | @answered faults requestID target waits => exact calm.onProbeSuccess faults target
  | @unanswered faults requestID target waits =>
    refine calm.onDirectPingFail faults ?_ requestID
    rintro rfl
    cases answers waits
  | publishedDirect failed => exact ⟨calm.withProtocol none, harmless_publishCrossed _ _ _⟩
  | skipped idle listed => exact silent calm
  | @received index receivedFrom receipt msg idle listed other sorted =>
    have published := harmless msg (List.mem_of_getElem? listed)
    exact silent (calm.handleMessage idle receipt published)
  | @startedIndirect faults target responds =>
    exact silent (calm.startIndirect suspected quarantine faults responds)
  | finishedIndirect waits =>
    refine calm.finishIndirect waits ?_
    rintro rfl
    exact answers waits
  | @finishedConfirm success faults target waits => exact calm.finishConfirm success faults waits
  | publishedIndirect failed =>
    have idle := calm.withoutProbe (by simp [failed]) (Option.some_ne_none _).symm
      (Option.some_ne_none _).symm
    exact ⟨idle, harmless_publishCrossed _ _ _⟩
  | @checked faults done => exact silent (calm.checkQuarantineTimeouts faults)
  | @removed fault target rest next => exact silent (calm.removeFailed fault next)
  | @requested fault requestID => exact ⟨calm, calm.probeQuarantinedPeers fault requestID⟩
  | changed => exact silent (calm.change answers)

def Action.free : Action → Bool
  | .directPing .. | .handlerPing .. | .change _ => false
  | _ => true

theorem answers_of_free (free : action.free = true) : m.Answers env nodeID action := by
  cases action with
  | directPing | handlerPing | change => cases free
  | _ => trivial

end Monitor

namespace Swim

variable {P : Type} {env : MonitorEnv P} {configs : String → MonitorConfig} {nodeID : String}

def Gentle (configs : String → MonitorConfig) : Prop :=
  ∀ n size, (configs n).score.scoreIncrement
    < ((configs n).score.computeEffective size).quarantineThreshold

structure Fresh (env : MonitorEnv P) (configs : String → MonitorConfig) (nodeID : String)
    (s : Swim) : Prop where
  active : ∀ n row, (s.nodes n).tracked.book.get nodeID env.clusterPath = some row →
    row.status = .active ∧ row.tracking.reliabilityScore = 0
  timer : ∀ n, (s.nodes n).tracked.quarantineTimers.lookup nodeID = none
  idle : ∀ n, (s.nodes n).handler = none ∧ (s.nodes n).removing = []
  harmless : ∀ msg ∈ s.network, msg.payload.Harmless nodeID (Gentle configs)

structure Calm (env : MonitorEnv P) (configs : String → MonitorConfig) (nodeID : String)
    (s : Swim) : Prop where
  nodes : ∀ n, (s.nodes n).Calm env (configs n) nodeID (Gentle configs)
  network : ∀ msg ∈ s.network, msg.payload.Harmless nodeID (Gentle configs)

theorem Fresh.calm {s : Swim} (fresh : s.Fresh env configs nodeID) :
    s.Calm env configs nodeID := by
  refine ⟨fun n => ⟨⟨fresh.timer n, fun row there => (fresh.active n row there).1,
    fun row there => .inl (fresh.active n row there).2⟩, ?_, ?_⟩, fresh.harmless⟩
  · simp [(fresh.idle n).2]
  · simp [(fresh.idle n).1]

theorem Calm.step [DecidableEq P] {s s' : Swim} (calm : s.Calm env configs nodeID)
    (suspected : ∀ n size, (configs n).score.scoreIncrement
      < ((configs n).score.computeEffective size).suspectedThreshold)
    {a : String × Int × Monitor.Action} (answers : (s.nodes a.1).Answers env nodeID a.2.2)
    (taken : s.step env configs a = some s') : s'.Calm env configs nodeID := by
  obtain ⟨after, stepped, rfl⟩ := Option.map_eq_some_iff.mp taken
  obtain ⟨calm', harmless⟩ := (calm.nodes a.1).step calm.network (suspected a.1)
    (fun gentle => gentle a.1) answers stepped
  constructor
  · intro n
    by_cases same : n = a.1
    · subst same
      simpa using calm'
    · simpa [Function.update_of_ne same] using calm.nodes n
  · intro msg there
    rcases List.mem_append.mp there with before | published
    · exact calm.network msg before
    · obtain ⟨payload, listed, rfl⟩ := List.mem_map.mp published
      exact harmless payload listed

/--
A node that answers every ping is active on every node that knows it, and its score is under the
suspected threshold of every cluster size, if the increment is.
-/
theorem never_suspected [DecidableEq P]
    (suspected : ∀ n size, (configs n).score.scoreIncrement
      < ((configs n).score.computeEffective size).suspectedThreshold)
    {start s : Swim} (fresh : start.Fresh env configs nodeID)
    (reached : Reach (step env configs) (fun s a => (s.nodes a.1).Answers env nodeID a.2.2) start s)
    {n : String} {row : Row}
    (there : (s.nodes n).tracked.book.get nodeID env.clusterPath = some row) :
    row.status = .active ∧
      ∀ size, 0 < ((configs n).score.computeEffective size).suspectedThreshold →
        row.tracking.reliabilityScore
          < ((configs n).score.computeEffective size).suspectedThreshold := by
  have calm : s.Calm env configs nodeID := reached.invariant (Calm env configs nodeID) fresh.calm
    fun _ _ _ calm answers taken => calm.step suspected answers taken
  have record := (calm.nodes n).record
  refine ⟨record.active row there, fun size positive => ?_⟩
  rcases record.score row there with zero | ⟨-, raised⟩
  · rw [zero]
    exact positive
  · rw [raised]
    exact suspected n size

def defaults : String → MonitorConfig := fun _ => {}

theorem defaults_increment_lt (n : String) (size : Nat) :
    (defaults n).score.scoreIncrement
        < ((defaults n).score.computeEffective size).suspectedThreshold ∧
      (defaults n).score.scoreIncrement
        < ((defaults n).score.computeEffective size).quarantineThreshold := by
  by_cases three : (3 : Int) ≤ size <;> by_cases six : (6 : Int) ≤ size <;>
    by_cases eleven : (11 : Int) ≤ size <;>
    simp [defaults, ScoreConfig.computeEffective, defaultScaleBands, three, six, eleven] <;>
    decide +kernel

def trusting : MonitorEnv String := ⟨"r/d/c", some, fun _ _ => true⟩

def asked : Swim :=
  { nodes := fun _ => ⟨⟨Quarantine.threePeers, ∅⟩, none, none, []⟩
    network := [⟨.pingRequest "node-x" "node-z" "request", "node-z", 0⟩] }

def responding : List (String × Int × Monitor.Action) :=
  [("node-y", 0, .receive 0 "node-z" ⟨none, none, {}, Quarantine.threePeers.getByCluster "r/d/c"⟩),
    ("node-y", 0, .startIndirect {})]

/-- A node that answers is not suspected while another one probes it. -/
theorem never_suspected_probed :
    ∃ s row, Reach (step trusting defaults)
        (fun s a => (s.nodes a.1).Answers trusting "node-x" a.2.2) asked s ∧
      (s.nodes "node-y").tracked.book.get "node-x" "r/d/c" = some row ∧
      row.tracking.reliabilityScore = 1 / 2 ∧ row.status = .active := by
  have known : Quarantine.threePeers.get "node-x" "r/d/c" = some Quarantine.knownPeer := by
    decide +kernel
  have fresh : asked.Fresh trusting defaults "node-x" := by
    refine ⟨?_, fun _ => rfl, fun _ => ⟨rfl, rfl⟩, ?_⟩
    · intro n row there
      obtain rfl : Quarantine.knownPeer = row := Option.some.inj (known.symm.trans there)
      decide +kernel
    · intro msg there
      obtain rfl := List.mem_singleton.mp there
      exact fun _ n size => (defaults_increment_lt n size).2
  obtain ⟨s, reached, ends⟩ := Reach.exists_of_accepted (fun _ a => a.2.2.free)
    (fun _ _ free => Monitor.answers_of_free free) (step trusting defaults) asked responding
    (fun s => ((s.nodes "node-y").tracked.book.get "node-x" "r/d/c").map (fun row =>
      row.tracking.reliabilityScore) = some (1 / 2)) (by decide +kernel)
  obtain ⟨row, there, score⟩ := Option.map_eq_some_iff.mp ends
  obtain ⟨active, -⟩ := never_suspected (fun n size => (defaults_increment_lt n size).1) fresh
    reached there
  exact ⟨s, row, reached, there, score, active⟩

end Swim

end Falak.Health
