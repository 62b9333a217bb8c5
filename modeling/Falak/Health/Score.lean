import Falak.Phonebook.Statements

/-!
The reliability scores of the nodes of a cluster, and the tracker that turns them into statuses.

Scores are the finite values of the source's float64, compared as rationals. Every call is given the
errors that the database returns for its statements, if it returns any.
-/

namespace Falak.Health

open Phonebook

structure ClusterSizeScaleBand where
  minNodes : Int
  thresholdScale : Rat
  timeoutScale : Rat
  deriving DecidableEq

def defaultScaleBands : List ClusterSizeScaleBand :=
  [⟨0, 3 / 10, 33 / 100⟩, ⟨3, 1 / 2, 1 / 2⟩, ⟨6, 7 / 10, 67 / 100⟩, ⟨11, 1, 1⟩]

structure ScoreConfig where
  scoreIncrement : Rat := 1 / 2
  suspectedThreshold : Rat := 4
  quarantineThreshold : Rat := 10
  quarantineTimeout : Int := 30 * second
  scaleBands : List ClusterSizeScaleBand := defaultScaleBands

structure EffectiveThresholds where
  suspectedThreshold : Rat
  quarantineThreshold : Rat
  quarantineTimeout : Int
  deriving DecidableEq

def ScoreConfig.computeEffective (cfg : ScoreConfig) (clusterSize : Nat) : EffectiveThresholds :=
  let bands := if cfg.scaleBands.isEmpty then defaultScaleBands else cfg.scaleBands
  -- Without such a band everything is scaled to zero.
  let band := bands.foldl
    (fun band (b : ClusterSizeScaleBand) => if b.minNodes ≤ (clusterSize : Int) then b else band)
    ⟨0, 0, 0⟩
  let timeout := cfg.quarantineTimeout * band.timeoutScale
  { suspectedThreshold := cfg.suspectedThreshold * band.thresholdScale
    quarantineThreshold := cfg.quarantineThreshold * band.thresholdScale
    -- A duration has no fraction.
    quarantineTimeout := timeout.num.tdiv timeout.den }

inductive HealthEvent
  | nodeSuspected (nodeID : String) (score : Rat)
  | nodeQuarantined (nodeID : String) (score : Rat)
  | nodeRecovered (nodeID : String) (previousStatus : NodeStatus)
  | nodeFailed (nodeID : String)
  | nodeProbeResult (nodeID : String) (success : Bool) (probeType : String) (score : Rat)
  deriving DecidableEq

structure ScoreFaults where
  get : Option String := none
  score : Option String := none
  status : Option String := none
  cluster : Option String := none
  deriving DecidableEq

structure CheckFaults where
  cluster : Option String := none
  status : String → Option String := fun _ => none

structure Tracked where
  book : Book
  quarantineTimers : AList fun _ : String => Int

structure Outcome (α : Type) where
  state : Tracked
  events : List HealthEvent
  result : α

inductive Crossing
  | quarantine
  | suspected
  | none
  deriving DecidableEq

def crossing (eff : EffectiveThresholds) (oldScore newScore : Rat) : Crossing :=
  if oldScore < eff.quarantineThreshold ∧ eff.quarantineThreshold ≤ newScore then .quarantine
  else if oldScore < eff.suspectedThreshold ∧ eff.suspectedThreshold ≤ newScore then .suspected
  else .none

namespace Tracked

section Calls

variable (cfg : ScoreConfig) (clusterPath : String) (s : Tracked) (now : Int)

variable (faults : ScoreFaults) (fault : Option String)

def clusterSize : Nat :=
  if fault.isSome then 1 else (s.book.getByCluster clusterPath).length

def effective : EffectiveThresholds :=
  cfg.computeEffective (s.clusterSize clusterPath fault)

def trySetStatus (nodeID : String) (status : NodeStatus) : Tracked :=
  { s with book := (s.book.setStatus now fault nodeID clusterPath status).toOption.getD s.book }

def checkThresholds (nodeID : String) (oldScore newScore : Rat) (reason : String) :
    Tracked × List HealthEvent :=
  let probe := HealthEvent.nodeProbeResult nodeID false reason newScore
  match crossing (s.effective cfg clusterPath faults.cluster) oldScore newScore with
  | .quarantine =>
    let marked := s.trySetStatus clusterPath now faults.status nodeID .quarantined
    ({ marked with quarantineTimers := marked.quarantineTimers.insert nodeID now },
      [.nodeQuarantined nodeID newScore])
  | .suspected =>
    (s.trySetStatus clusterPath now faults.status nodeID .suspected,
      [.nodeSuspected nodeID newScore, probe])
  | .none => (s, [probe])

def recordFailure (nodeID reason : String) : Outcome Rat :=
  match s.book.read faults.get nodeID clusterPath with
  | none => ⟨s, [], 0⟩
  | some row =>
    let oldScore := row.tracking.reliabilityScore
    let newScore := oldScore + cfg.scoreIncrement
    match s.book.setReliabilityScore now faults.score nodeID clusterPath newScore with
    | .error _ => ⟨s, [], oldScore⟩
    | .ok book =>
      let checked := checkThresholds cfg clusterPath { s with book := book } now faults nodeID
        oldScore newScore reason
      ⟨checked.1, checked.2, newScore⟩

def recovery (nodeID : String) (oldStatus : NodeStatus) : List HealthEvent :=
  if oldStatus = .suspected ∨ oldStatus = .quarantined then [.nodeRecovered nodeID oldStatus]
  else []

def recordSuccess (nodeID reason : String) : Outcome Unit :=
  match s.book.read faults.get nodeID clusterPath with
  | none => ⟨s, [], ()⟩
  | some row =>
    match s.book.setReliabilityScore now faults.score nodeID clusterPath 0 with
    | .error _ => ⟨s, [], ()⟩
    | .ok scored =>
      match scored.setStatus now faults.status nodeID clusterPath .active with
      | .error _ => ⟨{ s with book := scored }, [], ()⟩
      | .ok book =>
        ⟨⟨book, s.quarantineTimers.erase nodeID⟩,
          recovery nodeID row.status ++ [.nodeProbeResult nodeID true reason 0], ()⟩

def setScore (nodeID : String) (score : Rat) (alive : Bool) (reason : String) : Outcome Unit :=
  let scored (value : Rat) : Book :=
    (s.book.setReliabilityScore now faults.score nodeID clusterPath value).toOption.getD s.book
  if alive then
    let marked := Tracked.trySetStatus clusterPath { s with book := scored 0 } now faults.status
      nodeID .active
    ⟨{ marked with quarantineTimers := marked.quarantineTimers.erase nodeID },
      match s.book.read faults.get nodeID clusterPath with
      | none => []
      | some row => recovery nodeID row.status, ()⟩
  else
    match s.book.read faults.get nodeID clusterPath with
    | none => ⟨s, [], ()⟩
    | some row =>
      let checked := checkThresholds cfg clusterPath { s with book := scored score } now faults
        nodeID row.tracking.reliabilityScore score reason
      ⟨checked.1, checked.2, ()⟩

def getScore (nodeID : String) : Rat :=
  match s.book.read fault nodeID clusterPath with
  | none => 0
  | some row => row.tracking.reliabilityScore

/-- Mark one node as failed if its quarantine has lasted too long. -/
def expire (timeout : Int) (faults : CheckFaults) (acc : Tracked × List String)
    (timer : Sigma fun _ : String => Int) : Tracked × List String :=
  if now - timer.2 ≤ timeout then acc
  else
    match acc.1.book.setStatus now (faults.status timer.1) timer.1 clusterPath .failed with
    | .error _ => acc
    | .ok book => (⟨book, acc.1.quarantineTimers.erase timer.1⟩, acc.2 ++ [timer.1])

def checkQuarantineTimeouts (faults : CheckFaults) : Outcome (List String) :=
  let timeout := (s.effective cfg clusterPath faults.cluster).quarantineTimeout
  let after := s.quarantineTimers.entries.foldl (expire clusterPath now timeout faults) (s, [])
  ⟨after.1, after.2.map .nodeFailed, after.2⟩

end Calls

end Tracked

end Falak.Health
