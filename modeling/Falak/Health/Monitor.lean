import Falak.Health.Score
import Mathlib.Data.List.Perm.Basic

/-!
The health monitors of a cluster: how each probes its peers, and what it does when it hears of the
probes of the others.

A ping takes its time, and the loops of a monitor run side by side. So a loop has a state of its own
wherever it waits, and before it reads the phonebook again. What is published stays available: a
message is delivered to a node late, often or never.
-/

namespace Falak.Health

open Phonebook

inductive Payload
  | scoreUpdate (targetNodeID : String) (score : Rat) (alive : Bool) (updatedBy reason : String)
  | pingRequest (targetNodeID requesterID requestID : String)
  | thresholdCrossed (targetNodeID : String) (score : Rat) (reportedBy : String)
  deriving DecidableEq

structure HealthMessage where
  payload : Payload
  senderID : String
  timestamp : Int
  deriving DecidableEq

structure MonitorEnv (P : Type) where
  clusterPath : String
  decode : String → Option P
  verify : Bytes → HealthMessage → Bool

structure MonitorConfig where
  score : ScoreConfig := {}
  maxResponders : Int := 2
  maxMessageAge : Int := 30 * second

inductive ProtocolState
  | ping (target : String)
  | failed (target : String) (newScore : Rat)
  deriving DecidableEq

inductive HandlerState
  | respond (target : String)
  | indirect (target : String)
  | failed (target : String) (newScore : Rat)
  /-- For the answer to a final ping. -/
  | confirm (target : String)
  deriving DecidableEq

abbrev Peer := Sigma fun _ : String × String => Row

def Peer.nodeID (peer : Peer) : String := peer.1.1

structure Monitor where
  tracked : Tracked
  protocol : Option ProtocolState := none
  handler : Option HandlerState := none
  removing : List String := []

structure Receipt where
  sender : Option String := none
  cluster : Option String := none
  scores : ScoreFaults := {}
  order : List Peer

namespace Monitor

section Handlers

variable {P : Type} [DecidableEq P] (env : MonitorEnv P) (cfg : MonitorConfig) (self : String)
  (now : Int) (m : Monitor)

variable (receipt : Receipt) (faults : ScoreFaults) (targetNodeID : String) (fault : Option String)
  (nodeID : String)

def selectRandomActivePeer (index : Nat) : Option Peer :=
  if fault.isSome then none
  else
    ((m.tracked.book.getByCluster env.clusterPath).filter fun p =>
      p.1.1 ≠ self ∧ p.2.status ≠ .quarantined ∧ p.2.status ≠ .failed)[index]?

/-- Pick a peer and ping it. -/
def runProtocolPeriod (index : Nat) : Monitor :=
  match m.selectRandomActivePeer env self fault index with
  | none => m
  | some target =>
    match env.decode target.nodeID with
    | none => m
    | some _ => { m with protocol := some (.ping target.nodeID) }

def onProbeSuccess : Monitor × List Payload :=
  ({ m with
      tracked := (m.tracked.recordSuccess env.clusterPath now faults nodeID "direct").state
      protocol := none },
    [.scoreUpdate nodeID 0 true self "direct_ping_success"])

def onDirectPingFail (requestID : String) : Monitor × List Payload :=
  let recorded := m.tracked.recordFailure cfg.score env.clusterPath now faults nodeID
    "direct_ping_fail"
  ({ m with tracked := recorded.state, protocol := some (.failed nodeID recorded.result) },
    [.scoreUpdate nodeID recorded.result false self "direct_ping_fail",
      .pingRequest nodeID self requestID])

def publishCrossed (newScore : Rat) : List Payload :=
  match m.tracked.book.read fault nodeID env.clusterPath with
  | none => []
  | some row => if row.status = .quarantined then [.thresholdCrossed nodeID newScore self] else []

def onScoreUpdate (score : Rat) (alive : Bool) (reason : String) : Monitor :=
  { m with
    tracked := (m.tracked.setScore cfg.score env.clusterPath now faults targetNodeID score alive
      reason).state }

def isAmongFirst (target : P) : Int → List Peer → Bool
  | _, [] => false
  | position, p :: rest =>
    if env.decode p.nodeID = some target then isAmongFirst target position rest
    else if p.2.status ≠ .active then isAmongFirst target position rest
    else if p.nodeID = self then position < cfg.maxResponders
    else if cfg.maxResponders ≤ position + 1 then false
    else isAmongFirst target (position + 1) rest

def isTopResponder (target : P) : Bool :=
  if receipt.cluster.isSome then false else isAmongFirst env cfg self target 0 receipt.order

def Sorted (order : List Peer) : Prop :=
  order.Perm (m.tracked.book.getByCluster env.clusterPath) ∧
    order.Pairwise fun p q => p.2.firstSeen ≤ q.2.firstSeen

instance (order : List Peer) : Decidable (m.Sorted env order) :=
  inferInstanceAs (Decidable (_ ∧ _))

def onPingRequest (requesterID : String) : Monitor :=
  if requesterID = self then m
  else
    match env.decode targetNodeID with
    | none => m
    | some target =>
      if isTopResponder env cfg self receipt target then
        { m with handler := some (.respond targetNodeID) }
      else m

/-- The score of the target is raised before it is probed. -/
def startIndirect : Monitor :=
  { m with
    tracked := (m.tracked.recordFailure cfg.score env.clusterPath now faults nodeID
      "indirect_pre_probe").state
    handler := some (.indirect nodeID) }

/-- The target of a ping request has answered or not. -/
def finishIndirect (success : Bool) (faults : ScoreFaults) (nodeID : String) :
    Monitor × List Payload :=
  if success then
    ({ m with
        tracked := (m.tracked.recordSuccess env.clusterPath now faults nodeID
          "indirect_ping_success").state
        handler := none },
      [.scoreUpdate nodeID 0 true self "indirect_ping_success"])
  else
    let newScore := m.tracked.getScore env.clusterPath faults.get nodeID
    ({ m with handler := some (.failed nodeID newScore) },
      [.scoreUpdate nodeID newScore false self "indirect_ping_fail"])

def onThresholdCrossed : Monitor :=
  match env.decode targetNodeID with
  | none => m
  | some _ => { m with handler := some (.confirm targetNodeID) }

/-- The target of a final ping has answered or not. -/
def finishConfirm (success : Bool) (faults : ScoreFaults) (nodeID : String) :
    Monitor × List Payload :=
  if success then
    ({ m with
        tracked := (m.tracked.recordSuccess env.clusterPath now faults nodeID
          "final_confirmation_success").state
        handler := none },
      [.scoreUpdate nodeID 0 true self "final_confirmation_success"])
  else ({ m with handler := none }, [])

def verifySignature (msg : HealthMessage) : Bool :=
  match m.tracked.book.read fault msg.senderID env.clusterPath with
  | none => false
  | some row => env.verify row.publicKey msg

def handleMessage (msg : HealthMessage) : Monitor :=
  if cfg.maxMessageAge < now - msg.timestamp then m
  else if m.verifySignature env receipt.sender msg then
    match msg.payload with
    | .scoreUpdate targetNodeID score alive _ reason =>
      m.onScoreUpdate env cfg now receipt.scores targetNodeID score alive reason
    | .pingRequest targetNodeID requesterID _ =>
      m.onPingRequest env cfg self receipt targetNodeID requesterID
    | .thresholdCrossed targetNodeID _ _ => m.onThresholdCrossed env targetNodeID
  else m

def checkQuarantineTimeouts (faults : CheckFaults) : Monitor :=
  let checked := m.tracked.checkQuarantineTimeouts cfg.score env.clusterPath now faults
  { m with tracked := checked.state, removing := checked.result }

/-- Remove a failed node from the phonebook. An error is ignored. -/
def removeFailed (rest : List String) : Monitor :=
  { m with
    tracked :=
      { m.tracked with
        book := (m.tracked.book.remove fault nodeID env.clusterPath).toOption.getD m.tracked.book }
    removing := rest }

def probeQuarantinedPeers (requestID : String → String) : List Payload :=
  if fault.isSome then []
  else
    (m.tracked.book.getByStatus env.clusterPath .quarantined).map fun p =>
      .pingRequest p.1.1 self (requestID p.1.1)

end Handlers

inductive Action
  | runProtocolPeriod (fault : Option String) (index : Nat)
  | directPing (success : Bool) (faults : ScoreFaults) (requestID : String)
  | publishDirect (fault : Option String)
  | receive (index : Nat) (receivedFrom : String) (receipt : Receipt)
  | startIndirect (faults : ScoreFaults)
  | handlerPing (success : Bool) (faults : ScoreFaults)
  | publishIndirect (fault : Option String)
  | checkQuarantineTimeouts (faults : CheckFaults)
  | removeFailed (fault : Option String)
  | probeQuarantinedPeers (fault : Option String) (requestID : String → String)
  | change (book : Book)

def step {P : Type} [DecidableEq P] (env : MonitorEnv P) (cfg : MonitorConfig) (self : String)
    (now : Int) (network : List HealthMessage) (m : Monitor) :
    Action → Option (Monitor × List Payload)
  | .runProtocolPeriod fault index =>
    match m.protocol with
    | none => some (m.runProtocolPeriod env self fault index, [])
    | some _ => none
  | .directPing success faults requestID =>
    match m.protocol with
    | some (.ping target) =>
      some (if success then m.onProbeSuccess env self now faults target
        else m.onDirectPingFail env cfg self now faults target requestID)
    | _ => none
  | .publishDirect fault =>
    match m.protocol with
    | some (.failed target newScore) =>
      some ({ m with protocol := none }, m.publishCrossed env self fault target newScore)
    | _ => none
  | .receive index receivedFrom receipt =>
    match m.handler, network[index]? with
    | none, some msg =>
      -- A node skips its own messages.
      if receivedFrom = self then some (m, [])
      else if m.Sorted env receipt.order then
        some (m.handleMessage env cfg self now receipt msg, [])
      else none
    | _, _ => none
  | .startIndirect faults =>
    match m.handler with
    | some (.respond target) => some (m.startIndirect env cfg now faults target, [])
    | _ => none
  | .handlerPing success faults =>
    match m.handler with
    | some (.indirect target) => some (m.finishIndirect env self now success faults target)
    | some (.confirm target) => some (m.finishConfirm env self now success faults target)
    | _ => none
  | .publishIndirect fault =>
    match m.handler with
    | some (.failed target newScore) =>
      some ({ m with handler := none }, m.publishCrossed env self fault target newScore)
    | _ => none
  | .checkQuarantineTimeouts faults =>
    if m.removing = [] then some (m.checkQuarantineTimeouts env cfg now faults, []) else none
  | .removeFailed fault =>
    match m.removing with
    | nodeID :: rest => some (m.removeFailed env fault nodeID rest, [])
    | [] => none
  | .probeQuarantinedPeers fault requestID =>
    some (m, m.probeQuarantinedPeers env self fault requestID)
  | .change book => some ({ m with tracked := { m.tracked with book := book } }, [])

section Moves

variable {P : Type} [DecidableEq P] (env : MonitorEnv P) (cfg : MonitorConfig) (self : String)
  (now : Int) (network : List HealthMessage) (m : Monitor)

inductive Move : Action → Monitor × List Payload → Prop
  | period {fault : Option String} {index : Nat} (idle : m.protocol = none) :
    Move (.runProtocolPeriod fault index) (m.runProtocolPeriod env self fault index, [])
  | answered {faults : ScoreFaults} {requestID target : String}
      (waits : m.protocol = some (.ping target)) :
    Move (.directPing true faults requestID) (m.onProbeSuccess env self now faults target)
  | unanswered {faults : ScoreFaults} {requestID target : String}
      (waits : m.protocol = some (.ping target)) :
    Move (.directPing false faults requestID)
      (m.onDirectPingFail env cfg self now faults target requestID)
  | publishedDirect {fault : Option String} {target : String} {newScore : Rat}
      (failed : m.protocol = some (.failed target newScore)) :
    Move (.publishDirect fault)
      ({ m with protocol := none }, m.publishCrossed env self fault target newScore)
  | skipped {index : Nat} {receipt : Receipt} {msg : HealthMessage} (idle : m.handler = none)
      (listed : network[index]? = some msg) :
    Move (.receive index self receipt) (m, [])
  | received {index : Nat} {receivedFrom : String} {receipt : Receipt} {msg : HealthMessage}
      (idle : m.handler = none) (listed : network[index]? = some msg)
      (other : receivedFrom ≠ self) (sorted : m.Sorted env receipt.order) :
    Move (.receive index receivedFrom receipt) (m.handleMessage env cfg self now receipt msg, [])
  | startedIndirect {faults : ScoreFaults} {target : String}
      (responds : m.handler = some (.respond target)) :
    Move (.startIndirect faults) (m.startIndirect env cfg now faults target, [])
  | finishedIndirect {success : Bool} {faults : ScoreFaults} {target : String}
      (waits : m.handler = some (.indirect target)) :
    Move (.handlerPing success faults) (m.finishIndirect env self now success faults target)
  | finishedConfirm {success : Bool} {faults : ScoreFaults} {target : String}
      (waits : m.handler = some (.confirm target)) :
    Move (.handlerPing success faults) (m.finishConfirm env self now success faults target)
  | publishedIndirect {fault : Option String} {target : String} {newScore : Rat}
      (failed : m.handler = some (.failed target newScore)) :
    Move (.publishIndirect fault)
      ({ m with handler := none }, m.publishCrossed env self fault target newScore)
  | checked {faults : CheckFaults} (done : m.removing = []) :
    Move (.checkQuarantineTimeouts faults) (m.checkQuarantineTimeouts env cfg now faults, [])
  | removed {fault : Option String} {nodeID : String} {rest : List String}
      (next : m.removing = nodeID :: rest) :
    Move (.removeFailed fault) (m.removeFailed env fault nodeID rest, [])
  | requested {fault : Option String} {requestID : String → String} :
    Move (.probeQuarantinedPeers fault requestID)
      (m, m.probeQuarantinedPeers env self fault requestID)
  | changed {book : Book} :
    Move (.change book) ({ m with tracked := { m.tracked with book := book } }, [])

variable {env cfg self now network m}

theorem move_of_step {action : Action} {after : Monitor × List Payload}
    (taken : m.step env cfg self now network action = some after) :
    Move env cfg self now network m action after := by
  cases action with
  | runProtocolPeriod fault index =>
    simp only [step] at taken
    split at taken
    · cases taken
      exact .period ‹_›
    · cases taken
  | directPing success faults requestID =>
    simp only [step] at taken
    split at taken
    · -- The answer decides which handler goes on.
      cases taken
      cases success with
      | true => exact .answered ‹_›
      | false => exact .unanswered ‹_›
    · cases taken
  | publishDirect fault =>
    simp only [step] at taken
    split at taken
    · cases taken
      exact .publishedDirect ‹_›
    · cases taken
  | receive index receivedFrom receipt =>
    simp only [step] at taken
    split at taken
    · rename_i msg idle listed
      -- A node does not handle its own messages.
      split at taken
      · rename_i own
        cases taken
        obtain rfl := own
        exact .skipped idle listed
      · rename_i other
        split at taken
        · rename_i sorted
          cases taken
          exact .received idle listed other sorted
        · cases taken
    · cases taken
  | startIndirect faults =>
    simp only [step] at taken
    split at taken
    · cases taken
      exact .startedIndirect ‹_›
    · cases taken
  | handlerPing success faults =>
    simp only [step] at taken
    split at taken
    · cases taken
      exact .finishedIndirect ‹_›
    · cases taken
      exact .finishedConfirm ‹_›
    · cases taken
  | publishIndirect fault =>
    simp only [step] at taken
    split at taken
    · cases taken
      exact .publishedIndirect ‹_›
    · cases taken
  | checkQuarantineTimeouts faults =>
    simp only [step] at taken
    split at taken
    · cases taken
      exact .checked ‹_›
    · cases taken
  | removeFailed fault =>
    simp only [step] at taken
    split at taken
    · cases taken
      exact .removed ‹_›
    · cases taken
  | probeQuarantinedPeers fault requestID =>
    cases taken
    exact .requested
  | change book =>
    cases taken
    exact .changed

end Moves

end Monitor

structure Swim where
  nodes : String → Monitor
  network : List HealthMessage

def Swim.step {P : Type} [DecidableEq P] (env : MonitorEnv P) (configs : String → MonitorConfig)
    (s : Swim) (a : String × Int × Monitor.Action) : Option Swim :=
  ((s.nodes a.1).step env (configs a.1) a.1 a.2.1 s.network a.2.2).map fun after =>
    { nodes := Function.update s.nodes a.1 after.1
      network := s.network ++ after.2.map (⟨·, a.1, a.2.1⟩) }

end Falak.Health
