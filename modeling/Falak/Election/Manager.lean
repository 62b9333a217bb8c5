import Falak.Election.Round
import Falak.Election.Topic

/-!
One node's election manager with its topics and rounds.

An event is what one goroutine does between two points where another can interfere: a section
under a lock, a send to a listener, or a step of a round.
-/

namespace Falak.Election

inductive Ctx
  | unset
  | live
  | cancelled
  deriving DecidableEq, Repr

inductive Loop
  | idle
  | handling (a : Arrival)
  | dispatching (a : Arrival) (l : Nat)
  deriving DecidableEq, Repr

inductive Stage
  | live
  | waiting
  /-- `ClusterTopic.Stop` has been called. -/
  | stopping
  /-- The receive loop has ended and every listener was closed. -/
  | stopped
  deriving DecidableEq, Repr

structure OpenTopic where
  topic : ClusterTopic
  loop : Loop
  stage : Stage

inductive Phase
  | registered
  /-- The goroutine calls `Listen` next. -/
  | launched
  | listening (queued : List BufferedMessage)
  /-- `runElection` is between `Listen` and its deferred call. -/
  | running
  | unlistened
  | closed
  | removed
  | done
  deriving DecidableEq, Repr

structure Flight where
  params : RoundParams
  topic : Nat
  phase : Phase
  round : Round

def Flight.key (f : Flight) : MessageKey := f.params.req.key

def Flight.closeListener (f : Flight) : Flight :=
  { f with round.listener := f.round.listener.close }

def Flight.dispatch (m : Message) (f : Flight) : Flight :=
  { f with round.listener := f.round.listener.dispatch m }

def Flight.cancel (f : Flight) : Flight := { f with round.cancelled := true }

def Round.unwind (r : Round) : Round :=
  { r with
    listener := r.listener.close
    pc := if r.pc = .panicked then .panicked else .returned }

structure Manager where
  nodeID : String
  tiebreakWindow : Int
  now : Int
  ctx : Ctx
  topics : AList fun _ : String => Nat
  /-- The goroutine that is in flight for each key. -/
  inflight : MessageKey → Option Nat
  localClaims : CapsuleID → Bool
  opened : List OpenTopic
  flights : List Flight

structure Surroundings where
  configured : Bool
  found : Bool
  strategy : Option (Int → Decision)
  timeout : Int

inductive Event
  | tick (now : Int)
  | start
  /-- The context given to `Start` is cancelled by its owner. -/
  | cancelParent
  | joinCluster (path : String) (pubsub : Bool) (opening : Except String Unit)
  | leaveCluster (path : String)
  | handleRequest (req : Request) (around : Surroundings)
  | launch (i : Nat)
  /-- The locked part of `Listen`. -/
  | listen (i : Nat)
  | replay (i : Nat)
  | run (i : Nat) (choice : Choice)
  /-- The locked part of the deferred `cancelListen`. -/
  | unlisten (i : Nat)
  | close (i : Nat)
  | removeInflight (i : Nat)
  | finish (i : Nat)
  | forgetCapsule (id : CapsuleID)
  | handle (t : Nat) (envelope : ElectionMessage)
  /-- The locked part of `dispatchClaim` and `dispatchFailure`. -/
  | receive (t : Nat)
  | dispatch (t : Nat)
  | sweep (t : Nat) (readAt : Int)
  /-- The locked part of `Manager.Stop`. -/
  | stop
  /-- `Manager.Stop` sees that every started goroutine has ended. -/
  | waited
  /-- The locked part of `ClusterTopic.Stop`. -/
  | stopTopic (t : Nat)

namespace Manager

variable (w : Manager) (i t : Nat) (path : String) (f : Flight)

def new (nodeID : String) (tiebreakWindow now : Int) : Manager :=
  { nodeID := nodeID
    tiebreakWindow := tiebreakWindow
    now := now
    ctx := .unset
    topics := ∅
    inflight := fun _ => none
    localClaims := fun _ => false
    opened := []
    flights := [] }

def start : Manager := if w.ctx = .unset then { w with ctx := .live } else w

def cancel : Manager :=
  if w.ctx = .unset then w
  else { w with ctx := .cancelled, flights := w.flights.map Flight.cancel }

def openTopic : Manager :=
  { w with
    topics := w.topics.insert path w.opened.length
    opened := w.opened ++ [⟨.empty, .idle, .live⟩] }

def joinCluster (pubsub : Bool) (opening : Except String Unit) :
    Except String Manager :=
  if w.ctx = .unset then .error "election manager: not started"
  else if (w.topics.lookup path).isSome then .ok w
  else if !pubsub then .error "election manager: pubsub not configured"
  else match opening with
    | .error err => .error ("election manager: join cluster " ++ path ++ ": " ++ err)
    | .ok () => .ok (w.openTopic path)

/-- `LeaveCluster` forgets the topic of a cluster and stops it. -/
def leaveCluster : Manager :=
  match w.topics.lookup path with
  | none => w
  | some t =>
    { w with
      topics := w.topics.erase path
      opened := w.opened.modify t fun o => { o with stage := .stopping } }

def newFlight (req : Request) (t : Nat) (strategy : Int → Decision) (timeout : Int) :
    Flight :=
  { params := ⟨w.nodeID, req, strategy, timeout, w.tiebreakWindow⟩
    topic := t
    phase := .registered
    round := { Round.init (.new 16) with cancelled := w.ctx == .cancelled } }

def register : Manager :=
  { w with
    inflight := Function.update w.inflight f.key (some w.flights.length)
    flights := w.flights ++ [f] }

def handleRequest (req : Request) (around : Surroundings) : Except String Manager :=
  if w.ctx = .unset then .error "election manager: not started"
  else if !around.configured then
    .error ("election manager: missing required dependency " ++
      "(store, lifecycle, calculator, or provider)")
  else if !around.found then .error ("election manager: capsule " ++ req.capsuleID ++ " not found")
  else if (w.inflight req.key).isSome then .ok w
  else match w.topics.lookup req.clusterPath with
    | none => .error ("election manager: cluster " ++ req.clusterPath ++ " not joined")
    | some t =>
      match around.strategy with
      | none => .error "election manager: no strategy configured"
      | some strategy => .ok (w.register (w.newFlight req t strategy around.timeout))

def stop : Manager :=
  { w.cancel with
    inflight := fun _ => none
    topics := ∅
    opened := w.opened.mapIdx fun t o =>
      if w.topics.entries.any (·.2 == t) then { o with stage := .waiting } else o }

def counted : Bool := f.phase != .registered && f.phase != .done

def setFlight : Manager :=
  { w with flights := w.flights.set i f }

def setTopic (o : OpenTopic) : Manager :=
  { w with opened := w.opened.set t o }

def listen (o : OpenTopic) : Manager :=
  let replaced := match o.topic.listeners.lookup f.key with
    | none => w.flights
    | some l => w.flights.modify l Flight.closeListener
  { w with
    flights := replaced.set i { f with phase := .listening (o.topic.buffered f.key) }
    opened := w.opened.set f.topic { o with topic := o.topic.listen f.key i } }

def commit (e : Effect) : Manager :=
  { w with
    localClaims := Function.update w.localClaims f.params.req.capsuleID e.slot
    flights := w.flights.set i { f with round := e.round } }

def stopTopic (o : OpenTopic) : Manager :=
  { w with
    flights := w.flights.mapIdx fun i f =>
      if o.topic.registered i then f.closeListener else f
    opened := w.opened.set t ⟨.empty, .idle, .stopped⟩ }

def open? (choice : Choice) : Bool :=
  match f.round.pc, choice with
  -- The deferred call is split into two events.
  | .unlisten, _ => false
  | .report _, .go => (w.topics.lookup f.params.req.clusterPath).isSome
  | _, _ => true

def flightStep : Event → Option Manager
  | .launch _ =>
    if f.phase = .registered then some (w.setFlight i { f with phase := .launched }) else none
  | .listen _ =>
    if f.phase = .launched then w.opened[f.topic]?.map (w.listen i f) else none
  | .replay _ =>
    match f.phase with
    | .listening [] => some (w.setFlight i { f with phase := .running })
    | .listening (m :: queued) =>
      some (w.setFlight i { f.dispatch m.arrival.message with phase := .listening queued })
    | _ => none
  | .run _ choice =>
    if f.phase = .running && w.open? f choice then
      (f.round.step f.params w.now (w.localClaims f.params.req.capsuleID) choice).map
        (w.commit i f)
    else none
  | .unlisten _ =>
    if f.phase = .running && (f.round.pc = .unlisten || f.round.pc = .panicked) then
      w.opened[f.topic]?.map fun o =>
        (w.setFlight i { f with phase := .unlistened }).setTopic f.topic
          { o with topic := o.topic.unlisten f.key i }
    else none
  | .close _ =>
    if f.phase = .unlistened then
      some (w.setFlight i { f with phase := .closed, round := f.round.unwind })
    else none
  | .removeInflight _ =>
    if f.phase = .closed then
      some { w.setFlight i { f with phase := .removed } with
        inflight := Function.update w.inflight f.key none }
    else none
  | .finish _ =>
    if f.phase = .removed then some (w.setFlight i { f.cancel with phase := .done }) else none
  | _ => none

def topicStep (o : OpenTopic) : Event → Option Manager
  | .handle _ envelope =>
    if o.loop = .idle && o.stage != .stopped then
      match envelope.handle w.nodeID w.now with
      | none => some w
      | some a => some (w.setTopic t { o with loop := .handling a })
    else none
  | .receive _ =>
    match o.loop with
    | .handling a =>
      match o.topic.receive w.now a with
      | (topic, none) => some (w.setTopic t { o with topic := topic, loop := .idle })
      | (topic, some l) => some (w.setTopic t { o with topic := topic, loop := .dispatching a l })
    | _ => none
  | .dispatch _ =>
    match o.loop with
    | .dispatching a l =>
      some { w.setTopic t { o with loop := .idle } with
        flights := w.flights.modify l (Flight.dispatch a.message) }
    | _ => none
  | .sweep _ readAt =>
    if readAt ≤ w.now ∧ o.stage ≠ .stopped then
      some (w.setTopic t { o with topic := o.topic.sweepBuffer readAt })
    else none
  | .stopTopic _ =>
    if o.stage = .stopping ∧ o.loop = .idle then some (w.stopTopic t o) else none
  | _ => none

def step (e : Event) : Option Manager :=
  match e with
  | .tick now => if w.now ≤ now then some { w with now := now } else none
  | .start => some w.start
  | .cancelParent => some w.cancel
  | .joinCluster path pubsub opening => (w.joinCluster path pubsub opening).toOption
  | .leaveCluster path => some (w.leaveCluster path)
  | .handleRequest req around => (w.handleRequest req around).toOption
  | .forgetCapsule id => some { w with localClaims := Function.update w.localClaims id false }
  | .stop => some w.stop
  | .waited =>
    if w.flights.any counted then none
    else some { w with
      opened := w.opened.map fun o =>
        if o.stage = .waiting then { o with stage := .stopping } else o }
  | .launch i | .listen i | .replay i | .run i _ | .unlisten i | .close i | .removeInflight i
  | .finish i => w.flights[i]?.bind fun f => w.flightStep i f e
  | .handle t _ | .receive t | .dispatch t | .sweep t _ | .stopTopic t =>
    w.opened[t]?.bind fun o => w.topicStep t o e

end Manager

end Falak.Election
