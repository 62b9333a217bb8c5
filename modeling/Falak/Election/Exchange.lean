import Falak.Election.Topic
import Falak.Lib.Reach

/-!
Concurrent calls on one election topic, with a record of what happens to each message.

Any number of calls of `dispatchClaim`, `dispatchFailure`, `Listen`, its cancel function and
`sweepBuffer` overlap. They interfere only between their sections under the topic's lock and under
a listener's lock.
-/

namespace Falak.Election

variable (c : Cell)

inductive Delivery
  | delivered
  | full
  | closed
  deriving DecidableEq, Repr

def Listener.deliveryTo {α : Type} (l : Listener) (channel : Chan α) : Delivery :=
  if l.closed then .closed else if channel.buf.length < channel.cap then .delivered else .full

def Listener.delivery (l : Listener) : Message → Delivery
  | .claim _ => l.deliveryTo l.claims
  | .failed _ => l.deliveryTo l.failures

structure Listened where
  key : MessageKey
  listenedAt : Int
  capacity : Nat
  deriving DecidableEq, Repr

structure Cell where
  listener : Listener
  cancelled : Bool
  claims : List Claim
  failures : List ElectionFailed

def Cell.close : Cell := { c with listener := c.listener.close }

def Cell.dispatch (m : Message) (c : Cell) : Cell := { c with listener := c.listener.dispatch m }

def Cell.takeClaim (claim : Claim) (rest : Chan Claim) : Cell :=
  { c with listener.claims := rest, claims := c.claims ++ [claim] }

def Cell.takeFailure (failed : ElectionFailed) (rest : Chan ElectionFailed) : Cell :=
  { c with listener.failures := rest, failures := c.failures ++ [failed] }

@[simp] theorem Cell.close_cancelled : c.close.cancelled = c.cancelled := rfl

@[simp] theorem Cell.dispatch_cancelled (m : Message) (c : Cell) :
    (c.dispatch m).cancelled = c.cancelled := rfl

@[simp] theorem Cell.takeClaim_cancelled (claim : Claim) (rest : Chan Claim) :
    (c.takeClaim claim rest).cancelled = c.cancelled := rfl

@[simp] theorem Cell.takeFailure_cancelled (failed : ElectionFailed) (rest : Chan ElectionFailed) :
    (c.takeFailure failed rest).cancelled = c.cancelled := rfl

structure Arrived where
  message : Message
  receivedAt : Int
  listener : Option Nat
  /-- How many calls of `Listen` had registered a listener before. -/
  listens : Nat
  deriving DecidableEq, Repr

structure Offer where
  arrival : Arrival
  call : Nat
  replayed : Bool
  delivery : Delivery
  deriving DecidableEq, Repr

structure Exchange where
  now : Int
  topic : ClusterTopic
  listens : List Listened
  cells : List Cell
  /-- The messages that each call of `Listen` has yet to replay. -/
  queued : Nat → List BufferedMessage
  dispatches : List (Arrival × Nat)
  arrivals : List Arrived
  offers : List Offer

inductive Call
  | tick (now : Int)
  | arrive (m : Message)
  | dispatch (a : Arrival) (l : Nat)
  /-- The locked part of `Listen`. -/
  | listen (key : MessageKey) (bufferSize : Int)
  | replay (l : Nat)
  | cancel (l : Nat)
  | close (l : Nat)
  | takeClaim (l : Nat)
  | takeFailure (l : Nat)
  | sweep (readAt : Int)

namespace Exchange

variable (w : Exchange)

def new (now : Int) : Exchange := ⟨now, .empty, [], [], fun _ => [], [], [], []⟩

def capacity (bufferSize : Int) : Nat := if bufferSize ≤ 0 then 8 else bufferSize.toNat

def offer (a : Arrival) (l : Nat) (replayed : Bool) (c : Cell) : Exchange :=
  { w with
    cells := w.cells.modify l (Cell.dispatch a.message)
    offers := w.offers ++ [⟨a, l, replayed, c.listener.delivery a.message⟩] }

def arrive (m : Message) : Exchange :=
  let a : Arrival := ⟨w.arrivals.length, m⟩
  let (topic, listener) := w.topic.receive w.now a
  { w with
    topic := topic
    arrivals := w.arrivals ++ [⟨m, w.now, listener, w.listens.length⟩]
    dispatches := match listener with
      | none => w.dispatches
      | some l => w.dispatches ++ [(a, l)] }

def listen (key : MessageKey) (bufferSize : Int) : Exchange :=
  let l := w.listens.length
  let replaced := match w.topic.listeners.lookup key with
    | none => w.cells
    | some existing => w.cells.modify existing Cell.close
  { w with
    topic := w.topic.listen key l
    listens := w.listens ++ [⟨key, w.now, capacity bufferSize⟩]
    cells := replaced ++ [⟨.new (capacity bufferSize), false, [], []⟩]
    queued := Function.update w.queued l (w.topic.buffered key) }

def setCell (l : Nat) (c : Cell) : Exchange := { w with cells := w.cells.set l c }

def step : Call → Option Exchange
  | .tick now => if w.now ≤ now then some { w with now := now } else none
  | .arrive m => some (w.arrive m)
  | .dispatch a l =>
    if (a, l) ∈ w.dispatches then
      w.cells[l]?.map
        (({ w with dispatches := w.dispatches.erase (a, l) } : Exchange).offer a l false)
    else none
  | .listen key bufferSize => some (w.listen key bufferSize)
  | .replay l =>
    match w.queued l with
    | [] => none
    | m :: queued =>
      w.cells[l]?.map
        (({ w with queued := Function.update w.queued l queued } : Exchange).offer m.arrival l true)
  | .cancel l =>
    if w.queued l = [] then
      match w.listens[l]?, w.cells[l]? with
      | some listened, some c =>
        some { w.setCell l { c with cancelled := true } with
          topic := w.topic.unlisten listened.key l }
      | _, _ => none
    else none
  | .close l =>
    match w.cells[l]? with
    | some c => if c.cancelled then some (w.setCell l c.close) else none
    | none => none
  | .takeClaim l =>
    match w.cells[l]? with
    | some c =>
      match c.listener.claims.recv with
      | some (.value claim rest) => some (w.setCell l (c.takeClaim claim rest))
      | _ => none
    | none => none
  | .takeFailure l =>
    match w.cells[l]? with
    | some c =>
      match c.listener.failures.recv with
      | some (.value failed rest) => some (w.setCell l (c.takeFailure failed rest))
      | _ => none
    | none => none
  | .sweep readAt =>
    if readAt ≤ w.now then some { w with topic := w.topic.sweepBuffer readAt } else none

inductive Move (w : Exchange) : Call → Exchange → Prop
  | tick {now : Int} (later : w.now ≤ now) : Move w (.tick now) { w with now := now }
  | buffer {m : Message} (unheard : w.topic.listeners.lookup m.key = none) :
      Move w (.arrive m)
        { w with
          topic := (w.topic.receive w.now ⟨w.arrivals.length, m⟩).1
          arrivals := w.arrivals ++ [⟨m, w.now, none, w.listens.length⟩] }
  | route {m : Message} {l : Nat} (found : w.topic.listeners.lookup m.key = some l) :
      Move w (.arrive m)
        { w with
          arrivals := w.arrivals ++ [⟨m, w.now, some l, w.listens.length⟩]
          dispatches := w.dispatches ++ [(⟨w.arrivals.length, m⟩, l)] }
  | dispatch {a : Arrival} {l : Nat} {c : Cell} (pending : (a, l) ∈ w.dispatches)
      (here : w.cells[l]? = some c) :
      Move w (.dispatch a l)
        (({ w with dispatches := w.dispatches.erase (a, l) } : Exchange).offer a l false c)
  | listen (key : MessageKey) (bufferSize : Int) :
      Move w (.listen key bufferSize) (w.listen key bufferSize)
  | replay {l : Nat} {m : BufferedMessage} {queued : List BufferedMessage} {c : Cell}
      (next : w.queued l = m :: queued) (here : w.cells[l]? = some c) :
      Move w (.replay l)
        (({ w with queued := Function.update w.queued l queued } : Exchange).offer m.arrival l
          true c)
  | cancel {l : Nat} {listened : Listened} {c : Cell} (replayed : w.queued l = [])
      (call : w.listens[l]? = some listened) (here : w.cells[l]? = some c) :
      Move w (.cancel l)
        { w.setCell l { c with cancelled := true } with
          topic := w.topic.unlisten listened.key l }
  | close {l : Nat} {c : Cell} (here : w.cells[l]? = some c) (cancelled : c.cancelled = true) :
      Move w (.close l) (w.setCell l c.close)
  | takeClaim {l : Nat} {c : Cell} {claim : Claim} {rest : Chan Claim}
      (here : w.cells[l]? = some c)
      (received : c.listener.claims.recv = some (.value claim rest)) :
      Move w (.takeClaim l) (w.setCell l (c.takeClaim claim rest))
  | takeFailure {l : Nat} {c : Cell} {failed : ElectionFailed} {rest : Chan ElectionFailed}
      (here : w.cells[l]? = some c)
      (received : c.listener.failures.recv = some (.value failed rest)) :
      Move w (.takeFailure l) (w.setCell l (c.takeFailure failed rest))
  | sweep {readAt : Int} (read : readAt ≤ w.now) :
      Move w (.sweep readAt) { w with topic := w.topic.sweepBuffer readAt }

theorem step_move {w w' : Exchange} {call : Call} (stepped : step w call = some w') :
    Move w call w' := by
  cases call with
  | tick now =>
    obtain ⟨later, rfl⟩ := of_guard stepped
    exact .tick later
  | arrive m =>
    cases stepped
    -- A message without a listener is buffered.
    cases found : w.topic.listeners.lookup m.key with
    | none => simpa [arrive, ClusterTopic.receive, found] using Move.buffer found
    | some l => simpa [arrive, ClusterTopic.receive, found] using Move.route found
  | dispatch a l =>
    simp only [step, Option.ite_none_right_eq_some, Option.map_eq_some_iff] at stepped
    obtain ⟨pending, c, here, rfl⟩ := stepped
    exact .dispatch pending here
  | listen key bufferSize =>
    cases stepped
    exact .listen key bufferSize
  | replay l =>
    simp only [step] at stepped
    split at stepped
    · cases stepped
    · rename_i m queued next
      simp only [Option.map_eq_some_iff] at stepped
      obtain ⟨c, here, rfl⟩ := stepped
      exact .replay next here
  | cancel l =>
    simp only [step, Option.ite_none_right_eq_some] at stepped
    obtain ⟨replayed, stepped⟩ := stepped
    split at stepped
    · rename_i listened c call here
      cases stepped
      exact .cancel replayed call here
    · cases stepped
  | close l =>
    simp only [step] at stepped
    split at stepped
    · rename_i c here
      obtain ⟨cancelled, rfl⟩ := of_guard stepped
      exact .close here cancelled
    · cases stepped
  | takeClaim l =>
    simp only [step] at stepped
    split at stepped
    · rename_i c here
      split at stepped
      · rename_i claim rest received
        cases stepped
        exact .takeClaim here received
      · cases stepped
    · cases stepped
  | takeFailure l =>
    simp only [step] at stepped
    split at stepped
    · rename_i c here
      split at stepped
      · rename_i failed rest received
        cases stepped
        exact .takeFailure here received
      · cases stepped
    · cases stepped
  | sweep readAt =>
    obtain ⟨read, rfl⟩ := of_guard stepped
    exact .sweep read

end Exchange

end Falak.Election
