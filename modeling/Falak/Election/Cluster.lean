import Falak.Election.Round
import Falak.Lib.Reach

/-! Any number of rounds on any number of nodes, with the messages between them and the clock. -/

namespace Falak.Election

structure Cluster (ι : Type) where
  now : Int
  localClaims : String → CapsuleID → Bool
  rounds : ι → Round
  inbox : ι → List Message

inductive Action (ι : Type)
  | tick (now : Int)
  | run (i : ι) (choice : Choice)
  | deliver (i : ι) (position : Nat)
  /-- A message of any origin reaches a round's listener. -/
  | inject (i : ι) (message : Message)
  | cancel (i : ι)
  /-- A round's listener is closed by `ClusterTopic.Stop`. -/
  | close (i : ι)

namespace Cluster

variable {ι : Type} [DecidableEq ι]

variable (p : ι → RoundParams) (w : Cluster ι) (i : ι)

def setRound (r : Round) : Cluster ι :=
  { w with rounds := Function.update w.rounds i r }

def addressed (sender receiver : ι) : Bool :=
  (p sender).nodeID != (p receiver).nodeID
    && (p sender).req.capsuleID == (p receiver).req.capsuleID
    && (p sender).req.replicaID == (p receiver).req.replicaID
    && (p sender).req.clusterPath == (p receiver).req.clusterPath

def post (sender : ι) (inbox : ι → List Message) :
    Option Message → ι → List Message
  | none => inbox
  | some message => fun receiver =>
    if addressed p sender receiver then inbox receiver ++ [message] else inbox receiver

def commit (e : Effect) : Cluster ι :=
  { w with
    localClaims := fun node capsule =>
      if node = (p i).nodeID ∧ capsule = (p i).req.capsuleID then e.slot
      else w.localClaims node capsule
    rounds := Function.update w.rounds i e.round
    inbox := post p i w.inbox e.out }

def slot : Bool :=
  w.localClaims (p i).nodeID (p i).req.capsuleID

def step : Action ι → Option (Cluster ι)
  | .tick now => if w.now ≤ now then some { w with now := now } else none
  | .run i choice => ((w.rounds i).step (p i) w.now (w.slot p i) choice).map (w.commit p i)
  | .deliver i position =>
    (w.inbox i)[position]?.map fun message =>
      { w.setRound i { w.rounds i with listener := (w.rounds i).listener.dispatch message } with
        inbox := Function.update w.inbox i ((w.inbox i).eraseIdx position) }
  | .inject i message =>
    some (w.setRound i { w.rounds i with listener := (w.rounds i).listener.dispatch message })
  | .cancel i => some (w.setRound i { w.rounds i with cancelled := true })
  | .close i => some (w.setRound i { w.rounds i with listener := (w.rounds i).listener.close })

def start (now : Int) (listeners : ι → Listener) : Cluster ι :=
  { now := now
    localClaims := fun _ _ => false
    rounds := fun i => .init (listeners i)
    inbox := fun _ => [] }

def init (now : Int) : Cluster ι := start now fun _ => .new 16

end Cluster

end Falak.Election
