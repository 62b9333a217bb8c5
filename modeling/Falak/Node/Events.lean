import Falak.Capsule.Types

/-! The events on a node's bus that the capsule handler publishes or receives. -/

namespace Falak.Node

open Falak.Capsule

inductive ElectionReason
  | initial
  | scaleUp
  | nodeFailure
  | manual
  | rebalance
  deriving DecidableEq, Repr

structure ElectionRequested where
  capsuleID : CapsuleID
  replicaID : String
  reason : ElectionReason
  clusterPath : String
  previousNodeID : String
  priority : Int
  deriving DecidableEq, Repr

structure ElectionWon where
  capsuleID : CapsuleID
  replicaID : String
  clusterPath : String
  nodeID : String
  deriving DecidableEq, Repr

structure ElectionLost where
  capsuleID : CapsuleID
  replicaID : String
  clusterPath : String
  winnerNodeID : String
  deriving DecidableEq, Repr

structure ElectionFailed where
  capsuleID : CapsuleID
  replicaID : String
  clusterPath : String
  reason : String
  deriving DecidableEq, Repr

structure NodeFailed where
  nodeID : String
  clusterPath : String
  deriving DecidableEq, Repr

structure CapsuleExecutionFailed where
  capsuleID : CapsuleID
  reason : String
  deriving DecidableEq, Repr

structure ScaleEvent where
  capsuleID : CapsuleID
  ruleName : String
  action : ScalingAction
  deriving DecidableEq, Repr

inductive BusEvent
  | capsuleCreated (capsuleID : CapsuleID) (capsuleName orbit clusterPath : String)
  | capsuleUpdated (capsuleID : CapsuleID) (capsuleName clusterPath : String)
  | capsuleReceived (capsuleID : CapsuleID) (capsuleName orbit clusterPath : String)
  | capsuleAnnounced (capsuleID : CapsuleID) (capsuleName orbit clusterPath : String)
  | capsuleWithdrawn (capsuleID : CapsuleID) (clusterPath reason : String)
  | capsuleRunning (capsuleID : CapsuleID)
  | capsuleFailed (event : CapsuleExecutionFailed)
  | scaleUpNeeded (capsuleID : CapsuleID) (ruleName clusterPath : String)
  | scaleDownNeeded (capsuleID : CapsuleID) (ruleName clusterPath : String)
  | scaleToZero (capsuleID : CapsuleID) (ruleName clusterPath : String)
  | electionRequested (req : ElectionRequested)
  deriving DecidableEq, Repr

end Falak.Node
