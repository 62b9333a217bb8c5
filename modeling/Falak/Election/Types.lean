import Falak.Gravity.Types
import Falak.Lib.Clock

/-! The messages, requests and decisions of the election package. -/

namespace Falak.Election

abbrev CapsuleID := String

structure Claim where
  capsuleID : CapsuleID
  replicaID : String
  clusterPath : String
  nodeID : String
  gravityScore : Score
  timestampMicros : Int
  deriving DecidableEq, Repr

structure ElectionFailed where
  capsuleID : CapsuleID
  replicaID : String
  clusterPath : String
  senderID : String
  reason : String
  timestampMicros : Int
  deriving DecidableEq, Repr

inductive Message
  | claim (c : Claim)
  | failed (f : ElectionFailed)
  deriving DecidableEq, Repr

def Message.claim? : Message → Option Claim
  | .claim c => some c
  | .failed _ => none

def Message.failed? : Message → Option ElectionFailed
  | .claim _ => none
  | .failed f => some f

structure Request where
  capsuleID : CapsuleID
  replicaID : String
  clusterPath : String
  deriving DecidableEq, Repr

structure Decision where
  eligible : Bool
  score : Score
  publishAt : Int
  reason : String
  deriving DecidableEq, Repr

inductive Outcome
  | won
  | lost
  | failed
  deriving DecidableEq, Repr

structure Report where
  outcome : Outcome
  winner : String
  score : Score
  reason : String
  deriving DecidableEq, Repr

end Falak.Election
