import Falak.Election.Types

/-! The rule by which a round compares a rival's claim with its own decision. -/

namespace Falak.Election

def isBetter (rival : Claim) (ours : Decision) (ourNodeID : String) : Bool :=
  if rival.gravityScore ≠ ours.score then
    decide (rival.gravityScore > ours.score)
  else
    let rivalTime := rival.timestampMicros
    let ourTime := unixMicro ours.publishAt
    if rivalTime ≠ ourTime then
      decide (rivalTime < ourTime)
    else
      decide (rival.nodeID < ourNodeID)

end Falak.Election
