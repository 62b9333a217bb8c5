import Mathlib.Data.String.Basic
import Mathlib.Algebra.Order.Ring.Unbundled.Rat

/-! What the gravity calculator returns for one capsule on one node. -/

namespace Falak

abbrev Score := Rat

namespace Gravity

inductive IneligibilityReason
  | ok
  | resourcesCPU
  | resourcesMemory
  | resourcesDisk
  | notHealthy
  | placementRule
  | excluded
  deriving DecidableEq, Repr

def IneligibilityReason.text : IneligibilityReason → String
  | .ok => ""
  | .resourcesCPU => "resources.cpu"
  | .resourcesMemory => "resources.memory"
  | .resourcesDisk => "resources.disk"
  | .notHealthy => "node.unhealthy"
  | .placementRule => "placement.rule"
  | .excluded => "excluded"

structure Ineligibility where
  reason : IneligibilityReason
  detail : String
  deriving DecidableEq, Repr

structure Result where
  score : Score
  eligible : Bool
  inelig : Ineligibility
  deriving DecidableEq, Repr

end Gravity

end Falak
