import Falak.Capsule.Types

/-! The defaults of a specification and the checks it has to pass. -/

namespace Falak.Capsule

def defaultPlacementRule (rule : PlacementRule) : PlacementRule :=
  { rule with required := true }

def defaultScalingRule (rule : ScalingRule) : ScalingRule :=
  { rule with
    trigger := if rule.trigger = .unknown "" then .all else rule.trigger
    cooldown := if rule.cooldown = 0 then 60 * second else rule.cooldown }

def orDefault (value default : Int) : Int := if value = 0 then default else value

def defaultHealthCheck (hc : HealthCheck) : HealthCheck :=
  { hc with
    interval := orDefault hc.interval (10 * second)
    timeout := orDefault hc.timeout (3 * second)
    retries := orDefault hc.retries 3
    initialDelay := orDefault hc.initialDelay (5 * second) }

def defaultRuntime (r : RuntimeConfig) : RuntimeConfig :=
  { r with
    network.mode := if r.network.mode = .unknown "" then .bridge else r.network.mode
    statsInterval := orDefault r.statsInterval (5 * second)
    failurePolicy :=
      { restartLimit := orDefault r.failurePolicy.restartLimit 3
        maxNodeAttempts := orDefault r.failurePolicy.maxNodeAttempts 3
        gracefulTimeout := orDefault r.failurePolicy.gracefulTimeout (10 * second) }
    logRetention :=
      { maxFileSizeMB := orDefault r.logRetention.maxFileSizeMB 10
        maxFiles := orDefault r.logRetention.maxFiles 10 }
    healthCheck := r.healthCheck.map defaultHealthCheck
    snapshotConfig :=
      { maxPerCapsule := orDefault r.snapshotConfig.maxPerCapsule 3
        ttl := orDefault r.snapshotConfig.ttl (72 * 3600 * second) } }

def defaultReplicas (r : ReplicaConfig) : ReplicaConfig :=
  if r.exact = 0 ∧ r.min = 0 ∧ r.max = 0 then { r with min := 1, max := 1 } else r

def defaultSpec (spec : CapsuleSpec) : CapsuleSpec :=
  let tier := if spec.tier = .unknown "" then .standard else spec.tier
  { spec with
    tier := tier
    replicas := defaultReplicas spec.replicas
    momentumConfig.base := orDefault spec.momentumConfig.base tier.baseMomentum
    placementRules := spec.placementRules.map defaultPlacementRule
    scalingRules := spec.scalingRules.map defaultScalingRule
    runtime := defaultRuntime spec.runtime }

inductive SpecError
  | nameRequired
  | imageRequired
  | orbitRequired
  | invalidTier
  | invalidCPU
  | invalidMemory
  | invalidDisk
  | invalidReplicas
  | invalidExactReplicas
  | replicaConflict
  | placementType (index : Nat) (type : PlacementType)
  | placementModeRequired (index : Nat)
  | placementModeUnexpected (index : Nat)
  | placementEmpty (index : Nat)
  | placementLabel (index : Nat) (key value : String)
  | scalingName (index : Nat)
  | scalingTrigger (index : Nat) (trigger : TriggerMode)
  | scalingAction (index : Nat) (action : ScalingAction)
  | scalingConditions (index : Nat)
  | scalingCooldown (index : Nat)
  deriving DecidableEq

def quoted (text : String) : String := "\"" ++ text ++ "\""

def sameKeyword : String := "same"

def SpecError.message : SpecError → String
  | .nameRequired => "capsule name is required"
  | .imageRequired => "capsule image is required"
  | .orbitRequired => "capsule orbit is required"
  | .invalidTier => "invalid tier: must be critical, standard, or background"
  | .invalidCPU => "CPU cores must be positive"
  | .invalidMemory => "memory must be positive"
  | .invalidDisk => "disk must be positive"
  | .invalidReplicas => "invalid replica config: min must be <= max, and both positive"
  | .invalidExactReplicas => "exact replicas must be positive"
  | .replicaConflict => "cannot set both exact and min/max replicas"
  | .placementType i type =>
    "placement rule " ++ toString i ++ ": invalid type " ++ quoted (Named.text type)
  | .placementModeRequired i =>
    "placement rule " ++ toString i ++ ": capsule type requires mode (near or away)"
  | .placementModeUnexpected i =>
    "placement rule " ++ toString i ++ ": mode is only valid for capsule type"
  | .placementEmpty i => "placement rule " ++ toString i ++ ": must specify names or labels"
  | .placementLabel i key value =>
    "placement rule " ++ toString i ++ ": capsule affinity label " ++ quoted key ++
      " must use " ++ quoted sameKeyword ++ " keyword, got " ++ quoted value
  | .scalingName i => "scaling rule " ++ toString i ++ ": name is required"
  | .scalingTrigger i trigger =>
    "scaling rule " ++ toString i ++ ": invalid trigger " ++ quoted (Named.text trigger)
  | .scalingAction i action =>
    "scaling rule " ++ toString i ++ ": invalid action " ++ quoted (Named.text action)
  | .scalingConditions i =>
    "scaling rule " ++ toString i ++ ": at least one condition required"
  | .scalingCooldown i => "scaling rule " ++ toString i ++ ": cooldown must be non-negative"

def validateReplicas (r : ReplicaConfig) : Option SpecError :=
  if r.exact > 0 ∧ (r.min > 0 ∨ r.max > 0) then some .replicaConflict
  else if r.exact < 0 then some .invalidExactReplicas
  else if r.exact = 0 then
    if r.min < 0 ∨ r.max < 0 then some .invalidReplicas
    else if r.min > r.max then some .invalidReplicas
    else none
  else none

def validatePlacementRule (rule : PlacementRule) (index : Nat) : Option SpecError :=
  if !rule.type.valid then some (.placementType index rule.type)
  else if rule.type = .capsule ∧ !rule.mode.valid then some (.placementModeRequired index)
  else if rule.type ≠ .capsule ∧ rule.mode ≠ .unknown "" then some (.placementModeUnexpected index)
  else if rule.names.isEmpty ∧ rule.labels.entries.isEmpty then some (.placementEmpty index)
  else if rule.type = .capsule then
    (rule.labels.entries.find? fun entry => entry.2 ≠ sameKeyword).map
      fun entry => .placementLabel index entry.1 entry.2
  else none

def validateScalingRule (rule : ScalingRule) (index : Nat) : Option SpecError :=
  if rule.name = "" then some (.scalingName index)
  else if !rule.trigger.valid then some (.scalingTrigger index rule.trigger)
  else if !rule.action.valid then some (.scalingAction index rule.action)
  else if rule.conditions.isEmpty then some (.scalingConditions index)
  else if rule.cooldown < 0 then some (.scalingCooldown index)
  else none

def validateSpec (spec : CapsuleSpec) : List SpecError :=
  (if spec.name = "" then [.nameRequired] else []) ++
  (if spec.image = "" then [.imageRequired] else []) ++
  (if spec.orbit = "" then [.orbitRequired] else []) ++
  (if spec.tier ≠ .unknown "" ∧ !spec.tier.valid then [.invalidTier] else []) ++
  (if spec.resources.cpuCores < 0 then [.invalidCPU] else []) ++
  (if spec.resources.memoryMB < 0 then [.invalidMemory] else []) ++
  (if spec.resources.diskMB < 0 then [.invalidDisk] else []) ++
  (validateReplicas spec.replicas).toList ++
  spec.placementRules.zipIdx.filterMap (fun (rule, i) => validatePlacementRule rule i) ++
  spec.scalingRules.zipIdx.filterMap (fun (rule, i) => validateScalingRule rule i)

def joinErrors (errs : List SpecError) : String := "\n".intercalate (errs.map SpecError.message)

theorem validateReplicas_of_validateSpec {spec : CapsuleSpec} (accepted : validateSpec spec = []) :
    validateReplicas spec.replicas = none := by
  simp only [validateSpec, List.append_eq_nil_iff, Option.toList_eq_nil_iff] at accepted
  exact accepted.1.1.2

def bareSpec (replicas : ReplicaConfig) : CapsuleSpec :=
  { zeroSpec with name := "web", image := "web:1", orbit := "api", replicas := replicas }

/-- The defaults are enough for the checks. -/
example : validateSpec (defaultSpec (bareSpec ⟨0, 0, 0⟩)) = [] := by decide

end Falak.Capsule
