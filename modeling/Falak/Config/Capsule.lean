import Falak.Lib.Checks
import Falak.Scaling.Rule
import Mathlib.Data.Rat.Defs

/-!
Capsules as a configuration file declares them, and the specification made of them.

Durations and floats are read by the functions of the library; floats are exact.
-/

namespace Falak.Config

open Falak.Capsule

structure ResourcesConfig where
  cpu : Int := 0
  cpuMax : Int := 0
  memory : String := ""
  memoryMax : String := ""
  disk : String := ""

structure ScalingRuleConfig where
  name : String
  trigger : String := ""
  conditions : List String
  action : String
  cooldown : String := ""

/-- A declared placement rule. The flag may be left unset. -/
structure PlacementConfig where
  name : String := ""
  type : String
  mode : String := ""
  targets : List String := []
  labels : Labels := ∅
  required : Option Bool := none

structure PortMapCfg where
  name : String := ""
  container : Int
  host : Int := 0
  protocol : String := ""

structure NetworkCfg where
  mode : String := ""
  ports : List PortMapCfg := []

structure HealthCheckCfg where
  type : String
  path : String := ""
  port : Int
  interval : String := ""
  timeout : String := ""
  retries : Int := 0
  initialDelay : String := ""

structure FailurePolicyCfg where
  restartLimit : Int := 0
  maxNodeAttempts : Int := 0
  gracefulTimeout : String := ""

structure RegistryCfg where
  url : String
  username : String
  password : String

structure SnapshotCfg where
  maxPerCapsule : Int := 0
  ttl : String := ""

structure RuntimeCfg where
  env : Labels := ∅
  network : Option NetworkCfg := none
  healthCheck : Option HealthCheckCfg := none
  failurePolicy : Option FailurePolicyCfg := none
  logRetention : Option LogRetention := none
  statsInterval : String := ""
  registry : Option RegistryCfg := none
  snapshot : Option SnapshotCfg := none

structure MomentumCfg where
  base : Int := 0
  boostOnTraffic : Bool := false
  reduceOnIdle : Bool := false
  idleTimeout : String := ""

structure CapsuleConfig where
  name : String
  image : String
  imageAlias : String := ""
  imageDigest : String := ""
  orbit : String
  tier : String := ""
  labels : Labels := ∅
  command : List String := []
  resources : Option ResourcesConfig := none
  replicas : Option ReplicaConfig := none
  scaling : List ScalingRuleConfig := []
  placement : List PlacementConfig := []
  runtime : Option RuntimeCfg := none
  momentum : Option MomentumCfg := none

def PlacementConfig.rule (p : PlacementConfig) : PlacementRule :=
  { name := p.name
    type := Named.ofText p.type
    mode := Named.ofText p.mode
    names := p.targets
    labels := p.labels
    required := p.required.getD true }

/-- The port that is declared, in the 16 bits that it is kept in. -/
def PortMapCfg.mapping (p : PortMapCfg) : PortMapping :=
  { name := p.name
    containerPort := .ofInt p.container
    hostPort := .ofInt p.host
    protocol := if p.protocol = "" then "tcp" else p.protocol }

def networkMode : String → NetworkMode
  | "bridge" => .bridge
  | "host" => .host
  | text => .unknown text

def healthCheckType : String → HealthCheckType
  | "http" => .http
  | "tcp" => .tcp
  | text => .unknown text

def ifPresent {α β : Type} (block : Option α) (zero : β) (convert : α → Except String β) :
    Except String β :=
  match block with
  | none => .ok zero
  | some a => convert a

def sizeUnits : List (String × Rat) :=
  [("TB", 1024 * 1024), ("GB", 1024), ("MB", 1), ("KB", 1 / 1024)]

def toInt64 (n : Rat) : Int :=
  let whole := if n < 0 then n.ceil else n.floor
  if -2 ^ 63 ≤ whole ∧ whole < 2 ^ 63 then whole else -2 ^ 63

section Convert

variable (parseDuration : String → Except String Int) (parseFloat : String → Option Rat)

def parseOptionalDuration (s : String) : Except String Int :=
  if s = "" then .ok 0 else parseDuration s

def megabytes (s : String) : Option Rat :=
  let s := Scaling.trimSpace s
  let unit := sizeUnits.find? fun unit => unit.1.toList.isSuffixOf (s.toList.map Char.toUpper)
  let numStr := if unit.isSome then String.ofList (s.toList.take (s.toList.length - 2)) else s
  (parseFloat (Scaling.trimSpace numStr)).map (· * (unit.map Prod.snd).getD 1)

def parseSizeToMB (s : String) : Except String Int :=
  if s = "" then .ok 0
  else
    match megabytes parseFloat s with
    | none => .error ("invalid size " ++ quoted (Scaling.trimSpace s))
    | some n => .ok (toInt64 n)

def ResourcesConfig.requirements (r : ResourcesConfig) : Except String ResourceRequirements := do
  let size (field text : String) :=
    (parseSizeToMB parseFloat text).mapError fun err => "resources." ++ field ++ ": " ++ err
  let memory ← size "memory" r.memory
  let memoryMax ← size "memory_max" r.memoryMax
  let disk ← size "disk" r.disk
  .ok ⟨int32 r.cpu, int32 r.cpuMax, memory, memoryMax, disk⟩

def ScalingRuleConfig.rule (r : ScalingRuleConfig) (i : Nat) : Except String ScalingRule := do
  let cooldown ← (parseOptionalDuration parseDuration r.cooldown).mapError
    fun err => "scaling.rules[" ++ toString i ++ "].cooldown: " ++ err
  .ok
    { name := r.name
      trigger := if r.trigger = "" then .all else Named.ofText r.trigger
      conditions := r.conditions
      action := Named.ofText r.action
      cooldown := cooldown }

def lenient (s : String) : Int := (parseOptionalDuration parseDuration s).toOption.getD 0

def HealthCheckCfg.check (hc : HealthCheckCfg) : HealthCheck :=
  { type := healthCheckType hc.type
    path := hc.path
    port := .ofInt hc.port
    interval := lenient parseDuration hc.interval
    timeout := lenient parseDuration hc.timeout
    retries := hc.retries
    initialDelay := lenient parseDuration hc.initialDelay }

def RuntimeCfg.settings (r : RuntimeCfg) : Except String RuntimeConfig := do
  let duration (field text : String) :=
    (parseOptionalDuration parseDuration text).mapError fun err => field ++ ": " ++ err
  let statsInterval ← duration "runtime.stats_interval" r.statsInterval
  let ttl ← duration "runtime.snapshot.ttl" ((r.snapshot.map SnapshotCfg.ttl).getD "")
  .ok
    { env := r.env
      network := (r.network.map fun n => ⟨networkMode n.mode, n.ports.map PortMapCfg.mapping⟩).getD
        zeroSpec.runtime.network
      healthCheck := r.healthCheck.map (HealthCheckCfg.check parseDuration)
      failurePolicy := (r.failurePolicy.map fun fp =>
        ⟨fp.restartLimit, fp.maxNodeAttempts, lenient parseDuration fp.gracefulTimeout⟩).getD
          ⟨0, 0, 0⟩
      logRetention := r.logRetention.getD ⟨0, 0⟩
      statsInterval := statsInterval
      registry := none
      snapshotConfig := ⟨(r.snapshot.map SnapshotCfg.maxPerCapsule).getD 0, ttl⟩ }

def toCapsuleSpec (c : CapsuleConfig) : Except String CapsuleSpec := do
  let resources ← ifPresent c.resources zeroSpec.resources (·.requirements parseFloat)
  let scalingRules ← c.scaling.zipIdx.mapM fun (r, i) => r.rule parseDuration i
  let runtime ← ifPresent c.runtime zeroSpec.runtime (·.settings parseDuration)
  let momentumConfig ← ifPresent c.momentum zeroSpec.momentumConfig fun m => do
    let idleTimeout ← (parseOptionalDuration parseDuration m.idleTimeout).mapError
      fun err => "advanced.momentum.idle_timeout: " ++ err
    .ok ⟨int32 m.base, m.boostOnTraffic, m.reduceOnIdle, idleTimeout⟩
  .ok
    { name := c.name
      image := c.image
      imageAlias := c.imageAlias
      imageDigest := c.imageDigest
      orbit := c.orbit
      tier := Named.ofText c.tier
      labels := c.labels
      resources := resources
      replicas := (c.replicas.map fun r => ⟨int32 r.min, int32 r.max, int32 r.exact⟩).getD
        zeroSpec.replicas
      scalingRules := scalingRules
      placementRules := c.placement.map PlacementConfig.rule
      runtime := runtime
      momentumConfig := momentumConfig
      command := c.command }

variable {parseDuration parseFloat}

theorem placementRules_of_toCapsuleSpec {c : CapsuleConfig} {spec : CapsuleSpec}
    (converted : toCapsuleSpec parseDuration parseFloat c = .ok spec) :
    spec.placementRules = c.placement.map PlacementConfig.rule := by
  simp only [toCapsuleSpec, bind_ok_iff] at converted
  obtain ⟨resources, -, rules, -, runtime, -, momentum, -, converted⟩ := converted
  cases converted
  rfl

end Convert

end Falak.Config
