import Falak.Capsule.Replica
import Falak.Lib.Named
import Falak.Lib.Bytes
import Mathlib.Data.List.AList

/-! The capsule entity and the specification a user gives for it. -/

set_option linter.dupNamespace false

namespace Falak.Capsule

abbrev CapsuleID := String

abbrev Labels := AList fun _ : String => String

def CapsuleStatus.valid : CapsuleStatus → Bool
  | .unknown _ => false
  | _ => true

instance : Named CapsuleStatus where
  text
    | .created => "created"
    | .announced => "announced"
    | .electing => "electing"
    | .assigned => "assigned"
    | .executing => "executing"
    | .running => "running"
    | .stopping => "stopping"
    | .stopped => "stopped"
    | .unknown text => text
  known := [.created, .announced, .electing, .assigned, .executing, .running, .stopping, .stopped]
  unknown := .unknown
  text_unknown _ := rfl
  distinct := by decide

inductive Tier
  | critical
  | standard
  | background
  | unknown (text : String)
  deriving DecidableEq, Repr

def Tier.baseMomentum : Tier → Int
  | .critical => 90
  | .standard => 50
  | .background => 20
  | .unknown _ => 50

def Tier.valid : Tier → Bool
  | .unknown _ => false
  | _ => true

instance : Named Tier where
  text
    | .critical => "critical"
    | .standard => "standard"
    | .background => "background"
    | .unknown text => text
  known := [.critical, .standard, .background]
  unknown := .unknown
  text_unknown _ := rfl
  distinct := by decide

inductive ScalingAction
  | scaleUp
  | scaleDown
  | scaleToZero
  | unknown (text : String)
  deriving DecidableEq, Repr

def ScalingAction.valid : ScalingAction → Bool
  | .unknown _ => false
  | _ => true

instance : Named ScalingAction where
  text
    | .scaleUp => "scaleUp"
    | .scaleDown => "scaleDown"
    | .scaleToZero => "scaleToZero"
    | .unknown text => text
  known := [.scaleUp, .scaleDown, .scaleToZero]
  unknown := .unknown
  text_unknown _ := rfl
  distinct := by decide

inductive TriggerMode
  | any
  | all
  | unknown (text : String)
  deriving DecidableEq, Repr

def TriggerMode.valid : TriggerMode → Bool
  | .unknown _ => false
  | _ => true

instance : Named TriggerMode where
  text
    | .any => "any"
    | .all => "all"
    | .unknown text => text
  known := [.any, .all]
  unknown := .unknown
  text_unknown _ := rfl
  distinct := by decide

inductive PlacementType
  | node
  | cluster
  | datacenter
  | capsule
  | unknown (text : String)
  deriving DecidableEq, Repr

def PlacementType.valid : PlacementType → Bool
  | .unknown _ => false
  | _ => true

instance : Named PlacementType where
  text
    | .node => "node"
    | .cluster => "cluster"
    | .datacenter => "datacenter"
    | .capsule => "capsule"
    | .unknown text => text
  known := [.node, .cluster, .datacenter, .capsule]
  unknown := .unknown
  text_unknown _ := rfl
  distinct := by decide

inductive PlacementMode
  | near
  | away
  | unknown (text : String)
  deriving DecidableEq, Repr

def PlacementMode.valid : PlacementMode → Bool
  | .unknown _ => false
  | _ => true

instance : Named PlacementMode where
  text
    | .near => "near"
    | .away => "away"
    | .unknown text => text
  known := [.near, .away]
  unknown := .unknown
  text_unknown _ := rfl
  distinct := by decide

structure ResourceRequirements where
  cpuCores : Int
  cpuCoresMax : Int
  memoryMB : Int
  memoryMBMax : Int
  diskMB : Int
  deriving DecidableEq

structure ReplicaConfig where
  min : Int
  max : Int
  exact : Int
  deriving DecidableEq

structure ScalingRule where
  name : String
  trigger : TriggerMode
  conditions : List String
  action : ScalingAction
  cooldown : Int
  deriving DecidableEq

structure PlacementRule where
  name : String
  type : PlacementType
  mode : PlacementMode
  names : List String
  labels : Labels
  required : Bool
  deriving DecidableEq

inductive NetworkMode
  | bridge
  | host
  | unknown (text : String)
  deriving DecidableEq, Repr

structure PortMapping where
  name : String
  containerPort : UInt16
  hostPort : UInt16
  protocol : String
  deriving DecidableEq

structure NetworkConfig where
  mode : NetworkMode
  ports : List PortMapping
  deriving DecidableEq

inductive HealthCheckType
  | http
  | tcp
  | unknown (text : String)
  deriving DecidableEq, Repr

structure HealthCheck where
  type : HealthCheckType
  path : String
  port : UInt16
  interval : Int
  timeout : Int
  retries : Int
  initialDelay : Int
  deriving DecidableEq

structure RegistryAuth where
  url : String
  usernameEncrypted : Bytes
  passwordEncrypted : Bytes
  deriving DecidableEq

structure FailurePolicy where
  restartLimit : Int
  maxNodeAttempts : Int
  gracefulTimeout : Int
  deriving DecidableEq

structure LogRetention where
  maxFileSizeMB : Int
  maxFiles : Int
  deriving DecidableEq

structure SnapshotConfig where
  maxPerCapsule : Int
  ttl : Int
  deriving DecidableEq

structure RuntimeConfig where
  env : Labels
  network : NetworkConfig
  healthCheck : Option HealthCheck
  failurePolicy : FailurePolicy
  logRetention : LogRetention
  statsInterval : Int
  registry : Option RegistryAuth
  snapshotConfig : SnapshotConfig
  deriving DecidableEq

structure MomentumConfig where
  base : Int
  boostOnTraffic : Bool
  reduceOnIdle : Bool
  idleTimeout : Int
  deriving DecidableEq

structure MomentumState where
  current : Int
  base : Int
  lastAdjusted : Int
  deriving DecidableEq

structure CapsuleSpec where
  name : String
  image : String
  imageAlias : String
  imageDigest : String
  orbit : String
  tier : Tier
  labels : Labels
  resources : ResourceRequirements
  replicas : ReplicaConfig
  scalingRules : List ScalingRule
  placementRules : List PlacementRule
  runtime : RuntimeConfig
  momentumConfig : MomentumConfig
  command : List String
  deriving DecidableEq

def zeroSpec : CapsuleSpec :=
  { name := ""
    image := ""
    imageAlias := ""
    imageDigest := ""
    orbit := ""
    tier := .unknown ""
    labels := ∅
    resources := ⟨0, 0, 0, 0, 0⟩
    replicas := ⟨0, 0, 0⟩
    scalingRules := []
    placementRules := []
    runtime :=
      { env := ∅
        network := ⟨.unknown "", []⟩
        healthCheck := none
        failurePolicy := ⟨0, 0, 0⟩
        logRetention := ⟨0, 0⟩
        statsInterval := 0
        registry := none
        snapshotConfig := ⟨0, 0⟩ }
    momentumConfig := ⟨0, false, false, 0⟩
    command := [] }

structure Capsule where
  id : CapsuleID
  clusterID : String
  spec : CapsuleSpec
  status : CapsuleStatus
  replicas : List ReplicaState
  momentum : MomentumState
  version : String
  createdAt : Int
  updatedAt : Int
  deriving DecidableEq

end Falak.Capsule
