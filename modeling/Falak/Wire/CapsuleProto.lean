import Falak.Capsule.Types
import Falak.Lib.Timestamp

/-!
Capsules as the messages of an orbit carry them.

The records have the fields that the two conversions read or write; texts stand for enumerations,
and a message that is part of another one may be missing.
-/

namespace Falak.Wire

open Falak.Capsule

structure ResourcesPb where
  cpuCores : Int
  memoryMb : Int
  diskMb : Int

structure ReplicasPb where
  min : Int
  max : Int
  exact : Int

structure ScalingRulePb where
  name : String
  trigger : String
  conditions : List String
  action : String
  cooldownSeconds : Int

structure PlacementRulePb where
  name : String
  type : String
  mode : String
  targetNames : List String
  labels : Labels
  required : Bool

structure MomentumConfigPb where
  base : Int
  boostOnTraffic : Bool
  reduceOnIdle : Bool
  idleTimeoutSeconds : Int

structure SpecPb where
  name : String
  image : String
  imageDigest : String
  orbit : String
  tier : String
  labels : Labels
  resources : Option ResourcesPb
  replicas : Option ReplicasPb
  scalingRules : List ScalingRulePb
  placementRules : List PlacementRulePb
  runtime : Option Labels
  momentumConfig : Option MomentumConfigPb

structure ReplicaPb where
  replicaId : String
  nodeId : String
  status : String
  startedAt : Option Timestamp

structure MomentumPb where
  current : Int
  base : Int
  lastAdjusted : Option Timestamp

structure CapsulePb where
  id : String
  clusterId : String
  spec : Option SpecPb
  status : String
  replicas : List ReplicaPb
  version : String
  createdAt : Option Timestamp
  updatedAt : Option Timestamp
  momentum : Option MomentumPb

def wholeSeconds (d : Int) : Int := int32 (d.tdiv second)

def specToProto (s : CapsuleSpec) : SpecPb :=
  { name := s.name
    image := s.image
    imageDigest := s.imageDigest
    orbit := s.orbit
    tier := Named.text s.tier
    labels := s.labels
    resources := some ⟨s.resources.cpuCores, s.resources.memoryMB, s.resources.diskMB⟩
    replicas := some ⟨s.replicas.min, s.replicas.max, s.replicas.exact⟩
    scalingRules := s.scalingRules.map fun rule =>
      ⟨rule.name, Named.text rule.trigger, rule.conditions, Named.text rule.action,
        wholeSeconds rule.cooldown⟩
    placementRules := s.placementRules.map fun rule =>
      ⟨rule.name, Named.text rule.type, Named.text rule.mode, rule.names, rule.labels,
        rule.required⟩
    runtime := some s.runtime.env
    momentumConfig := some ⟨s.momentumConfig.base, s.momentumConfig.boostOnTraffic,
      s.momentumConfig.reduceOnIdle, wholeSeconds s.momentumConfig.idleTimeout⟩ }

def replicaStatesToProto (replicas : List ReplicaState) : List ReplicaPb :=
  replicas.map fun r => ⟨r.replicaID, r.nodeID, Named.text r.status, some (.new r.startedAt)⟩

def capsuleToProto (c : Capsule) : CapsulePb :=
  { id := c.id
    clusterId := c.clusterID
    spec := some (specToProto c.spec)
    status := Named.text c.status
    replicas := replicaStatesToProto c.replicas
    version := c.version
    createdAt := some (.new c.createdAt)
    updatedAt := some (.new c.updatedAt)
    momentum := some ⟨c.momentum.current, c.momentum.base, some (.new c.momentum.lastAdjusted)⟩ }

def timeOf (ts : Option Timestamp) : Int := (ts.map Timestamp.asTime).getD zeroTime

def protoToSpec (pb : SpecPb) : CapsuleSpec :=
  { zeroSpec with
    name := pb.name
    image := pb.image
    imageDigest := pb.imageDigest
    orbit := pb.orbit
    tier := Named.ofText pb.tier
    labels := pb.labels
    resources := (pb.resources.map fun r =>
      { zeroSpec.resources with
        cpuCores := r.cpuCores, memoryMB := r.memoryMb, diskMB := r.diskMb }).getD
      zeroSpec.resources
    replicas := (pb.replicas.map fun r => ⟨r.min, r.max, r.exact⟩).getD zeroSpec.replicas
    runtime := { zeroSpec.runtime with env := pb.runtime.getD ∅ }
    momentumConfig := (pb.momentumConfig.map fun c =>
      ⟨c.base, c.boostOnTraffic, c.reduceOnIdle, c.idleTimeoutSeconds * second⟩).getD
      zeroSpec.momentumConfig
    scalingRules := pb.scalingRules.map fun rule =>
      { name := rule.name
        trigger := Named.ofText rule.trigger
        conditions := rule.conditions
        action := Named.ofText rule.action
        cooldown := rule.cooldownSeconds * second }
    placementRules := pb.placementRules.map fun rule =>
      { name := rule.name
        type := Named.ofText rule.type
        mode := Named.ofText rule.mode
        names := rule.targetNames
        labels := rule.labels
        required := rule.required } }

def protoToReplica (r : ReplicaPb) : ReplicaState :=
  { replicaID := r.replicaId
    nodeID := r.nodeId
    status := Named.ofText r.status
    startedAt := timeOf r.startedAt }

def protoToCapsule (pb : CapsulePb) : Capsule :=
  { id := pb.id
    clusterID := pb.clusterId
    spec := (pb.spec.map protoToSpec).getD zeroSpec
    status := Named.ofText pb.status
    replicas := pb.replicas.map protoToReplica
    momentum := (pb.momentum.map fun m => ⟨m.current, m.base, timeOf m.lastAdjusted⟩).getD
      ⟨0, 0, zeroTime⟩
    version := pb.version
    createdAt := timeOf pb.createdAt
    updatedAt := timeOf pb.updatedAt }

theorem protoToCapsule_status {c : Capsule} (valid : c.status.valid = true) :
    (protoToCapsule (capsuleToProto c)).status = c.status := by
  refine Named.ofText_text ?_
  cases same : c.status <;> simp_all [CapsuleStatus.valid, Named.known]

end Falak.Wire
