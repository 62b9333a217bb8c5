import Falak.Capsule.Manager
import Falak.Lib.Checks

/-!
How the runtime reads a capsule: the adapter that maps its specification and decrypts the registry
credentials with the key of the cluster.
-/

namespace Falak.Node

open Falak.Capsule (CapsuleID ResourceRequirements)

variable {Key : Type}

structure SecretsLibrary (Key : Type) where
  hkdf : Bytes → String → Key
  gcmSeal : Key → Bytes → Bytes → Bytes
  gcmOpen : Key → Bytes → Bytes → Except String Bytes

def nonceSize : Nat := 12

def deriveKey (lib : SecretsLibrary Key) (psk : Bytes) (clusterPath : String) :
    Except String Key := do
  ensure (psk.length ≠ 0) "secrets: PSK cannot be empty"
  ensure (clusterPath ≠ "") "secrets: cluster path cannot be empty"
  return lib.hkdf psk clusterPath

def encrypt (lib : SecretsLibrary Key) (sek : Key) (nonce plaintext : Bytes) : Bytes :=
  nonce ++ lib.gcmSeal sek nonce plaintext

def decrypt (lib : SecretsLibrary Key) (sek : Key) (ciphertext : Bytes) : Except String Bytes := do
  ensure (nonceSize ≤ ciphertext.length) "secrets: ciphertext too short"
  (lib.gcmOpen sek (ciphertext.take nonceSize) (ciphertext.drop nonceSize)).mapError fun err =>
    "secrets: decrypt failed (wrong key or corrupted data): " ++ err

def SecretsLibrary.Correct (lib : SecretsLibrary Key) : Prop :=
  ∀ sek nonce plaintext, nonce.length = nonceSize →
    lib.gcmOpen sek nonce (lib.gcmSeal sek nonce plaintext) = .ok plaintext

theorem decrypt_encrypt {lib : SecretsLibrary Key} (correct : lib.Correct) (sek : Key)
    {nonce : Bytes} (fresh : nonce.length = nonceSize) (plaintext : Bytes) :
    decrypt lib sek (encrypt lib sek nonce plaintext) = .ok plaintext := by
  have front : (encrypt lib sek nonce plaintext).take nonceSize = nonce := by
    rw [encrypt, ← fresh, List.take_left]
  have rest : (encrypt lib sek nonce plaintext).drop nonceSize
      = lib.gcmSeal sek nonce plaintext := by
    rw [encrypt, ← fresh, List.drop_left]
  have long : nonceSize ≤ (encrypt lib sek nonce plaintext).length := by
    rw [encrypt, List.length_append, fresh]
    omega
  rw [decrypt, front, rest, correct sek nonce plaintext fresh]
  simp [long]

inductive RuntimeHealthCheckType
  | unset
  | http
  | tcp
  deriving DecidableEq

inductive RuntimeNetworkMode
  | bridge
  | host
  deriving DecidableEq

structure RuntimeHealthCheck where
  type : RuntimeHealthCheckType
  path : String
  port : UInt16
  interval : Int
  timeout : Int
  retries : Int
  initialDelay : Int

structure ResourceLimits where
  cpuCores : Int
  cpuCoresMax : Int
  memoryMB : Int
  memoryMBMax : Int

structure RuntimeSpec where
  name : String
  image : String
  imageDigest : String
  env : Capsule.Labels
  networkMode : RuntimeNetworkMode
  ports : List Capsule.PortMapping
  resources : ResourceLimits
  command : List String
  logRetention : Capsule.LogRetention
  snapshotTTL : Int
  maxSnapshots : Int
  healthCheck : Option RuntimeHealthCheck
  failurePolicy : Capsule.FailurePolicy
  registryUsername : Bytes
  registryPassword : Bytes

def effectiveMax (reserved max : Int) : Int := if 0 < max then max else reserved

def effectiveCPUMax (r : ResourceRequirements) : Int := effectiveMax r.cpuCores r.cpuCoresMax

def effectiveMemoryMax (r : ResourceRequirements) : Int := effectiveMax r.memoryMB r.memoryMBMax

def healthCheckType : Capsule.HealthCheckType → RuntimeHealthCheckType
  | .http => .http
  | .tcp => .tcp
  | .unknown _ => .unset

def mapHealthCheck (hc : Capsule.HealthCheck) : RuntimeHealthCheck :=
  { type := healthCheckType hc.type
    path := hc.path
    port := hc.port
    interval := hc.interval
    timeout := hc.timeout
    retries := hc.retries
    initialDelay := hc.initialDelay }

def mapNetworkMode : Capsule.NetworkMode → RuntimeNetworkMode
  | .host => .host
  | _ => .bridge

def credential (lib : SecretsLibrary Key) (sek : Key) (encrypted : Bytes) : Bytes :=
  if encrypted.length > 0 then
    match decrypt lib sek encrypted with
    | .ok text => text
    | .error _ => []
  else []

structure RuntimeCapsuleStoreAdapter (Key : Type) where
  /-- The key for the secrets. Without one nothing is decrypted. -/
  sek : Option Key
  deriving DecidableEq

def RuntimeCapsuleStoreAdapter.getSpec (lib : SecretsLibrary Key)
    (a : RuntimeCapsuleStoreAdapter Key) (manager : Capsule.Manager) (capsuleID : CapsuleID) :
    Except String RuntimeSpec := do
  let c ← require (manager.get capsuleID) "capsule not found"
  let s := c.spec
  let spec : RuntimeSpec :=
    { name := s.name
      image := s.image
      imageDigest := s.imageDigest
      env := s.runtime.env
      networkMode := mapNetworkMode s.runtime.network.mode
      ports := s.runtime.network.ports
      resources :=
        { cpuCores := s.resources.cpuCores
          cpuCoresMax := effectiveCPUMax s.resources
          memoryMB := s.resources.memoryMB
          memoryMBMax := effectiveMemoryMax s.resources }
      command := s.command
      logRetention := s.runtime.logRetention
      snapshotTTL := s.runtime.snapshotConfig.ttl
      maxSnapshots := s.runtime.snapshotConfig.maxPerCapsule
      healthCheck := s.runtime.healthCheck.map mapHealthCheck
      failurePolicy := s.runtime.failurePolicy
      registryUsername := []
      registryPassword := [] }
  match s.runtime.registry, a.sek with
  | some registry, some sek =>
    return { spec with
      registryUsername := credential lib sek registry.usernameEncrypted
      registryPassword := credential lib sek registry.passwordEncrypted }
  | _, _ => return spec

namespace RuntimeCapsuleStoreAdapter

theorem getSpec_credentials (lib : SecretsLibrary Key) (a : RuntimeCapsuleStoreAdapter Key)
    {manager : Capsule.Manager} {capsuleID : CapsuleID} {c : Capsule.Capsule}
    {registry : Capsule.RegistryAuth} (there : manager.get capsuleID = some c)
    (restricted : c.spec.runtime.registry = some registry) :
    ∃ spec, a.getSpec lib manager capsuleID = .ok spec ∧
      spec.registryUsername
        = (a.sek.map fun sek => credential lib sek registry.usernameEncrypted).getD [] ∧
      spec.registryPassword
        = (a.sek.map fun sek => credential lib sek registry.passwordEncrypted).getD [] := by
  rw [getSpec, there]
  cases key : a.sek with
  | none => simp [require]
  | some sek => simp [require, restricted]

end RuntimeCapsuleStoreAdapter

theorem credential_encrypt {lib : SecretsLibrary Key} (correct : lib.Correct) (sek : Key)
    {nonce : Bytes} (fresh : nonce.length = nonceSize) (plaintext : Bytes) :
    credential lib sek (encrypt lib sek nonce plaintext) = plaintext := by
  have long : (encrypt lib sek nonce plaintext).length > 0 := by
    rw [encrypt, List.length_append, fresh, nonceSize]
    omega
  rw [credential, if_pos long, decrypt_encrypt correct sek fresh]

end Falak.Node
