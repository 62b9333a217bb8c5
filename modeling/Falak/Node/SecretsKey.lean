import Falak.Lib.Reach
import Falak.Node.RuntimeStore

/-!
The key for the secrets of a node, over its starts and the clusters it joins one after the other.
-/

namespace Falak.Node

variable {Key : Type}

abbrev Memory := Nat → UInt8

/-- A stretch of memory. Two slices may overlap. -/
structure Slice where
  start : Nat
  length : Nat

namespace Slice

variable (memory : Memory) (s : Slice)

def read : Bytes :=
  (List.range s.length).map fun i => memory (s.start + i)

def clear : Memory := fun address =>
  if s.start ≤ address ∧ address < s.start + s.length then 0 else memory address

@[simp] theorem read_length : (s.read memory).length = s.length := by
  simp [read]

theorem read_clear :
    s.read (s.clear memory) = List.replicate s.length 0 := by
  rw [List.eq_replicate_iff]
  refine ⟨by simp, fun byte there => ?_⟩
  obtain ⟨i, small, rfl⟩ := List.mem_map.mp there
  rw [List.mem_range] at small
  exact if_pos ⟨by omega, by omega⟩

end Slice

def minPSKLength : Nat := 32

def setClusterPSK (memory : Memory) (clusterPath : String) (psk : Slice) :
    Except String Memory := do
  ensure (minPSKLength ≤ psk.length) "PSK must be at least 32 bytes"
  ensure (clusterPath ≠ "") "failed to derive cluster root key: cluster path cannot be empty"
  return psk.clear memory

/-- A call of `Join`, with the secret as the caller gave it. -/
structure JoinCall where
  path : String
  psk : Slice
  given : Bytes

inductive Stage
  | requested
  | keyed
  | joined
  deriving DecidableEq

structure KeyHolder (Key : Type) where
  memory : Memory
  running : Bool
  secretsKey : Option Key
  adapter : Option (RuntimeCapsuleStoreAdapter Key)
  call : Option (JoinCall × Stage)
  joins : List (Bytes × String)
  /-- How many of the calls had succeeded at the last start. -/
  before : Nat

namespace KeyHolder

variable (lib : SecretsLibrary Key) (memory : Memory)

def initial : KeyHolder Key :=
  { memory := memory
    running := false
    secretsKey := none
    adapter := none
    call := none
    joins := []
    before := 0 }

def deriveSecretsKey (psk : Slice) (path : String) :
    Option Key → Option Key
  | some key => some key
  | none =>
    if 0 < (psk.read memory).length then
      match deriveKey lib (psk.read memory) path with
      | .ok sek => some sek
      | .error _ => none
    else none

inductive Action
  | write (memory : Memory)
  | start
  | stop
  | join (path : String) (psk : Slice)
  | setClusterPSK
  | publishJoined
  | wake

def step (s : KeyHolder Key) : Action → Option (KeyHolder Key)
  | .write memory => if s.call.isNone then some { s with memory := memory } else none
  | .start =>
    if s.running = false ∧ s.call.isNone then
      some { s with running := true, adapter := some ⟨s.secretsKey⟩, before := s.joins.length }
    else none
  | .stop =>
    if s.running = true ∧ s.call.isNone then some { s with running := false } else none
  | .join path psk =>
    if s.running = true ∧ s.call.isNone then
      some { s with call := some (⟨path, psk, psk.read s.memory⟩, .requested) }
    else none
  | .setClusterPSK =>
    match s.call with
    | some (c, .requested) =>
      match Node.setClusterPSK s.memory c.path c.psk with
      | .ok memory => some { s with memory := memory, call := some (c, .keyed) }
      | .error _ => none
    | _ => none
  | .publishJoined =>
    match s.call with
    | some (c, .keyed) => some { s with call := some (c, .joined) }
    | _ => none
  | .wake =>
    match s.call with
    | some (c, .joined) =>
      some { s with
        secretsKey := deriveSecretsKey lib s.memory c.psk c.path s.secretsKey
        call := none
        joins := s.joins ++ [(c.given, c.path)] }
    | _ => none

def CallInv : JoinCall × Stage → Prop
  | (c, .requested) => c.given.length = c.psk.length
  | (c, _) =>
    c.given.length = c.psk.length ∧ minPSKLength ≤ c.psk.length ∧ c.path ≠ "" ∧
      c.psk.read memory = List.replicate c.psk.length 0

def firstKey (joins : List (Bytes × String)) : Option Key :=
  joins.head?.map fun (given, path) => lib.hkdf (List.replicate given.length 0) path

structure Inv (lib : SecretsLibrary Key) (s : KeyHolder Key) : Prop where
  call : ∀ c ∈ s.call, CallInv s.memory c
  secretsKey : s.secretsKey = firstKey lib s.joins
  counted : s.before ≤ s.joins.length
  started : s.before ≠ 0 → ∃ a, s.adapter = some a
  adapter : ∀ a ∈ s.adapter, a.sek = if s.before = 0 then none else firstKey lib s.joins

variable {lib : SecretsLibrary Key} {joins : List (Bytes × String)} {memory : Memory}
  {s : KeyHolder Key}

theorem firstKey_append {join : Bytes × String} (some : joins ≠ []) :
    firstKey lib (joins ++ [join]) = firstKey lib joins := by
  cases joins with
  | nil => exact absurd rfl some
  | cons first rest => rfl

theorem firstKey_eq_none : firstKey lib joins = none ↔ joins = [] := by
  cases joins <;> simp [firstKey]

theorem deriveSecretsKey_eq {c : JoinCall} (inv : CallInv memory (c, .joined))
    (joins : List (Bytes × String)) :
    deriveSecretsKey lib memory c.psk c.path (firstKey lib joins)
      = firstKey lib (joins ++ [(c.given, c.path)]) := by
  cases joins with
  | cons first rest => rfl
  | nil =>
    obtain ⟨same, long, named, cleared⟩ := inv
    have positive : c.psk.length ≠ 0 := by
      unfold minPSKLength at long
      omega
    simp [deriveSecretsKey, firstKey, deriveKey, ensure, cleared, same, named, positive,
      Nat.pos_of_ne_zero positive, bind, Except.bind, pure, Except.pure]

theorem Inv.step {s' : KeyHolder Key} {a : Action} (inv : Inv lib s)
    (taken : KeyHolder.step lib s a = some s') : Inv lib s' := by
  obtain ⟨call, key, counted, started, adapter⟩ := inv
  cases a with
  | write memory =>
    simp only [KeyHolder.step] at taken
    split at taken
    · rename_i idle
      cases taken
      exact ⟨by simp [Option.isNone_iff_eq_none.mp idle], key, counted, started, adapter⟩
    · cases taken
  | start =>
    simp only [KeyHolder.step] at taken
    split at taken
    · cases taken
      refine ⟨call, key, le_refl _, fun _ => ⟨_, rfl⟩, ?_⟩
      rintro _ ⟨⟩
      split
      · rename_i none
        exact key.trans (firstKey_eq_none.mpr (List.length_eq_zero_iff.mp none))
      · exact key
    · cases taken
  | stop =>
    simp only [KeyHolder.step] at taken
    split at taken
    · cases taken
      exact ⟨call, key, counted, started, adapter⟩
    · cases taken
  | join path psk =>
    simp only [KeyHolder.step] at taken
    split at taken
    · cases taken
      refine ⟨?_, key, counted, started, adapter⟩
      rintro _ ⟨⟩
      exact Slice.read_length s.memory psk
    · cases taken
  | setClusterPSK =>
    simp only [KeyHolder.step] at taken
    split at taken
    · rename_i c asked
      split at taken
      · rename_i memory cleared
        cases taken
        refine ⟨?_, key, counted, started, adapter⟩
        rintro _ ⟨⟩
        -- The secret was copied before it is cleared.
        simp only [Node.setClusterPSK, bind_ok_iff, ensure_ok_iff, decide_eq_true_eq,
          pure_ok_iff, exists_const] at cleared
        obtain ⟨long, named, rfl⟩ := cleared
        exact ⟨call _ asked, long, named, Slice.read_clear _ _⟩
      · cases taken
    · cases taken
  | publishJoined =>
    simp only [KeyHolder.step] at taken
    split at taken
    · rename_i c keyed
      cases taken
      refine ⟨?_, key, counted, started, adapter⟩
      rintro _ ⟨⟩
      have kept : CallInv s.memory (c, .keyed) := call _ keyed
      exact kept
    · cases taken
  | wake =>
    simp only [KeyHolder.step] at taken
    split at taken
    · rename_i c joined
      cases taken
      refine ⟨by simp, ?_, ?_, started, ?_⟩
      · rw [key]
        exact deriveSecretsKey_eq (call _ joined) s.joins
      · simp only [List.length_append]
        omega
      · intro a there
        rw [adapter a there]
        split
        · rfl
        · rename_i earlier
          refine (firstKey_append fun none => ?_).symm
          rw [none] at counted
          exact earlier (Nat.le_zero.mp counted)
    · cases taken

theorem Inv.reach (reached : Reach (KeyHolder.step lib) (fun _ _ => True) (initial memory) s) :
    Inv lib s := by
  refine reached.invariant (Inv lib) ?_ fun s a s' inv _ taken => inv.step taken
  exact ⟨nofun, rfl, le_refl _, nofun, nofun⟩

structure HasClusterKey (lib : SecretsLibrary Key) (s : KeyHolder Key) (psk : Bytes)
    (path : String) : Prop where
  exact : ∃ a ∈ s.adapter, a.sek = some (lib.hkdf psk path)
  credentials : ∀ a ∈ s.adapter, ∀ (manager : Capsule.Manager) (capsuleID : Capsule.CapsuleID)
    (c : Capsule.Capsule) (registry : Capsule.RegistryAuth) (nonce nonce' user password : Bytes),
    manager.get capsuleID = some c → c.clusterID = path →
    c.spec.runtime.registry = some registry →
    nonce.length = nonceSize → nonce'.length = nonceSize →
    registry.usernameEncrypted = encrypt lib (lib.hkdf psk path) nonce user →
    registry.passwordEncrypted = encrypt lib (lib.hkdf psk path) nonce' password →
    ∃ spec, a.getSpec lib manager capsuleID = .ok spec ∧ spec.registryUsername = user ∧
      spec.registryPassword = password
  apart : ∀ a ∈ s.adapter, ∀ psk', psk' ≠ psk → a.sek ≠ some (lib.hkdf psk' path)

theorem HasClusterKey.of_sek (injective : Function.Injective2 lib.hkdf) (correct : lib.Correct)
    {a : RuntimeCapsuleStoreAdapter Key} {psk : Bytes} {path : String} (there : s.adapter = some a)
    (key : a.sek = some (lib.hkdf psk path)) : HasClusterKey lib s psk path := by
  constructor
  case exact => exact ⟨a, there, key⟩
  case credentials =>
    intro b same manager capsuleID c registry nonce nonce' user password found _ restricted fresh
      fresh' sealed sealed'
    obtain rfl : a = b := Option.some.inj (there.symm.trans same)
    obtain ⟨spec, got, username, password'⟩ :=
      RuntimeCapsuleStoreAdapter.getSpec_credentials lib a found restricted
    rw [key, sealed, Option.map_some, Option.getD_some, credential_encrypt correct _ fresh]
      at username
    rw [key, sealed', Option.map_some, Option.getD_some, credential_encrypt correct _ fresh']
      at password'
    exact ⟨spec, got, username, password'⟩
  case apart =>
    intro b same psk' other shared
    obtain rfl : a = b := Option.some.inj (there.symm.trans same)
    exact other (injective (Option.some.inj (shared.symm.trans key))).1

/--
The runtime has the key of a cluster exactly when the node was started again after it had joined
the cluster as its first one, with a secret of zeros.
-/
theorem hasClusterKey_iff {lib : SecretsLibrary Key} (injective : Function.Injective2 lib.hkdf)
    (correct : lib.Correct) {memory : Memory} {s : KeyHolder Key}
    (reached : Reach (KeyHolder.step lib) (fun _ _ => True) (initial memory) s) (psk : Bytes)
    (path : String) :
    HasClusterKey lib s psk path ↔
      0 < s.before ∧ ∃ given, s.joins.head? = some (given, path) ∧
        psk = List.replicate given.length 0 := by
  have inv := Inv.reach reached
  constructor
  · intro has
    obtain ⟨a, there, key⟩ := has.exact
    rw [inv.adapter a there] at key
    split at key
    · cases key
    · rename_i earlier
      obtain ⟨⟨given, path'⟩, first, derived⟩ := Option.map_eq_some_iff.mp key
      obtain ⟨rfl, rfl⟩ := injective derived
      exact ⟨Nat.pos_of_ne_zero earlier, given, first, rfl⟩
  · rintro ⟨earlier, given, first, rfl⟩
    obtain ⟨a, there⟩ := inv.started (Nat.pos_iff_ne_zero.mp earlier)
    refine HasClusterKey.of_sek injective correct there ?_
    rw [inv.adapter a there, if_neg (Nat.pos_iff_ne_zero.mp earlier), firstKey, first]
    rfl

def plainSecrets : SecretsLibrary (Bytes × String) :=
  { hkdf := Prod.mk
    gcmSeal := fun key _ text => key.1 ++ utf8 key.2 ++ text
    gcmOpen := fun key _ data =>
      let name := key.1 ++ utf8 key.2
      if data.take name.length = name then .ok (data.drop name.length)
      else .error "message authentication failed" }

theorem plainSecrets_injective : Function.Injective2 plainSecrets.hkdf :=
  fun _ _ _ _ same => Prod.mk.inj same

theorem plainSecrets_correct : plainSecrets.Correct := by
  intro sek nonce plaintext _
  dsimp only [plainSecrets]
  rw [List.take_left, if_pos rfl, List.drop_left]

def joinOnce : List Action :=
  [.start, .join "r/d/c" ⟨0, 32⟩, .setClusterPSK, .publishJoined, .wake]

/--
A node joins a cluster with a secret of ones. Its runtime has no key and gets no credentials, and
the key of the node itself is that of any secret with 32 bytes.
-/
theorem hasClusterKey_missing :
    ∃ s : KeyHolder (Bytes × String),
      Reach (step plainSecrets) (fun _ _ => True) (initial fun _ => 1) s ∧
      s.joins = [(List.replicate 32 1, "r/d/c")] ∧ s.adapter = some ⟨none⟩ ∧
      s.secretsKey = some (List.replicate 32 0, "r/d/c") ∧
      ¬ HasClusterKey plainSecrets s (List.replicate 32 1) "r/d/c" ∧
      ∀ (manager : Capsule.Manager) (capsuleID : Capsule.CapsuleID) (c : Capsule.Capsule)
        (registry : Capsule.RegistryAuth),
        manager.get capsuleID = some c → c.spec.runtime.registry = some registry →
        ∃ spec, (⟨none⟩ : RuntimeCapsuleStoreAdapter _).getSpec plainSecrets manager capsuleID
            = .ok spec ∧ spec.registryUsername = [] ∧ spec.registryPassword = [] := by
  obtain ⟨s, reached, joins, adapter, key⟩ := Reach.exists_of_actions (step plainSecrets)
    (initial fun _ => 1) joinOnce
    (fun s => s.joins = [(List.replicate 32 1, "r/d/c")] ∧ s.adapter = some ⟨none⟩ ∧
      s.secretsKey = some (List.replicate 32 0, "r/d/c")) (by decide +kernel)
  refine ⟨s, reached, joins, adapter, key, ?_, ?_⟩
  · intro has
    obtain ⟨a, there, found⟩ := has.exact
    obtain rfl := Option.some.inj (adapter.symm.trans there)
    cases found
  · intro manager capsuleID c registry there restricted
    exact RuntimeCapsuleStoreAdapter.getSpec_credentials plainSecrets ⟨none⟩ there restricted

/-- A node that joined with a secret of zeros has its key after it was started again. -/
theorem hasClusterKey_restarted :
    ∃ s : KeyHolder (Bytes × String),
      Reach (step plainSecrets) (fun _ _ => True) (initial fun _ => 0) s ∧
      s.joins = [(List.replicate 32 0, "r/d/c")] ∧
      HasClusterKey plainSecrets s (List.replicate 32 0) "r/d/c" := by
  obtain ⟨s, reached, joins, before⟩ := Reach.exists_of_actions (step plainSecrets)
    (initial fun _ => 0) (joinOnce ++ [.stop, .start])
    (fun s => s.joins = [(List.replicate 32 0, "r/d/c")] ∧ s.before = 1) (by decide +kernel)
  refine ⟨s, reached, joins, ?_⟩
  rw [hasClusterKey_iff plainSecrets_injective plainSecrets_correct reached]
  exact ⟨by omega, List.replicate 32 0, by rw [joins]; rfl, by simp⟩

end KeyHolder

end Falak.Node
