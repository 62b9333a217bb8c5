import Falak.Config.Capsule
import Mathlib.Algebra.Order.Field.Rat
import Mathlib.Data.List.Forall2
import Mathlib.Tactic.Linarith

/-! What of a declared capsule is kept in the specification. -/

namespace Falak.Config

open Falak.Capsule

section Kept

variable (parseDuration : String → Except String Int) (parseFloat : String → Option Rat)

/-- A duration is the parsed one, or zero for an empty text. -/
def DurationKept (s : String) (d : Int) : Prop := parseOptionalDuration parseDuration s = .ok d

def SizeKept (s : String) (mb : Int) : Prop :=
  s = "" ∧ mb = 0 ∨
    ∃ n, megabytes parseFloat s = some n ∧ mb - 1 < n ∧ n < mb + 1 ∧ (0 < n → mb ≠ 0)

def ResourcesConfig.Kept (r : ResourcesConfig) (out : ResourceRequirements) : Prop :=
  out.cpuCores = r.cpu ∧ out.cpuCoresMax = r.cpuMax ∧ SizeKept parseFloat r.memory out.memoryMB ∧
    SizeKept parseFloat r.memoryMax out.memoryMBMax ∧ SizeKept parseFloat r.disk out.diskMB

def PortMapCfg.Kept (p : PortMapCfg) (out : PortMapping) : Prop :=
  out.name = p.name ∧ out.containerPort.toNat = p.container ∧ out.hostPort.toNat = p.host ∧
    (p.protocol ≠ "" → out.protocol = p.protocol)

def HealthCheckCfg.Kept (hc : HealthCheckCfg) (out : HealthCheck) : Prop :=
  out.type = healthCheckType hc.type ∧ out.path = hc.path ∧ out.port.toNat = hc.port ∧
    out.retries = hc.retries ∧ DurationKept parseDuration hc.interval out.interval ∧
    DurationKept parseDuration hc.timeout out.timeout ∧
    DurationKept parseDuration hc.initialDelay out.initialDelay

def RuntimeCfg.Kept (r : RuntimeCfg) (out : RuntimeConfig) : Prop :=
  out.env = r.env ∧
    (∀ n ∈ r.network, out.network.mode = networkMode n.mode ∧
      List.Forall₂ PortMapCfg.Kept n.ports out.network.ports) ∧
    (∀ hc ∈ r.healthCheck, ∃ check ∈ out.healthCheck, hc.Kept parseDuration check) ∧
    (∀ fp ∈ r.failurePolicy, out.failurePolicy.restartLimit = fp.restartLimit ∧
      out.failurePolicy.maxNodeAttempts = fp.maxNodeAttempts ∧
      DurationKept parseDuration fp.gracefulTimeout out.failurePolicy.gracefulTimeout) ∧
    (∀ l ∈ r.logRetention, out.logRetention = l) ∧
    DurationKept parseDuration r.statsInterval out.statsInterval ∧
    (∀ reg ∈ r.registry, ∃ auth ∈ out.registry, auth.url = reg.url) ∧
    ∀ s ∈ r.snapshot, out.snapshotConfig.maxPerCapsule = s.maxPerCapsule ∧
      DurationKept parseDuration s.ttl out.snapshotConfig.ttl

def CapsuleConfig.Kept (c : CapsuleConfig) (spec : CapsuleSpec) : Prop :=
  (∀ r ∈ c.resources, r.Kept parseFloat spec.resources) ∧ (∀ r ∈ c.replicas, spec.replicas = r) ∧
    List.Forall₂ (fun r rule => DurationKept parseDuration r.cooldown rule.cooldown)
      c.scaling spec.scalingRules ∧
    (∀ r ∈ c.runtime, r.Kept parseDuration spec.runtime) ∧
    ∀ m ∈ c.momentum, spec.momentumConfig.base = m.base ∧
      DurationKept parseDuration m.idleTimeout spec.momentumConfig.idleTimeout

def Parses (s : String) : Prop := ∃ d, DurationKept parseDuration s d

def IsInt32 (n : Int) : Prop := -2 ^ 31 ≤ n ∧ n < 2 ^ 31

def IsPort (n : Int) : Prop := 0 ≤ n ∧ n < 2 ^ 16

def SizeFits (s : String) : Prop :=
  s = "" ∨ ∀ n ∈ megabytes parseFloat s, -2 ^ 63 - 1 < n ∧ n < 2 ^ 63 ∧ (0 < n → 1 ≤ n)

def ResourcesConfig.Fits (r : ResourcesConfig) : Prop :=
  IsInt32 r.cpu ∧ IsInt32 r.cpuMax ∧
    SizeFits parseFloat r.memory ∧ SizeFits parseFloat r.memoryMax ∧ SizeFits parseFloat r.disk

def RuntimeCfg.Fits (r : RuntimeCfg) : Prop :=
  (∀ n ∈ r.network, ∀ p ∈ n.ports, IsPort p.container ∧ IsPort p.host) ∧
    (∀ hc ∈ r.healthCheck, IsPort hc.port ∧ Parses parseDuration hc.interval ∧
      Parses parseDuration hc.timeout ∧ Parses parseDuration hc.initialDelay) ∧
    (∀ fp ∈ r.failurePolicy, Parses parseDuration fp.gracefulTimeout) ∧ r.registry = none

def CapsuleConfig.Fits (c : CapsuleConfig) : Prop :=
  (∀ r ∈ c.resources, r.Fits parseFloat) ∧
    (∀ r ∈ c.replicas, IsInt32 r.min ∧ IsInt32 r.max ∧ IsInt32 r.exact) ∧
    (∀ r ∈ c.runtime, r.Fits parseDuration) ∧ ∀ m ∈ c.momentum, IsInt32 m.base

end Kept

variable {parseDuration : String → Except String Int} {parseFloat : String → Option Rat}

theorem int32_eq_iff {n : Int} : int32 n = n ↔ IsInt32 n := by
  rw [int32, Int.bmod_def, IsInt32]
  omega

theorem ofInt_eq_iff {n : Int} : ((UInt16.ofInt n).toNat : Int) = n ↔ IsPort n := by
  have small : (n % 2 ^ 16).toNat < UInt16.size := by
    show (n % 2 ^ 16).toNat < 65536
    omega
  rw [UInt16.ofInt, UInt16.toNat_ofNat_of_lt' small, IsPort]
  omega

theorem toInt64_kept_iff {n : Rat} :
    (toInt64 n - 1 < n ∧ n < toInt64 n + 1 ∧ (0 < n → toInt64 n ≠ 0)) ↔
      -2 ^ 63 - 1 < n ∧ n < 2 ^ 63 ∧ (0 < n → 1 ≤ n) := by
  obtain ⟨whole, is⟩ : ∃ whole : Int, whole = if n < 0 then n.ceil else n.floor := ⟨_, rfl⟩
  have near :
      whole - 1 < n ∧ n < whole + 1 ∧ (n < 0 → n ≤ whole) ∧ (0 ≤ n → (whole : Rat) ≤ n) := by
    split at is
    · have low := n.le_ceil
      have high := n.ceil_lt
      rw [← is] at low high
      refine ⟨?_, ?_, ?_, ?_⟩ <;> intros <;> linarith
    · have low := n.floor_le
      have high := n.lt_floor_add_one
      rw [← is] at low high
      push_cast at high
      refine ⟨?_, ?_, ?_, ?_⟩ <;> intros <;> linarith
  obtain ⟨low, high, negative, positive⟩ := near
  have range : -2 ^ 63 ≤ whole ∧ whole < 2 ^ 63 ↔ -2 ^ 63 - 1 < n ∧ n < 2 ^ 63 := by
    constructor
    · rintro ⟨least, most⟩
      have least : (-2 ^ 63 : Rat) ≤ whole := by exact_mod_cast least
      have most : (whole : Rat) + 1 ≤ 2 ^ 63 := by exact_mod_cast most
      constructor <;> linarith
    · rintro ⟨least, most⟩
      have inside : (-2 ^ 63 - 1 : Rat) < whole ∧ (whole : Rat) < 2 ^ 63 := by
        rcases lt_or_ge n 0 with side | side
        · exact ⟨by linarith [negative side], by linarith⟩
        · exact ⟨by linarith, by linarith [positive side]⟩
      have inside : -2 ^ 63 - 1 < whole ∧ whole < 2 ^ 63 := by exact_mod_cast inside
      omega
  have some : 0 < n → (whole ≠ 0 ↔ 1 ≤ n) := by
    intro above
    have natural : 0 ≤ whole := by
      have : (-1 : Rat) < whole := by linarith
      have : -1 < whole := by exact_mod_cast this
      omega
    constructor
    · intro other
      have : (1 : Rat) ≤ whole := by exact_mod_cast (by omega : 1 ≤ whole)
      linarith [positive above.le]
    · rintro one rfl
      rw [Int.cast_zero] at high
      linarith
  have value : toInt64 n = if -2 ^ 63 ≤ whole ∧ whole < 2 ^ 63 then whole else -2 ^ 63 := by
    rw [toInt64, is]
  by_cases fits : -2 ^ 63 ≤ whole ∧ whole < 2 ^ 63
  · rw [value, if_pos fits]
    have bounds := range.mp fits
    exact ⟨fun kept => ⟨bounds.1, bounds.2, fun above => (some above).mp (kept.2.2 above)⟩,
      fun held => ⟨low, high, fun above => (some above).mpr (held.2.2 above)⟩⟩
  · rw [value, if_neg fits]
    push_cast
    exact iff_of_false (fun kept => fits (range.mpr ⟨kept.1, by linarith [kept.2.1]⟩))
      fun held => fits (range.mpr ⟨held.1, held.2.1⟩)

theorem lenient_kept_iff {s : String} :
    DurationKept parseDuration s (lenient parseDuration s) ↔ Parses parseDuration s := by
  constructor
  · exact fun kept => ⟨_, kept⟩
  · rintro ⟨d, parsed⟩
    rw [DurationKept] at parsed
    rw [DurationKept, lenient, parsed]
    rfl

theorem size_kept_iff {s : String} {mb : Int} (parsed : parseSizeToMB parseFloat s = .ok mb) :
    SizeKept parseFloat s mb ↔ SizeFits parseFloat s := by
  unfold parseSizeToMB at parsed
  split at parsed
  · rename_i empty
    cases parsed
    exact iff_of_true (.inl ⟨empty, rfl⟩) (.inl empty)
  · rename_i given
    cases size : megabytes parseFloat s with
    | none => simp [size] at parsed
    | some n =>
      rw [size] at parsed
      cases parsed
      simp [SizeKept, SizeFits, size, given, toInt64_kept_iff]

theorem port_kept_iff {p : PortMapCfg} :
    p.Kept p.mapping ↔ IsPort p.container ∧ IsPort p.host := by
  simp only [PortMapCfg.Kept, PortMapCfg.mapping, ofInt_eq_iff, true_and]
  constructor
  · rintro ⟨container, host, -⟩
    exact ⟨container, host⟩
  · rintro ⟨container, host⟩
    exact ⟨container, host, fun named => if_neg named⟩

theorem check_kept_iff {hc : HealthCheckCfg} :
    hc.Kept parseDuration (hc.check parseDuration) ↔
      IsPort hc.port ∧ Parses parseDuration hc.interval ∧ Parses parseDuration hc.timeout ∧
        Parses parseDuration hc.initialDelay := by
  simp only [HealthCheckCfg.Kept, HealthCheckCfg.check, ofInt_eq_iff, lenient_kept_iff, true_and]

theorem rules_kept {rules : List ScalingRuleConfig} {i : Nat} {out : List ScalingRule}
    (parsed : (rules.zipIdx i).mapM (fun (r, i) => r.rule parseDuration i) = .ok out) :
    List.Forall₂ (fun r rule => DurationKept parseDuration r.cooldown rule.cooldown) rules out := by
  induction rules generalizing i out with
  | nil =>
    cases parsed
    exact .nil
  | cons r rules ih =>
    simp only [List.zipIdx_cons, List.mapM_cons, bind_ok_iff, pure_ok_iff] at parsed
    obtain ⟨rule, first, out, later, rfl⟩ := parsed
    simp only [ScalingRuleConfig.rule, bind_ok_iff, mapError_ok_iff] at first
    obtain ⟨cooldown, kept, made⟩ := first
    cases made
    exact .cons kept (ih later)

theorem resources_kept_iff {r : ResourcesConfig} {out : ResourceRequirements}
    (sizes : r.requirements parseFloat = .ok out) :
    r.Kept parseFloat out ↔ r.Fits parseFloat := by
  simp only [ResourcesConfig.requirements, bind_ok_iff, mapError_ok_iff] at sizes
  obtain ⟨memory, first, memoryMax, second, disk, third, made⟩ := sizes
  cases made
  simp only [ResourcesConfig.Kept, ResourcesConfig.Fits, int32_eq_iff, size_kept_iff first,
    size_kept_iff second, size_kept_iff third]

theorem runtime_kept_iff {r : RuntimeCfg} {out : RuntimeConfig}
    (set : r.settings parseDuration = .ok out) :
    r.Kept parseDuration out ↔ r.Fits parseDuration := by
  simp only [RuntimeCfg.settings, bind_ok_iff, mapError_ok_iff] at set
  obtain ⟨statsInterval, stats, ttl, expiry, made⟩ := set
  cases made
  have ends : ∀ s, r.snapshot = some s → DurationKept parseDuration s.ttl ttl := by
    intro s here
    rwa [here] at expiry
  have kept : DurationKept parseDuration r.statsInterval statsInterval := stats
  simp +contextual [RuntimeCfg.Kept, RuntimeCfg.Fits, check_kept_iff, lenient_kept_iff,
    List.forall₂_same, port_kept_iff, kept, ends, Option.eq_none_iff_forall_ne_some]

/-- A capsule that is converted without an error loses nothing exactly if all of it fits. -/
theorem conversion_lossless_iff {c : CapsuleConfig} {spec : CapsuleSpec}
    (converted : toCapsuleSpec parseDuration parseFloat c = .ok spec) :
    c.Kept parseDuration parseFloat spec ↔ c.Fits parseDuration parseFloat := by
  simp only [toCapsuleSpec, bind_ok_iff] at converted
  obtain ⟨resources, sizes, rules, cooldowns, runtime, set, momentum, idle, converted⟩ := converted
  cases converted
  have first : (∀ r ∈ c.resources, r.Kept parseFloat resources) ↔
      ∀ r ∈ c.resources, r.Fits parseFloat := by
    refine forall₂_congr fun r here => resources_kept_iff ?_
    rwa [Option.mem_def.mp here] at sizes
  have second : (∀ r ∈ c.runtime, r.Kept parseDuration runtime) ↔
      ∀ r ∈ c.runtime, r.Fits parseDuration := by
    refine forall₂_congr fun r here => runtime_kept_iff ?_
    rwa [Option.mem_def.mp here] at set
  have third : (∀ m ∈ c.momentum, momentum.base = m.base ∧
      DurationKept parseDuration m.idleTimeout momentum.idleTimeout) ↔
      ∀ m ∈ c.momentum, IsInt32 m.base := by
    refine forall₂_congr fun m here => ?_
    rw [Option.mem_def.mp here] at idle
    simp only [ifPresent, bind_ok_iff, mapError_ok_iff] at idle
    obtain ⟨idleTimeout, parsed, made⟩ := idle
    cases made
    simp only [int32_eq_iff, DurationKept, parsed, and_true]
  have fourth : (∀ r ∈ c.replicas, ((c.replicas.map fun r =>
      ⟨int32 r.min, int32 r.max, int32 r.exact⟩).getD zeroSpec.replicas) = r) ↔
      ∀ r ∈ c.replicas, IsInt32 r.min ∧ IsInt32 r.max ∧ IsInt32 r.exact := by
    refine forall₂_congr fun r here => ?_
    rw [Option.mem_def.mp here]
    cases r
    simp [int32_eq_iff]
  simp only [CapsuleConfig.Kept, CapsuleConfig.Fits, first, second, third, fourth,
    rules_kept cooldowns, true_and]

/-- A capsule with a liveness probe at some interval. -/
def probed (interval : String) : CapsuleConfig :=
  { name := "web", image := "nginx", orbit := "main", replicas := some ⟨1, 3, 0⟩
    runtime := some { healthCheck := some { type := "http", port := 80, interval } } }

theorem probed_lossless :
    ∃ spec, toCapsuleSpec (fun _ => .ok 10) (fun _ => none) (probed "10ns") = .ok spec ∧
      (probed "10ns").Kept (fun _ => .ok 10) (fun _ => none) spec := by
  refine ⟨_, rfl, (conversion_lossless_iff rfl).mpr ?_⟩
  simp [CapsuleConfig.Fits, RuntimeCfg.Fits, probed, IsInt32, IsPort, Parses, DurationKept,
    parseOptionalDuration]

/-- An interval that does not parse is dropped without an error. -/
theorem interval_dropped :
    ∃ spec, toCapsuleSpec (fun _ => .error "invalid") (fun _ => none) (probed "soon") = .ok spec ∧
      ¬ (probed "soon").Kept (fun _ => .error "invalid") (fun _ => none) spec := by
  refine ⟨_, rfl, ?_⟩
  rintro ⟨-, -, -, runtime, -⟩
  obtain ⟨-, -, check, -⟩ := runtime _ rfl
  obtain ⟨_, -, -, -, -, -, interval, -⟩ := check _ rfl
  cases interval

end Falak.Config
