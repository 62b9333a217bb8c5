import Falak.Node.ElectionConfig
import Mathlib.Data.Finset.Basic

/-! The election settings of a cluster that a node joins and leaves again and again. -/

namespace Falak.Node

open Gravity (CalculatorOptions defaultWeights)

inductive JoinOutcome
  | notRunning
  | cancelled
  | failed (reason : String)
  | joined (opens : Bool)

structure Memberships where
  joinedClusters : Finset String
  topics : Finset String
  settings : ElectionSettings

inductive MembershipCall
  | join (cfg : ClusterConfig) (outcome : JoinOutcome)
  | leave (clusterPath : String)

namespace Memberships

variable (s : Memberships)

def start : Memberships := ⟨∅, ∅, .initializeElectionManager⟩

def join (cfg : ClusterConfig) : JoinOutcome → Memberships
  | .joined opens =>
    { joinedClusters := insert cfg.path s.joinedClusters
      topics := if opens then insert cfg.path s.topics else s.topics
      settings := s.settings.applyClusterElectionConfig cfg }
  | _ => s

def leave (clusterPath : String) : Memberships :=
  if clusterPath ∈ s.joinedClusters then
    { s with
      joinedClusters := s.joinedClusters.erase clusterPath
      topics := s.topics.erase clusterPath }
  else s

def call : MembershipCall → Memberships
  | .join cfg outcome => s.join cfg outcome
  | .leave clusterPath => s.leave clusterPath

def replay (history : List MembershipCall) : Memberships := history.foldl call start

end Memberships

def MembershipCall.accepted : MembershipCall → Option ClusterConfig
  | .join cfg (.joined _) => some cfg
  | _ => none

def ClusterConfig.timeoutOverride (cfg : ClusterConfig) : Option Int :=
  cfg.election.bind fun election => if election.timeout > 0 then some election.timeout else none

def ClusterConfig.calculatorOverride (cfg : ClusterConfig) : Option CalculatorOptions :=
  cfg.election.bind fun election =>
    election.weights.map fun weights => { weights := defaultWeights.merge weights }

def lastOverride {α : Type} (override : ClusterConfig → Option α) (path : String)
    (configs : List ClusterConfig) : Option α :=
  configs.reverse.findSome? fun cfg => if cfg.path = path then override cfg else none

section Overrides

variable {α : Type} (override : ClusterConfig → Option α) {path : String}

@[simp] theorem lastOverride_append (configs later : List ClusterConfig) :
    lastOverride override path (configs ++ later)
      = (lastOverride override path later).or (lastOverride override path configs) := by
  simp [lastOverride, List.findSome?_append]

@[simp] theorem lastOverride_singleton (cfg : ClusterConfig) :
    lastOverride override path [cfg] = if cfg.path = path then override cfg else none := by
  simp [lastOverride]

theorem lastOverride_other {configs : List ClusterConfig}
    (other : ∀ cfg ∈ configs, cfg.path ≠ path) : lastOverride override path configs = none := by
  simp only [lastOverride, List.findSome?_eq_none_iff, List.mem_reverse]
  exact fun cfg listed => if_neg (other cfg listed)

end Overrides

namespace ElectionSettings

theorem applyClusterElectionConfig_perCluster (s : ElectionSettings) (cfg : ClusterConfig)
    (path : String) :
    (s.applyClusterElectionConfig cfg).perClusterTimeout path
        = (if cfg.path = path then cfg.timeoutOverride else none).or (s.perClusterTimeout path) ∧
      (s.applyClusterElectionConfig cfg).perClusterCalc path
        = (if cfg.path = path then cfg.calculatorOverride else none).or (s.perClusterCalc path) ∧
      (s.applyClusterElectionConfig cfg).electionTimeout = s.electionTimeout := by
  obtain ⟨own, _ | ⟨algorithm, timeout, weights⟩⟩ := cfg
  · simp [applyClusterElectionConfig, ClusterConfig.timeoutOverride,
      ClusterConfig.calculatorOverride]
  · by_cases same : path = own <;> by_cases positive : timeout > 0 <;> cases weights <;>
      simp [applyClusterElectionConfig, ClusterConfig.timeoutOverride, applyTimeout, positive,
        ClusterConfig.calculatorOverride, setClusterTimeout, setClusterCalculator, same,
        eq_comm (a := own)]

theorem joined_perCluster (configs : List ClusterConfig) (path : String) :
    (joined configs).perClusterTimeout path
        = lastOverride ClusterConfig.timeoutOverride path configs ∧
      (joined configs).perClusterCalc path
        = lastOverride ClusterConfig.calculatorOverride path configs ∧
      (joined configs).electionTimeout = 10 * second := by
  induction configs using List.reverseRecOn with
  | nil => exact ⟨rfl, rfl, rfl⟩
  | append_singleton configs cfg ih =>
    obtain ⟨timeout, calculator, default⟩ :=
      (joined configs).applyClusterElectionConfig_perCluster cfg path
    rw [joined_append, timeout, calculator, default, ih.1, ih.2.1, ih.2.2, lastOverride_append,
      lastOverride_append, lastOverride_singleton, lastOverride_singleton]
    exact ⟨rfl, rfl, rfl⟩

end ElectionSettings

namespace Memberships

open ElectionSettings

theorem settings_call (s : Memberships) (c : MembershipCall) :
    (s.call c).settings = c.accepted.elim s.settings s.settings.applyClusterElectionConfig := by
  cases c with
  | leave clusterPath =>
    simp only [call, leave, MembershipCall.accepted, Option.elim_none]
    split <;> rfl
  | join cfg outcome => cases outcome <;> rfl

theorem settings_replay (history : List MembershipCall) :
    (replay history).settings = joined (history.filterMap MembershipCall.accepted) := by
  suffices from_any : ∀ s : Memberships, (history.foldl call s).settings =
      (history.filterMap MembershipCall.accepted).foldl applyClusterElectionConfig s.settings from
    from_any start
  induction history with
  | nil => exact fun s => rfl
  | cons c rest ih =>
    intro s
    rw [List.foldl_cons, ih, settings_call]
    cases made : c.accepted <;> simp [made]

/--
After the latest successful join of a cluster its elections use the timeout and the weights of a
freshly started node, exactly when each of the two is set by the configuration itself, or was last
set by an earlier one, if ever, to the default.
-/
theorem rejoined_iff (before after : List MembershipCall) (cfg : ClusterConfig) (opens : Bool)
    (latest : ∀ later ∈ after.filterMap MembershipCall.accepted, later.path ≠ cfg.path) :
    let now := (replay (before ++ .join cfg (.joined opens) :: after)).settings
    let fresh := (replay [.join cfg (.joined opens)]).settings
    let earlier := before.filterMap MembershipCall.accepted
    (now.timeoutFor cfg.path = fresh.timeoutFor cfg.path ∧
        (now.calculatorFor cfg.path).weights = (fresh.calculatorFor cfg.path).weights) ↔
      (cfg.timeoutOverride = none →
          ∀ timeout ∈ lastOverride ClusterConfig.timeoutOverride cfg.path earlier,
            timeout = 10 * second) ∧
        (cfg.calculatorOverride = none →
          ∀ calculator ∈ lastOverride ClusterConfig.calculatorOverride cfg.path earlier,
            calculator.weights = defaultWeights) := by
  intro now fresh earlier
  have split : (before ++ .join cfg (.joined opens) :: after).filterMap MembershipCall.accepted
      = earlier ++ ([cfg] ++ after.filterMap MembershipCall.accepted) := by
    simp [earlier, MembershipCall.accepted]
  have alone : [MembershipCall.join cfg (.joined opens)].filterMap MembershipCall.accepted
      = [cfg] := rfl
  have ten := fun configs => (joined_perCluster configs cfg.path).2.2
  have default : initializeElectionManager.calculator.weights = defaultWeights := rfl
  simp only [now, fresh, settings_replay, split, alone, timeoutFor, calculatorFor,
    joined_perCluster, ten, joined_calculator, lastOverride_append, lastOverride_singleton, if_true,
    lastOverride_other _ latest, Option.none_or]
  refine and_congr ?_ ?_
  · cases cfg.timeoutOverride <;>
      cases lastOverride ClusterConfig.timeoutOverride cfg.path earlier <;> simp
  · cases cfg.calculatorOverride <;>
      cases lastOverride ClusterConfig.calculatorOverride cfg.path earlier <;> simp [default]

def plain : ClusterConfig := ⟨"cluster", none⟩

def patient : ClusterConfig := ⟨"cluster", some ⟨"delay", 30 * second, none⟩⟩

theorem rejoined_with_timeout :
    let now := (replay [.join plain (.joined true), .leave "cluster",
      .join patient (.joined true), .leave "cluster"]).settings
    let fresh := (replay [.join patient (.joined true)]).settings
    now.timeoutFor "cluster" = fresh.timeoutFor "cluster" ∧
      (now.calculatorFor "cluster").weights = (fresh.calculatorFor "cluster").weights :=
  (rejoined_iff [.join plain (.joined true), .leave "cluster"] [.leave "cluster"] patient true
    (by decide)).mpr ⟨by decide, fun _ _ set => nomatch set⟩

/-- The timeout of an earlier membership outlives the leave. -/
theorem timeout_outlives_leave :
    (replay [.join patient (.joined true), .leave "cluster",
        .join plain (.joined true)]).settings.timeoutFor "cluster" = 30 * second ∧
      (replay [.join plain (.joined true)]).settings.timeoutFor "cluster" = 10 * second := by
  decide +kernel

end Memberships

end Falak.Node
