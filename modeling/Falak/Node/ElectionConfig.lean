import Falak.Gravity.Eligibility
import Falak.Gravity.Weights
import Falak.Node.ElectionHandler
import Falak.Node.Reannouncement
import Mathlib.Data.List.Induction

/-! The election settings of a cluster, and what they leave of the eligibility filter. -/

namespace Falak

namespace Gravity

open Falak.Capsule (Capsule)

structure CalculatorOptions where
  weights : Weights := defaultWeights
  lookup : Option (Capsule.Manager → CapsuleTargetLookup) := none

def CalculatorOptions.isEligible (k : CalculatorOptions) (m : Capsule.Manager) (c : Capsule)
    (node : NodeState) : Ineligibility :=
  Gravity.isEligible c node (k.lookup.map fun lookup => lookup m)

end Gravity

namespace Node

open Falak.Capsule (Capsule)
open Gravity (CalculatorOptions NodeState Weights defaultWeights)

structure ClusterElectionConfig where
  algorithm : String
  timeout : Int
  weights : Option Weights

structure ClusterConfig where
  path : String
  election : Option ClusterElectionConfig

structure ElectionSettings where
  calculator : CalculatorOptions
  perClusterCalc : String → Option CalculatorOptions
  electionTimeout : Int
  perClusterTimeout : String → Option Int

namespace ElectionSettings

variable (s : ElectionSettings) (path : String) (cfg : ClusterConfig) (clusterPath : String)

/-- The settings of a node that has joined no cluster. -/
def initializeElectionManager : ElectionSettings :=
  { calculator := { lookup := some nodesRunningCapsule }
    perClusterCalc := fun _ => none
    electionTimeout := 10 * second
    perClusterTimeout := fun _ => none }

def setClusterCalculator (replacement : Option CalculatorOptions) : ElectionSettings :=
  { s with perClusterCalc := Function.update s.perClusterCalc clusterPath replacement }

def setClusterTimeout (d : Int) : ElectionSettings :=
  { s with
    perClusterTimeout :=
      Function.update s.perClusterTimeout clusterPath (if d ≤ 0 then none else some d) }

def calculatorFor : CalculatorOptions :=
  (s.perClusterCalc clusterPath).getD s.calculator

def timeoutFor : Int :=
  (s.perClusterTimeout clusterPath).getD s.electionTimeout

def applyTimeout (timeout : Int) : ElectionSettings :=
  if timeout > 0 then s.setClusterTimeout clusterPath timeout else s

def applyClusterElectionConfig : ElectionSettings :=
  match cfg.election with
  | none => s
  | some election =>
    match election.weights with
    | none => s.applyTimeout cfg.path election.timeout
    | some weights =>
      (s.applyTimeout cfg.path election.timeout).setClusterCalculator cfg.path
        (some { weights := defaultWeights.merge weights })

def joined (configs : List ClusterConfig) : ElectionSettings :=
  configs.foldl applyClusterElectionConfig initializeElectionManager

def Overrides : Prop :=
  cfg.path = path ∧ ∃ election ∈ cfg.election, election.weights.isSome

@[simp] theorem applyTimeout_calculator (timeout : Int) :
    (s.applyTimeout path timeout).calculator = s.calculator := by
  unfold applyTimeout
  split_ifs <;> rfl

@[simp] theorem applyTimeout_perClusterCalc (timeout : Int) :
    (s.applyTimeout path timeout).perClusterCalc = s.perClusterCalc := by
  unfold applyTimeout
  split_ifs <;> rfl

theorem applyClusterElectionConfig_calculator :
    (s.applyClusterElectionConfig cfg).calculator = s.calculator := by
  unfold applyClusterElectionConfig
  split
  · rfl
  · split <;> simp [setClusterCalculator]

variable {path : String} {cfg : ClusterConfig} {configs : List ClusterConfig}

theorem applyClusterElectionConfig_overridden (s : ElectionSettings)
    (changed : Overrides path cfg) :
    ∃ k, (s.applyClusterElectionConfig cfg).perClusterCalc path = some k ∧ k.lookup = none := by
  obtain ⟨rfl, election, there, weighted⟩ := changed
  obtain ⟨weights, set⟩ := Option.isSome_iff_exists.mp weighted
  refine ⟨{ weights := defaultWeights.merge weights }, ?_, rfl⟩
  simp [applyClusterElectionConfig, Option.mem_def.mp there, set, setClusterCalculator]

theorem applyClusterElectionConfig_other (s : ElectionSettings) (plain : ¬ Overrides path cfg) :
    (s.applyClusterElectionConfig cfg).perClusterCalc path = s.perClusterCalc path := by
  unfold applyClusterElectionConfig
  split
  · rfl
  · rename_i election there
    split
    · simp
    · -- The weights are those of another cluster.
      rename_i weights set
      have apart : path ≠ cfg.path := fun same =>
        plain ⟨same.symm, election, there, by rw [set]; rfl⟩
      simp [setClusterCalculator, Function.update_of_ne apart]

theorem joined_append (configs : List ClusterConfig) (cfg : ClusterConfig) :
    joined (configs ++ [cfg]) = (joined configs).applyClusterElectionConfig cfg := by
  simp [joined]

theorem joined_calculator (configs : List ClusterConfig) :
    (joined configs).calculator = initializeElectionManager.calculator := by
  induction configs using List.reverseRecOn with
  | nil => rfl
  | append_singleton configs cfg ih =>
    rw [joined_append, applyClusterElectionConfig_calculator, ih]

theorem joined_plain (plain : ∀ cfg ∈ configs, ¬ Overrides path cfg) :
    (joined configs).perClusterCalc path = none := by
  induction configs using List.reverseRecOn with
  | nil => rfl
  | append_singleton configs cfg ih =>
    rw [joined_append, applyClusterElectionConfig_other _ (plain cfg (by simp))]
    exact ih fun cfg' there => plain cfg' (List.mem_append_left _ there)

theorem joined_overridden (changed : ∃ cfg ∈ configs, Overrides path cfg) :
    ∃ k, (joined configs).perClusterCalc path = some k ∧ k.lookup = none := by
  induction configs using List.reverseRecOn with
  | nil => simp at changed
  | append_singleton configs cfg ih =>
    rw [joined_append]
    by_cases last : Overrides path cfg
    · exact applyClusterElectionConfig_overridden _ last
    · rw [applyClusterElectionConfig_other _ last]
      obtain ⟨cfg', there, changed⟩ := changed
      refine ih ⟨cfg', ?_, changed⟩
      rcases List.mem_append.mp there with before | after
      · exact before
      · exact absurd (List.mem_singleton.mp after ▸ changed) last

theorem nodesRunningCapsule_eq_nil_iff {m : Capsule.Manager} :
    (∀ clusterPath name, nodesRunningCapsule m clusterPath name = []) ↔
      ∀ c ∈ m.list, ∀ r ∈ c.replicas, r.nodeID = "" := by
  constructor
  · intro none c listed r slot
    by_contra placed
    have hosting : r.nodeID ∈ nodesRunningCapsule m c.clusterID c.spec.name := by
      simp only [nodesRunningCapsule, List.mem_flatMap, List.mem_filter, List.mem_map]
      exact ⟨c, ⟨listed, by simp⟩, r, ⟨slot, by simpa using placed⟩, rfl⟩
    rw [none] at hosting
    exact List.not_mem_nil hosting
  · intro free clusterPath name
    rw [nodesRunningCapsule, List.flatMap_eq_nil_iff]
    intro c there
    have listed := (List.mem_filter.mp there).1
    simpa using fun r slot => free c listed r slot

/--
The calculator of a cluster judges every node as the default calculator does, exactly when no
configuration overrides the weights of the cluster or no replica is placed on any node.
-/
theorem eligibility_kept_iff (configs : List ClusterConfig) (path : String) (m : Capsule.Manager) :
    (∀ c node, ((joined configs).calculatorFor path).isEligible m c node
      = (joined configs).calculator.isEligible m c node) ↔
    (∀ cfg ∈ configs, ¬ Overrides path cfg) ∨ ∀ c ∈ m.list, ∀ r ∈ c.replicas, r.nodeID = "" := by
  by_cases plain : ∀ cfg ∈ configs, ¬ Overrides path cfg
  · -- The cluster uses the default calculator itself.
    refine iff_of_true (fun c node => ?_) (.inl plain)
    rw [calculatorFor, joined_plain plain, Option.getD_none]
  · obtain ⟨k, own, blind⟩ := joined_overridden (by simpa using plain)
    have asks : (joined configs).calculator.lookup = some nodesRunningCapsule := by
      rw [joined_calculator]
      rfl
    simp only [calculatorFor, own, Option.getD_some, CalculatorOptions.isEligible, blind, asks,
      Option.map_none, Option.map_some, plain, false_or]
    rw [← nodesRunningCapsule_eq_nil_iff]
    constructor
    · intro same clusterPath name
      rw [List.eq_nil_iff_forall_not_mem]
      intro nodeID hosting
      let c :=
        Capsule.Manager.freshCapsule 0 name clusterPath { Capsule.zeroSpec with name := name }
      let node : NodeState := ⟨nodeID, clusterPath, "", ∅, 0, 0, 0, .active⟩
      have listed : Gravity.runsAlready c node (some (nodesRunningCapsule m)) = true :=
        List.contains_iff_mem.mpr hosting
      have excluded := (Gravity.excluded_iff c node _).mpr listed
      rw [← same, Gravity.excluded_iff] at excluded
      exact Bool.false_ne_true excluded
    · intro empty c node
      exact (Gravity.isEligible_of_empty empty c node).symm

def weighted : ClusterConfig :=
  { path := "cluster"
    election := some
      { algorithm := "delay"
        timeout := 0
        weights := some { defaultWeights with cpuHeadroom := 2 } } }

/-- A node that hosts a replica is eligible for the next one once the weights are overridden. -/
theorem eligibility_lost :
    let node : NodeState := ⟨"node-b", "cluster", "", ∅, 8, 8192, 8192, .active⟩
    ((joined [weighted]).calculatorFor "cluster").isEligible placed placedCapsule node
      = ⟨.ok, ""⟩ ∧
    (joined [weighted]).calculator.isEligible placed placedCapsule node
      = ⟨.excluded, "node node-b is already running capsule web"⟩ := by
  decide +kernel

end ElectionSettings

end Node

end Falak
