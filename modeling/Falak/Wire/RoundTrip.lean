import Falak.Capsule.Manager
import Falak.Wire.CapsuleProto

/-! What a capsule keeps and what it loses when another node reads it from its announcement. -/

namespace Falak.Wire

variable (s : CapsuleSpec)

open Falak.Capsule

def roundTrip (c : Capsule) : Capsule := protoToCapsule (capsuleToProto c)

def carriedRule (rule : ScalingRule) : ScalingRule :=
  { rule with cooldown := wholeSeconds rule.cooldown * second }

def carriedSpec : CapsuleSpec :=
  { s with
    imageAlias := ""
    resources := { s.resources with cpuCoresMax := 0, memoryMBMax := 0 }
    scalingRules := s.scalingRules.map carriedRule
    runtime := { zeroSpec.runtime with env := s.runtime.env }
    momentumConfig.idleTimeout := wholeSeconds s.momentumConfig.idleTimeout * second
    command := [] }

theorem tier_roundTrip {tier : Tier} (valid : tier.valid = true) :
    Named.ofText (Named.text tier) = tier := by
  refine Named.ofText_text ?_
  cases tier <;> simp_all [Tier.valid, Named.known]

theorem trigger_roundTrip {trigger : TriggerMode} (valid : trigger.valid = true) :
    Named.ofText (Named.text trigger) = trigger := by
  refine Named.ofText_text ?_
  cases trigger <;> simp_all [TriggerMode.valid, Named.known]

theorem action_roundTrip {action : ScalingAction} (valid : action.valid = true) :
    Named.ofText (Named.text action) = action := by
  refine Named.ofText_text ?_
  cases action <;> simp_all [ScalingAction.valid, Named.known]

theorem placementType_roundTrip {type : PlacementType} (valid : type.valid = true) :
    Named.ofText (Named.text type) = type := by
  refine Named.ofText_text ?_
  cases type <;> simp_all [PlacementType.valid, Named.known]

theorem placementMode_roundTrip {mode : PlacementMode}
    (valid : mode.valid = true ∨ mode = .unknown "") :
    Named.ofText (Named.text mode) = mode := by
  rcases valid with valid | rfl
  · refine Named.ofText_text ?_
    cases mode <;> simp_all [PlacementMode.valid, Named.known]
  · decide

theorem accepted_parts {s : CapsuleSpec} (accepted : validateSpec s = []) :
    (s.tier ≠ .unknown "" → s.tier.valid = true) ∧
      (∀ rule ∈ s.placementRules, ∃ i, validatePlacementRule rule i = none) ∧
      ∀ rule ∈ s.scalingRules, ∃ i, validateScalingRule rule i = none := by
  simp only [validateSpec, List.append_eq_nil_iff, List.filterMap_eq_nil_iff] at accepted
  obtain ⟨⟨⟨⟨⟨⟨⟨-, tier⟩, -⟩, -⟩, -⟩, -⟩, placement⟩, scaling⟩ := accepted
  refine ⟨fun named => ?_, fun rule listed => ?_, fun rule listed => ?_⟩
  · by_contra invalid
    simp [named, invalid] at tier
  · obtain ⟨i, inside, rfl⟩ := List.getElem_of_mem listed
    exact ⟨i, placement (s.placementRules[i], i) (List.mem_zipIdx_iff_getElem?.mpr (by simp))⟩
  · obtain ⟨i, inside, rfl⟩ := List.getElem_of_mem listed
    exact ⟨i, scaling (s.scalingRules[i], i) (List.mem_zipIdx_iff_getElem?.mpr (by simp))⟩

theorem placementRule_roundTrip {rule : PlacementRule} {i : Nat}
    (accepted : validatePlacementRule rule i = none) :
    Named.ofText (Named.text rule.type) = rule.type ∧
      Named.ofText (Named.text rule.mode) = rule.mode := by
  unfold validatePlacementRule at accepted
  split at accepted
  · cases accepted
  · rename_i known
    have type : rule.type.valid = true := by simpa using known
    refine ⟨placementType_roundTrip type, placementMode_roundTrip ?_⟩
    by_cases capsule : rule.type = .capsule
    · by_cases mode : rule.mode.valid = true
      · exact .inl mode
      · simp [capsule, mode] at accepted
    · by_cases mode : rule.mode = .unknown ""
      · exact .inr mode
      · simp [capsule, mode] at accepted

theorem scalingRule_roundTrip {rule : ScalingRule} {i : Nat}
    (accepted : validateScalingRule rule i = none) :
    Named.ofText (Named.text rule.trigger) = rule.trigger ∧
      Named.ofText (Named.text rule.action) = rule.action := by
  unfold validateScalingRule at accepted
  split at accepted
  · cases accepted
  · split at accepted
    · cases accepted
    · rename_i trigger
      split at accepted
      · cases accepted
      · rename_i action
        exact ⟨trigger_roundTrip (by simpa using trigger), action_roundTrip (by simpa using action)⟩

theorem protoToSpec_specToProto {s : CapsuleSpec} (accepted : validateSpec s = [])
    (tiered : s.tier ≠ .unknown "") : protoToSpec (specToProto s) = carriedSpec s := by
  obtain ⟨tier, placement, scaling⟩ := accepted_parts accepted
  have tiers : Named.ofText (Named.text s.tier) = s.tier := tier_roundTrip (tier tiered)
  have placements : (protoToSpec (specToProto s)).placementRules = s.placementRules := by
    simp only [protoToSpec, specToProto, List.map_map]
    refine (List.map_congr_left fun rule listed => ?_).trans (List.map_id _)
    obtain ⟨i, passed⟩ := placement rule listed
    obtain ⟨type, mode⟩ := placementRule_roundTrip passed
    simp [type, mode]
  have scalings : (protoToSpec (specToProto s)).scalingRules = s.scalingRules.map carriedRule := by
    simp only [protoToSpec, specToProto, List.map_map]
    refine List.map_congr_left fun rule listed => ?_
    obtain ⟨i, passed⟩ := scaling rule listed
    obtain ⟨trigger, action⟩ := scalingRule_roundTrip passed
    simp [trigger, action, carriedRule]
  rw [show protoToSpec (specToProto s) = { protoToSpec (specToProto s) with
    placementRules := s.placementRules, scalingRules := s.scalingRules.map carriedRule } by
      rw [← placements, ← scalings]]
  simp [protoToSpec, specToProto, carriedSpec, tiers, zeroSpec]

theorem defaultSpec_tier : (defaultSpec s).tier ≠ .unknown "" := by
  simp only [defaultSpec]
  split
  · simp
  · assumption

theorem defaultSpec_statsInterval :
    (defaultSpec s).runtime.statsInterval ≠ 0 := by
  simp only [defaultSpec, defaultRuntime, orDefault]
  split
  · decide
  · assumption

/-- No capsule that was filled in and accepted arrives as it was created. -/
theorem capsule_round_trip {c : Capsule} {user : CapsuleSpec}
    (defaulted : c.spec = defaultSpec user) (accepted : validateSpec c.spec = []) :
    (roundTrip c).spec = carriedSpec c.spec ∧ (roundTrip c).spec ≠ c.spec := by
  have arrives : (roundTrip c).spec = carriedSpec c.spec := by
    refine protoToSpec_specToProto accepted ?_
    rw [defaulted]
    exact defaultSpec_tier user
  refine ⟨arrives, fun same => ?_⟩
  have zero : c.spec.runtime.statsInterval = 0 := by
    rw [← same, arrives]
    rfl
  rw [defaulted] at zero
  exact defaultSpec_statsInterval user zero

def servingCapsule : Capsule :=
  Manager.freshCapsule 0 "web" "cluster" (defaultSpec
    { bareSpec ⟨0, 0, 0⟩ with
      command := ["serve", "--fast"]
      resources := ⟨1, 0, 256, 512, 0⟩
      runtime.network.ports := [⟨"http", 8080, 80, "tcp"⟩] })

/-- The node that reads the announcement runs another command, with no port and no ceiling. -/
theorem command_lost :
    validateSpec servingCapsule.spec = [] ∧ servingCapsule.spec.command = ["serve", "--fast"] ∧
      (roundTrip servingCapsule).spec.command = [] ∧
      (roundTrip servingCapsule).spec.runtime.network = ⟨.unknown "", []⟩ ∧
      (roundTrip servingCapsule).spec.resources.memoryMBMax = 0 := by
  decide +kernel

/-- The capsule arrives without its command, its port and its ceiling. -/
theorem capsule_round_trip_serving :
    (roundTrip servingCapsule).spec = carriedSpec servingCapsule.spec ∧
      (roundTrip servingCapsule).spec ≠ servingCapsule.spec :=
  capsule_round_trip rfl (by decide +kernel)

end Falak.Wire
