import Falak.Capsule.ManagerLaws
import Falak.Config.Capsule
import Falak.Gravity.Eligibility
import Falak.Wire.CapsuleProto

/-! What becomes of a placement rule that a configuration declares as soft. -/

namespace Falak.Node

open Falak.Capsule
open Config (CapsuleConfig PlacementConfig toCapsuleSpec)
open Gravity (NodeState CapsuleTargetLookup ruleMatchesNode isEligible)
open Wire (capsuleToProto protoToCapsule)

variable {cfg : CapsuleConfig} {spec : CapsuleSpec} {m : Manager} {now : Int}
  {fault announceFault : Option String} {id : CapsuleID} {clusterID : String} {c : Capsule}

theorem create_result
    (created : (m.create now fault announceFault id clusterID spec).result = .ok c) :
    c.spec = defaultSpec spec ∧
      (m.create now fault announceFault id clusterID spec).manager.get id = some c := by
  rcases m.createStored_spec now fault id clusterID spec with ⟨err, refused⟩ | stored
  · simp [Manager.create, refused, Manager.refuse] at created
  · obtain ⟨c', kept, gets⟩ := Manager.create_stored announceFault stored
    have found := gets id
    rw [if_pos rfl] at found
    -- The caller gets what the manager has.
    simp only [Manager.create, stored.result] at created found
    rw [found, Option.getD_some, Except.ok.injEq] at created
    exact ⟨created ▸ kept, by simp only [Manager.create, stored.result]; rw [found, created]⟩

theorem receive_result (received : (m.receive now fault c).result = .ok ()) :
    ∃ c', (m.receive now fault c).manager.get c.id = some c' ∧ c'.spec = c.spec := by
  cases found : m.get c.id with
  | some old =>
    cases updated : m.store.update now fault c with
    | error err => simp [Manager.receive, found, updated, Manager.refuse] at received
    | ok store =>
      exact ⟨_, (Manager.receive_replaces (by simp [found]) updated c.id).trans (if_pos rfl), rfl⟩
  | none =>
    cases created : m.store.create now fault c with
    | error err => simp [Manager.receive, found, created, Manager.refuse] at received
    | ok store => exact ⟨_, (Manager.receive_stores found created c.id).trans (if_pos rfl), rfl⟩

def KeepsSoft (cfg : CapsuleConfig) (c : Capsule) : Prop :=
  c.spec.placementRules = cfg.placement.map PlacementConfig.rule ∧
    ∀ (node : NodeState) (lookup : Option CapsuleTargetLookup),
      (∀ p ∈ cfg.placement, p.required ≠ some false → ruleMatchesNode p.rule node lookup = true) →
      (isEligible c node lookup).reason ≠ .placementRule

theorem keepsSoft_of_hard (hard : ∀ p ∈ cfg.placement, p.required ≠ some false)
    (kept : c.spec.placementRules = cfg.placement.map PlacementConfig.rule) : KeepsSoft cfg c := by
  refine ⟨kept, fun node lookup meets placed => ?_⟩
  have none : (c.spec.placementRules.find? fun rule =>
      rule.required && !ruleMatchesNode rule node lookup) = none := by
    rw [kept, List.find?_map, List.find?_eq_none.mpr, Option.map_none]
    intro p listed
    simp [meets p listed (hard p listed)]
  unfold isEligible at placed
  simp only [none] at placed
  split_ifs at placed

theorem defaults_kept_iff :
    cfg.placement.map (defaultPlacementRule ∘ PlacementConfig.rule)
        = cfg.placement.map PlacementConfig.rule ↔
      ∀ p ∈ cfg.placement, p.required ≠ some false := by
  rw [List.map_inj_left]
  refine forall₂_congr fun p _ => ?_
  cases soft : p.required with
  | none => simp [defaultPlacementRule, PlacementConfig.rule, soft]
  | some flag => cases flag <;> simp [defaultPlacementRule, PlacementConfig.rule, soft]

/--
A created capsule is stored, and it keeps its soft rules on this node and on every node that
receives it, exactly when its configuration has none.
-/
theorem soft_rules_kept_iff {parseDuration : String → Except String Int}
    {parseFloat : String → Option Rat}
    (converted : toCapsuleSpec parseDuration parseFloat cfg = .ok spec)
    (created : (m.create now fault announceFault id clusterID spec).result = .ok c) :
    (m.create now fault announceFault id clusterID spec).manager.get id = some c ∧
    ((KeepsSoft cfg c ∧ ∀ (m' : Manager) (now' : Int) (fault' : Option String),
        (m'.receive now' fault' (protoToCapsule (capsuleToProto c))).result = .ok () →
        ∃ c', (m'.receive now' fault' (protoToCapsule (capsuleToProto c))).manager.get c.id
          = some c' ∧ KeepsSoft cfg c') ↔
      ∀ p ∈ cfg.placement, p.required ≠ some false) := by
  obtain ⟨defaults, found⟩ := create_result created
  refine ⟨found, ?_⟩
  have rules : c.spec.placementRules
      = cfg.placement.map (defaultPlacementRule ∘ PlacementConfig.rule) := by
    rw [defaults, defaultSpec, Config.placementRules_of_toCapsuleSpec converted, List.map_map]
  have carried : (protoToCapsule (capsuleToProto c)).spec.placementRules
      = c.spec.placementRules := by
    simp [protoToCapsule, capsuleToProto, Wire.protoToSpec, Wire.specToProto, rules,
      defaultPlacementRule, PlacementConfig.rule]
  rw [← defaults_kept_iff, ← rules]
  constructor
  · exact fun ⟨kept, _⟩ => kept.1
  · intro same
    have hard := defaults_kept_iff.mp (rules.symm.trans same)
    refine ⟨keepsSoft_of_hard hard same, fun m' now' fault' received => ?_⟩
    obtain ⟨c', stored, spec'⟩ := receive_result received
    exact ⟨c', stored, keepsSoft_of_hard hard (by rw [spec', carried, same])⟩

def placing (required : Option Bool) : CapsuleConfig :=
  { name := "web"
    image := "web:1"
    orbit := "api"
    placement := [{ name := "ssd", type := "node", targets := ["node-b"], required := required }] }

def converted (cfg : CapsuleConfig) : Except String CapsuleSpec :=
  toCapsuleSpec (fun _ => .error "") (fun _ => none) cfg

theorem unset_rules_kept :
    ∃ spec c, converted (placing none) = .ok spec ∧
      ((Manager.new Store.new).create 0 none none "web" "cluster" spec).result = .ok c ∧
      KeepsSoft (placing none) c := by
  have kept {spec : CapsuleSpec} {c : Capsule} (done : converted (placing none) = .ok spec)
      (created : ((Manager.new Store.new).create 0 none none "web" "cluster" spec).result = .ok c) :
      KeepsSoft (placing none) c :=
    ((soft_rules_kept_iff done created).2.mpr (by simp [placing])).1
  exact ⟨_, _, rfl, rfl, kept rfl rfl⟩

/-- A soft rule excludes a node that does not meet it. -/
theorem soft_rule_excludes :
    ∃ spec c, converted (placing (some false)) = .ok spec ∧
      ((Manager.new Store.new).create 0 none none "web" "cluster" spec).result = .ok c ∧
      (isEligible c ⟨"node-a", "cluster", "", ∅, 8, 8192, 8192, .active⟩ none).reason
        = .placementRule :=
  ⟨_, _, rfl, rfl, by decide +kernel⟩

end Falak.Node
