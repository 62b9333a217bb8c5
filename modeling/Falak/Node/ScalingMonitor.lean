import Falak.Capsule.ManagerLaws
import Falak.Node.CapsuleHandler
import Falak.Scaling.Monitor

/-! Whether the scaling monitor has the rules of the capsules that are stored. -/

namespace Falak.Node

open Falak.Capsule
open Falak.Scaling (Rule Monitor fromSpecList fromSpecList_eq_nil)

variable {F : Type} [Zero F] (parseFloat : String → Option F)

/-- What an effect of the handler does to the scaling monitor. -/
def applyScaling (monitor : Monitor F) : Effect → Monitor F
  | .registerScaling id rules =>
    match fromSpecList parseFloat rules with
    | .error _ => monitor
    | .ok rules => monitor.register id rules
  | .unregisterScaling id => monitor.unregister id
  | _ => monitor

def specCall (m : Manager) (a : Manager.Action) : Option (Manager × List ManagerEvent) :=
  match a.op with
  | .create id clusterID spec =>
    let call := m.create a.now a.fault a.announceFault id clusterID spec
    some (call.manager, call.events)
  | .update id spec =>
    let call := m.update a.now a.fault id spec
    some (call.manager, call.events)
  | .receive c =>
    let call := m.receive a.now a.fault c
    some (call.manager, call.events)
  | .delete id =>
    let call := m.delete a.now a.fault id
    some (call.manager, call.events)
  | _ => none

structure ScalingNode (F : Type) where
  manager : Manager
  monitor : Monitor F

def afterEvents (announcers : Announcers) (monitor : Monitor F) (events : List ManagerEvent) :
    Monitor F :=
  (events.flatMap (onManagerEvent announcers)).foldl (applyScaling parseFloat) monitor

def ScalingNode.step (announcers : Announcers) (s : ScalingNode F) (a : Manager.Action) :
    Option (ScalingNode F) :=
  (specCall s.manager a).map fun (m, events) =>
    ⟨m, afterEvents parseFloat announcers s.monitor events⟩

structure Fits (stored : Option Capsule) (entry : Option (List (Rule F))) : Prop where
  listed : entry.isSome = true ↔ ∃ c ∈ stored, c.spec.scalingRules ≠ []
  parsed : ∀ rules ∈ entry, ∀ c ∈ stored, fromSpecList parseFloat c.spec.scalingRules = .ok rules

def ScalingNode.Follows (s : ScalingNode F) : Prop :=
  ∀ id, Fits parseFloat (s.manager.get id) (s.monitor.capsules id)

def KeepsRules (m : Manager) (a : Manager.Action) : Prop :=
  match a.op with
  | .create id clusterID spec =>
    (clusterID = "" ∨ validateSpec (defaultSpec spec) ≠ [] ∨ m.StoreRefuses a.fault id) ∨
      (defaultSpec spec).scalingRules = []
  | .update id spec =>
    validateSpec (defaultSpec spec) ≠ [] ∨ ∀ c ∈ m.get id,
      fromSpecList parseFloat (defaultSpec spec).scalingRules
        = fromSpecList parseFloat c.spec.scalingRules
  | .receive c =>
    (a.fault ≠ none ∧ m.store.db ≠ none) ∨
      (m.get c.id = none ∧ ∃ table ∈ m.store.db, c.id ∈ table) ∨
      if c.spec.scalingRules = [] then ∀ old ∈ m.get c.id, old.spec.scalingRules = []
      else ∃ rules, fromSpecList parseFloat c.spec.scalingRules = .ok rules
  | _ => True

section Laws

variable {parseFloat} {announcers : Announcers} {s s' : ScalingNode F} {m : Manager}
  {monitor : Monitor F} {a : Manager.Action} {entry : Option (List (Rule F))} {c : Capsule}
  {m' : Manager} {id : CapsuleID} {spec : CapsuleSpec} {now : Int}
  {fault announceFault : Option String}

theorem fits_none : Fits parseFloat none entry ↔ entry = none := by
  constructor
  · intro fits
    simpa using fits.listed
  · rintro rfl
    exact ⟨by simp, by simp⟩

theorem fits_some :
    Fits parseFloat (some c) entry ↔
      fromSpecList parseFloat c.spec.scalingRules = .ok (entry.getD []) ∧ entry ≠ some [] := by
  by_cases empty : c.spec.scalingRules = []
  · have nothing : fromSpecList parseFloat c.spec.scalingRules = .ok [] :=
      fromSpecList_eq_nil.mpr empty
    constructor
    · intro fits
      obtain rfl : entry = none := by simpa [empty] using fits.listed
      exact ⟨nothing, by simp⟩
    · rintro ⟨parsed, some_rule⟩
      rw [nothing, Except.ok.injEq] at parsed
      obtain rfl : entry = none := by
        cases entry with
        | none => rfl
        | some rules => exact absurd (congrArg some parsed.symm) some_rule
      exact ⟨by simp [empty], by simp⟩
  · constructor
    · intro fits
      obtain ⟨rules, rfl⟩ := Option.isSome_iff_exists.mp (fits.listed.mpr ⟨c, rfl, empty⟩)
      have parsed := fits.parsed rules rfl c rfl
      refine ⟨parsed, ?_⟩
      rintro ⟨rfl⟩
      exact empty (fromSpecList_eq_nil.mp parsed)
    · rintro ⟨parsed, -⟩
      cases entry with
      | none => exact absurd (fromSpecList_eq_nil.mp parsed) empty
      | some rules =>
        refine ⟨by simp [empty], ?_⟩
        intro rules' there c' here
        cases there
        cases here
        exact parsed

theorem fits_congr {c' : Capsule} (fits : Fits parseFloat (some c) entry) :
    Fits parseFloat (some c') entry ↔ fromSpecList parseFloat c'.spec.scalingRules
      = fromSpecList parseFloat c.spec.scalingRules := by
  obtain ⟨parsed, some_rule⟩ := fits_some.mp fits
  rw [fits_some, parsed, and_iff_left some_rule]

theorem foldl_applyScaling_of_other {effects : List Effect}
    (other : ∀ effect ∈ effects, ∀ monitor, applyScaling parseFloat monitor effect = monitor) :
    effects.foldl (applyScaling parseFloat) monitor = monitor := by
  induction effects with
  | nil => rfl
  | cons effect rest ih =>
    rw [List.foldl_cons, other effect List.mem_cons_self]
    exact ih fun e there => other e (List.mem_cons_of_mem _ there)

theorem foldl_announceCapsule (c : Capsule) :
    (announceCapsule announcers c).foldl (applyScaling parseFloat) monitor = monitor := by
  unfold announceCapsule
  split <;> rfl

theorem foldl_requestInitialElections (c : Capsule) :
    (requestInitialElections c).foldl (applyScaling parseFloat) monitor = monitor := by
  apply foldl_applyScaling_of_other
  intro effect there monitor
  obtain ⟨i, -, rfl⟩ := List.mem_map.mp there
  rfl

theorem foldl_withdrawCapsule (c : Capsule) (reason : String) :
    (withdrawCapsule announcers c reason).foldl (applyScaling parseFloat) monitor = monitor := by
  unfold withdrawCapsule
  split <;> rfl

theorem afterEvents_append (events more : List ManagerEvent) :
    afterEvents parseFloat announcers monitor (events ++ more)
      = afterEvents parseFloat announcers (afterEvents parseFloat announcers monitor events)
          more := by
  simp only [afterEvents, List.flatMap_append, List.foldl_append]

theorem afterEvents_quiet {events : List ManagerEvent}
    (quiet : ∀ event ∈ events, event.type ≠ .received ∧ event.type ≠ .deleted) :
    afterEvents parseFloat announcers monitor events = monitor := by
  induction events with
  | nil => rfl
  | cons event rest ih =>
    have here := quiet event List.mem_cons_self
    rw [← List.singleton_append, afterEvents_append]
    have alone : afterEvents parseFloat announcers monitor [event] = monitor := by
      simp only [afterEvents, List.flatMap_cons, List.flatMap_nil, List.append_nil, onManagerEvent]
      split
      · simp only [List.foldl_append, foldl_announceCapsule, foldl_requestInitialElections]
        rfl
      · simp only [List.foldl_append, foldl_announceCapsule]
        rfl
      · rename_i received
        exact absurd received here.1
      · rename_i deleted
        exact absurd deleted here.2
      · rfl
    rw [alone]
    exact ih fun e there => quiet e (List.mem_cons_of_mem _ there)

theorem afterEvents_received (id : CapsuleID) (c : Capsule) (now : Int) :
    afterEvents parseFloat announcers monitor [⟨.received, id, c, now⟩]
      = (registerScaling c).foldl (applyScaling parseFloat) monitor := by
  simp only [afterEvents, List.flatMap_cons, List.flatMap_nil, List.append_nil, onManagerEvent,
    List.foldl_append, foldl_requestInitialElections]
  rfl

theorem afterEvents_deleted (id : CapsuleID) (c : Capsule) (now : Int) :
    afterEvents parseFloat announcers monitor [⟨.deleted, id, c, now⟩]
      = monitor.unregister id := by
  simp only [afterEvents, List.flatMap_cons, List.flatMap_nil, List.append_nil, onManagerEvent,
    List.foldl_append, foldl_withdrawCapsule]
  rfl

theorem fire_quiet (m : Manager) (now : Int) (fault : Option String) (id : CapsuleID)
    (trigger : Trigger) :
    ∀ event ∈ (m.fire now fault id trigger).events,
      event.type ≠ .received ∧ event.type ≠ .deleted := by
  have status (c : CapsuleStatus) :
      statusEventType c ≠ .received ∧ statusEventType c ≠ .deleted := by
    unfold statusEventType
    split <;> simp
  intro event there
  unfold Manager.fire at there
  split at there
  · cases there
  · split at there
    · cases there
    · unfold Manager.onLifecycleTransition at there
      split at there
      · cases there
      · simp only at there
        split at there
        · cases there
        · cases List.mem_singleton.mp there
          exact status _

theorem follows_iff_of_changed {monitor' : Monitor F} {new : Option Capsule}
    (follows : s.Follows parseFloat)
    (gets : ∀ other, m'.get other = if other = id then new else s.manager.get other)
    (entries : ∀ other, other ≠ id → monitor'.capsules other = s.monitor.capsules other) :
    (ScalingNode.mk m' monitor').Follows parseFloat ↔
      Fits parseFloat new (monitor'.capsules id) := by
  -- All other capsules and entries are as before.
  constructor
  · intro after
    have own := after id
    rwa [gets, if_pos rfl] at own
  · intro fits other
    rw [gets]
    split
    · rename_i here
      rw [here]
      exact fits
    · rename_i different
      rw [entries other different]
      exact follows other

theorem update_quiet (m : Manager) (now : Int) (fault : Option String) (id : CapsuleID)
    (spec : CapsuleSpec) :
    ∀ event ∈ (m.update now fault id spec).events,
      event.type ≠ .received ∧ event.type ≠ .deleted := by
  -- Only an update that is written has an event.
  intro event there
  unfold Manager.update at there
  simp only at there
  split at there
  · cases there
  · split at there
    · cases there
    · split at there
      · cases there
      · cases List.mem_singleton.mp there
        simp

theorem follows_create_iff (follows : s.Follows parseFloat) {clusterID : String}
    (stepped : s.step parseFloat announcers ⟨now, fault, announceFault,
      .create id clusterID spec⟩ = some s') :
    s'.Follows parseFloat ↔
      KeepsRules parseFloat s.manager ⟨now, fault, announceFault, .create id clusterID spec⟩ := by
  cases stepped
  simp only [KeepsRules]
  rcases s.manager.createStored_cases now fault id clusterID spec with
    ⟨reason, err, refused⟩ | ⟨fine, stored⟩
  · refine iff_of_true ?_ (.inl reason)
    simp only [Manager.create, refused, Manager.refuse]
    exact follows
  · rw [or_iff_right fine]
    have absent : s.monitor.capsules id = none := by
      have before := follows id
      rwa [stored.unknown, fits_none] at before
    obtain ⟨c, same, gets⟩ := Manager.create_stored announceFault stored
    have quiet : afterEvents parseFloat announcers s.monitor
        (s.manager.create now fault announceFault id clusterID spec).events = s.monitor := by
      simp only [Manager.create, stored.result, Manager.announce, stored.events]
      apply afterEvents_quiet
      intro event there
      rcases List.mem_append.mp there with first | later
      · cases List.mem_singleton.mp first
        simp
      · exact fire_quiet _ _ _ _ _ event later
    simp only [quiet]
    rw [follows_iff_of_changed follows gets fun _ _ => rfl, absent, fits_some, same]
    simp [fromSpecList_eq_nil]

theorem follows_update_iff (follows : s.Follows parseFloat)
    (stepped : s.step parseFloat announcers ⟨now, fault, announceFault, .update id spec⟩
      = some s') :
    s'.Follows parseFloat ↔
      KeepsRules parseFloat s.manager ⟨now, fault, announceFault, .update id spec⟩ := by
  cases stepped
  simp only [KeepsRules]
  -- The monitor is not told about an update.
  rw [afterEvents_quiet (update_quiet s.manager now fault id spec)]
  by_cases accepted : validateSpec (defaultSpec spec) = []
  · rw [follows_iff_of_changed follows (Manager.update_accepted now fault accepted id).2
      fun _ _ => rfl]
    have before := follows id
    cases found : s.manager.get id with
    | none =>
      rw [found] at before
      exact iff_of_true before (.inr (by simp))
    | some c =>
      rw [found] at before
      rw [Option.map_some, fits_congr before]
      simp [accepted]
  · refine iff_of_true ?_ (.inl accepted)
    simp only [Manager.update, ne_eq, accepted, not_false_eq_true, if_true]
    exact follows

theorem follows_received_iff (now : Int) (follows : s.Follows parseFloat)
    (gets : ∀ other, m'.get other = if other = c.id then some c else s.manager.get other) :
    (ScalingNode.mk m' (afterEvents parseFloat announcers s.monitor
        [⟨.received, c.id, c, now⟩])).Follows parseFloat ↔
      if c.spec.scalingRules = [] then ∀ old ∈ s.manager.get c.id, old.spec.scalingRules = []
      else ∃ rules, fromSpecList parseFloat c.spec.scalingRules = .ok rules := by
  rw [afterEvents_received]
  have before := follows c.id
  by_cases empty : c.spec.scalingRules = []
  · have silent : registerScaling c = [] := by simp [registerScaling, empty]
    rw [silent, List.foldl_nil, follows_iff_of_changed follows gets fun _ _ => rfl]
    cases found : s.manager.get c.id with
    | none =>
      rw [found, fits_none] at before
      rw [before, fits_some, empty]
      exact iff_of_true ⟨rfl, by simp⟩ (by simp)
    | some old =>
      rw [found] at before
      rw [fits_congr before, empty, eq_comm, fromSpecList_eq_nil.mpr rfl, fromSpecList_eq_nil]
      simp
  · rw [if_neg empty]
    have handed : registerScaling c = [.registerScaling c.id c.spec.scalingRules] := by
      simp [registerScaling, empty]
    rw [handed, List.foldl_cons, List.foldl_nil, applyScaling]
    cases parsed : fromSpecList parseFloat c.spec.scalingRules with
    | error err =>
      -- Rules that do not parse fit no entry.
      rw [follows_iff_of_changed follows gets fun _ _ => rfl, fits_some, parsed]
      simp
    | ok rules =>
      refine iff_of_true ?_ ⟨rules, rfl⟩
      rw [follows_iff_of_changed follows gets, fits_some, parsed]
      · simp only [Monitor.register, Function.update_self, Option.getD_some, true_and]
        rintro ⟨rfl⟩
        exact empty (fromSpecList_eq_nil.mp parsed)
      · intro other different
        simp [Monitor.register, different]

theorem follows_receive_iff (follows : s.Follows parseFloat)
    (stepped : s.step parseFloat announcers ⟨now, fault, announceFault, .receive c⟩ = some s') :
    s'.Follows parseFloat ↔
      KeepsRules parseFloat s.manager ⟨now, fault, announceFault, .receive c⟩ := by
  cases stepped
  simp only [KeepsRules]
  cases found : s.manager.get c.id with
  | none =>
    rcases Store.create_absent_cases now fault found with
      ⟨refused, err, failed⟩ | ⟨accepted, store, created⟩
    · refine iff_of_true ?_ (refused.imp_right fun taken => .inl ⟨rfl, taken⟩)
      simp only [Manager.receive, found, failed]
      exact follows
    · rw [not_or] at accepted
      rw [or_iff_right accepted.1, and_iff_right rfl, or_iff_right accepted.2]
      have gets := Manager.receive_stores found created
      simp only [Manager.receive, found, created] at gets ⊢
      rw [← found]
      exact follows_received_iff (c := { c with createdAt := now, updatedAt := now }) now follows
        gets
  | some old =>
    have known : (s.manager.get c.id).isSome = true := Option.isSome_of_eq_some found
    rcases Store.update_present_cases now fault known with
      ⟨refused, err, failed⟩ | ⟨accepted, store, updated⟩
    · refine iff_of_true ?_ (.inl refused)
      simp only [Manager.receive, found, failed]
      exact follows
    · rw [or_iff_right accepted, or_iff_right (by simp)]
      have gets := Manager.receive_replaces known updated
      simp only [Manager.receive, found, updated] at gets ⊢
      rw [← found]
      exact follows_received_iff (c := { c with updatedAt := now }) now follows gets

theorem follows_delete (follows : s.Follows parseFloat)
    (stepped : s.step parseFloat announcers ⟨now, fault, announceFault, .delete id⟩ = some s') :
    s'.Follows parseFloat := by
  cases stepped
  rcases s.manager.delete_spec now fault id with ⟨err, refused⟩ | ⟨c, store, found, deleted, done⟩
  · simp only [refused, Manager.refuse]
    exact follows
  · -- Capsule and entry are removed under the same ID.
    have named := Store.id_of_get found
    have gets := Manager.delete_removes now found deleted
    simp only [done, afterEvents_deleted] at gets ⊢
    rw [follows_iff_of_changed follows gets, fits_none, Monitor.unregister, named]
    · simp
    · intro other different
      simp [Monitor.unregister, named, different]

theorem follows_step_iff (follows : s.Follows parseFloat)
    (stepped : s.step parseFloat announcers a = some s') :
    s'.Follows parseFloat ↔ KeepsRules parseFloat s.manager a := by
  obtain ⟨now, fault, announceFault, op⟩ := a
  cases op with
  | create => exact follows_create_iff follows stepped
  | update => exact follows_update_iff follows stepped
  | receive => exact follows_receive_iff follows stepped
  | delete => exact iff_of_true (follows_delete follows stepped) trivial
  | fire | syncStatus | assignReplica | restart => cases stepped

end Laws

def ScalingNode.new (store : Store) : ScalingNode F := ⟨.new store, .new⟩

def busyRule (condition : String) : ScalingRule := ⟨"busy", .all, [condition], .scaleUp, 0⟩

def ruledSpec (condition : String) : CapsuleSpec :=
  { bareSpec ⟨0, 0, 0⟩ with scalingRules := [busyRule condition] }

def granted (op : Manager.Op) : Manager.Action := ⟨0, none, none, op⟩

theorem follows_new (parseFloat : String → Option F) :
    (ScalingNode.new (.openStore ∅)).Follows parseFloat :=
  fun _ => fits_none.mpr rfl

def ruledCapsule : Capsule := Manager.freshCapsule 0 "web" "cluster" (ruledSpec "cpu > 70%")

def idle : ScalingNode Int := .new (.openStore ∅)

end Falak.Node
