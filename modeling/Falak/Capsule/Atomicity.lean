import Falak.Capsule.ManagerLaws

/-! What a call that returns an error leaves behind. -/

namespace Falak.Capsule.Manager

variable {m m' : Manager} {a : Action} {id : CapsuleID}

def errorOf {α : Type} : Except String α → Option String
  | .error err => some err
  | .ok _ => none

def error (m : Manager) (a : Action) : Option String :=
  match a.op with
  | .create id clusterID spec =>
    errorOf (m.create a.now a.fault a.announceFault id clusterID spec).result
  | .update id spec => errorOf (m.update a.now a.fault id spec).result
  | .receive c => errorOf (m.receive a.now a.fault c).result
  | .fire id trigger => errorOf (m.fire a.now a.fault id trigger).result
  | .syncStatus id status => errorOf (m.syncStatus a.now a.fault id status).result
  | .assignReplica id replicaID nodeID =>
    errorOf (m.assignReplica a.now a.fault id replicaID nodeID).result
  | .delete id => errorOf (m.delete a.now a.fault id).result
  | .restart => none

structure SameReads (m m' : Manager) : Prop where
  get : ∀ id, m'.get id = m.get id
  list : m'.list.Perm m.list
  status : ∀ id, m'.status id = m.status id

def inPlace (now : Int) : Op → Option (CapsuleID × (Capsule → Capsule))
  | .update id spec =>
    if validateSpec (defaultSpec spec) = [] then
      some (id, fun c => { c with spec := defaultSpec spec, updatedAt := now })
    else none
  | .syncStatus id status =>
    if status.valid then some (id, fun c => c.moveTo status now) else none
  | .assignReplica id replicaID nodeID =>
    some (id, fun c =>
      { c with
        replicas := Capsule.assignReplica replicaID nodeID now c.replicas
        updatedAt := now })
  | _ => none

def Unwritten (m : Manager) (a : Action) : Prop :=
  ∀ change ∈ inPlace a.now a.op, ∀ c ∈ m.get change.1, change.2 c = c

theorem sameReads_of_eq (gets : ∀ id, m'.get id = m.get id)
    (states : ∀ id, m'.state id = m.state id) : SameReads m m' where
  get := gets
  list := Store.list_perm gets
  status id := by
    have here := states id
    unfold Manager.status
    cases left : m'.getLifecycle id <;> cases right : m.getLifecycle id <;>
      simp_all [state]

theorem sameReads_iff_of_changed {f : Capsule → Capsule}
    (gets : ∀ other, m'.get other = if other = id then (m.get id).map f else m.get other)
    (states : ∀ other, m'.state other = m.state other) :
    SameReads m m' ↔ ∀ c ∈ m.get id, f c = c := by
  constructor
  · -- The capsule is read under its own ID.
    intro same c found
    have read := same.get id
    rw [gets, if_pos rfl, Option.mem_def.mp found, Option.map_some, Option.some.injEq] at read
    exact read
  · intro still
    refine sameReads_of_eq (fun other => ?_) states
    rw [gets]
    split
    · rename_i own
      subst own
      cases found : m.get other with
      | none => rfl
      | some c => exact congrArg some (still c found)
    · rfl

theorem sameReads_refl (m : Manager) : SameReads m m := sameReads_of_eq (fun _ => rfl) fun _ => rfl

theorem state_of_lifecycles (machines : m'.lifecycles = m.lifecycles) (id : CapsuleID) :
    m'.state id = m.state id := by
  rw [state, getLifecycle, machines]
  rfl

theorem syncStatus_error {now : Int} {fault : Option String} {status : CapsuleStatus} {err : String}
    (failed : errorOf (m.syncStatus now fault id status).result = some err) :
    (m.syncStatus now fault id status).manager.lifecycles = m.lifecycles := by
  unfold syncStatus at failed ⊢
  split
  · rfl
  · rename_i valid
    rw [if_neg valid] at failed
    cases found : m.get id with
    | none => rfl
    | some c =>
      simp only [found] at failed ⊢
      split
      · rfl
      · rename_i store written
        simp only [written, errorOf] at failed
        cases failed

theorem sameReads_of_refused {err : String} (failed : m.error a = some err)
    (stepped : m.step a = some m') (elsewhere : inPlace a.now a.op = none) : SameReads m m' := by
  obtain ⟨now, fault, announceFault, op⟩ := a
  cases stepped
  cases op with
  | create id clusterID spec =>
    rcases m.createStored_spec now fault id clusterID spec with ⟨err, refused⟩ | stored
    · simp only [create, refused, refuse]
      exact sameReads_refl m
    · simp only [error, create, stored.result, errorOf] at failed
      cases failed
  | update id spec =>
    by_cases accepted : validateSpec (defaultSpec spec) = []
    · simp [inPlace, accepted] at elsewhere
    · simp only [update, ne_eq, accepted, not_false_eq_true, if_true, refuse]
      exact sameReads_refl m
  | receive c =>
    have received := m.receive_spec now fault c
    simp only [error] at failed ⊢
    generalize m.receive now fault c = call at received failed ⊢
    cases received with
    | refused => exact sameReads_refl m
    | replaced | stored => cases failed
  | fire id trigger =>
    cases m.fire_spec now fault id trigger with
    | moved _ _ result =>
      simp only [error, result, errorOf] at failed
      cases failed
    | refused _ _ _ store states =>
      refine sameReads_of_eq (fun other => ?_) states
      simp only [Manager.get, store]
  | syncStatus id status =>
    by_cases valid : status.valid = true
    · simp [inPlace, valid] at elsewhere
    · simp only [syncStatus, valid, Bool.not_false, if_true, refuse]
      exact sameReads_refl m
  | assignReplica id replicaID nodeID => cases elsewhere
  | delete id =>
    rcases m.delete_spec now fault id with ⟨err, refused⟩ | ⟨c, store, -, -, done⟩
    · simp only [refused, refuse]
      exact sameReads_refl m
    · simp only [error, done, errorOf] at failed
      cases failed
  | restart => cases failed

/--
A call that returns an error changes nothing exactly when it changed no cached capsule in place.
-/
theorem failed_call_changes_nothing {err : String} (failed : m.error a = some err)
    (stepped : m.step a = some m') : SameReads m m' ↔ Unwritten m a := by
  cases change : inPlace a.now a.op with
  | none =>
    have vacuous : Unwritten m a := by simp [Unwritten, change]
    exact iff_of_true (sameReads_of_refused failed stepped change) vacuous
  | some change' =>
    have only : Unwritten m a ↔ ∀ c ∈ m.get change'.1, change'.2 c = c := by
      simp [Unwritten, change]
    rw [only]
    obtain ⟨now, fault, announceFault, op⟩ := a
    cases stepped
    cases op with
    | update id spec =>
      by_cases accepted : validateSpec (defaultSpec spec) = []
      · simp only [inPlace, accepted, if_true] at change
        cases change
        obtain ⟨machines, gets⟩ := m.update_accepted now fault accepted id
        exact sameReads_iff_of_changed gets (state_of_lifecycles machines)
      · simp [inPlace, accepted] at change
    | syncStatus id status =>
      by_cases valid : status.valid = true
      · simp only [inPlace, valid, if_true] at change
        cases change
        refine sameReads_iff_of_changed (fun other => ?_)
          (state_of_lifecycles (syncStatus_error failed))
        cases found : m.get id with
        | none =>
          obtain ⟨err', refused⟩ := m.syncStatus_refused now fault
            (show status.valid = false ∨ m.get id = none from .inr found)
          simp only [refused, refuse, Option.map_none]
          exact get_unchanged found other
        | some c => exact (syncStatus_spec now fault valid found).1 other
      · simp [inPlace, valid] at change
    | assignReplica id replicaID nodeID =>
      cases change
      obtain ⟨machines, gets⟩ := m.assignReplica_spec now fault id replicaID nodeID
      exact sameReads_iff_of_changed gets (state_of_lifecycles machines)
    | _ => cases change

def durable : Manager :=
  ((new (.openStore ∅)).create 0 none none "web" "cluster" (bareSpec ⟨0, 0, 0⟩)).manager

def nextSpec : CapsuleSpec := { bareSpec ⟨0, 0, 0⟩ with image := "web:2" }

/-- An update that the database rejects returns an error, and the new image is read afterwards. -/
theorem failed_update_stays :
    durable.error ⟨1, some "disk full", none, .update "web" nextSpec⟩
        = some "failed to update capsule: failed to persist capsule update: disk full" ∧
      (durable.get "web").map (·.spec.image) = some "web:1" ∧
      (durable.step ⟨1, some "disk full", none, .update "web" nextSpec⟩).map
        (fun m => (m.get "web").map (·.spec.image)) = some (some "web:2") := by
  decide +kernel

/-- A capsule that the database does not take over leaves nothing behind. -/
theorem failed_call_changes_nothing_received :
    ∃ m' err, durable.error ⟨1, some "disk full", none, .receive (freshCapsule 1 "web" "other"
        nextSpec)⟩ = some err ∧ SameReads durable m' := by
  have stepped : durable.step ⟨1, some "disk full", none, .receive (freshCapsule 1 "web" "other"
      nextSpec)⟩ = some _ := rfl
  have failed : durable.error ⟨1, some "disk full", none, .receive (freshCapsule 1 "web" "other"
      nextSpec)⟩ = some
        "failed to update received capsule: failed to persist capsule update: disk full" := by
    decide +kernel
  exact ⟨_, _, failed,
    (failed_call_changes_nothing failed stepped).mpr (by simp [Unwritten, inPlace])⟩

end Falak.Capsule.Manager
