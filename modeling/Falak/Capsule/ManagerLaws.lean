import Falak.Capsule.Manager
import Falak.Capsule.StoreLaws
import Falak.Lib.Reach

/-! What each call leaves under every ID: the cached capsule and the state of its machine. -/

set_option linter.dupNamespace false

namespace Falak.Capsule

def Capsule.moveTo (c : Capsule) (status : CapsuleStatus) (now : Int) : Capsule :=
  { c with status := status, updatedAt := now }

namespace Manager

def state (m : Manager) (id : CapsuleID) : Option CapsuleStatus :=
  (m.getLifecycle id).map Lifecycle.state

variable {m : Manager} {now : Int} {fault : Option String} {id : CapsuleID} {trigger : Trigger}
  {s status : CapsuleStatus} {spec : CapsuleSpec} {c : Capsule} {store : Store}

theorem valid_of_state (here : m.state id = some s) : s.valid = true := by
  obtain ⟨l, -, rfl⟩ := Option.map_eq_some_iff.mp here
  exact l.known

theorem status_of_state (here : m.state id = some s) : m.status id = .ok s := by
  obtain ⟨l, found, rfl⟩ := Option.map_eq_some_iff.mp here
  simp [status, found]

theorem status_eq_ok : m.status id = .ok s ↔ m.state id = some s := by
  refine ⟨fun known => ?_, status_of_state⟩
  unfold status at known
  split at known
  · cases known
  · rename_i l found
    simp only [Except.ok.injEq] at known
    simp [state, found, known]

@[simp] theorem get_setLifecycle (m : Manager) (id : CapsuleID) (l : Lifecycle)
    (other : CapsuleID) : (m.setLifecycle id l).get other = m.get other := rfl

@[simp] theorem state_withStore (m : Manager) (store : Store) (id : CapsuleID) :
    state { m with store := store } id = m.state id := rfl

@[simp] theorem state_setLifecycle (m : Manager) (id : CapsuleID) (l : Lifecycle)
    (other : CapsuleID) :
    (m.setLifecycle id l).state other = if other = id then some l.state else m.state other := by
  unfold state getLifecycle setLifecycle
  split
  · rename_i same
    subst same
    simp
  · rename_i different
    simp [different]

theorem state_new (store : Store) (id : CapsuleID) :
    (new store).state id = (store.get id).map fun c => (Lifecycle.new c.status).state := by
  have mapped : (new store).getLifecycle id
      = (store.capsules.lookup id).map fun c => Lifecycle.new c.val.status :=
    List.dlookup_map₂ (f := fun id (c : { c : Capsule // c.id = id }) =>
      Lifecycle.new c.val.status) id
  simp only [state, mapped, Store.get, Option.map_map]
  rfl

inductive Fired (m : Manager) (now : Int) (id : CapsuleID) (trigger : Trigger) (call : Call Unit) :
    Prop
  | moved {source target : CapsuleStatus} (here : m.state id = some source)
      (permitted : permit source trigger = some target) (result : call.result = .ok ())
      (gets : ∀ other, call.manager.get other
        = if other = id then (m.get id).map (Capsule.moveTo · target now) else m.get other)
      (states : ∀ other, call.manager.state other
        = if other = id then some target else m.state other)
  | refused (forbidden : ∀ source, m.state id = some source → permit source trigger = none)
      (err : String) (result : call.result = .error err) (store : call.manager.store = m.store)
      (states : ∀ other, call.manager.state other = m.state other)

theorem get_unchanged (found : m.get id = none) (other : CapsuleID) :
    m.get other = if other = id then none else m.get other := by
  split
  · rename_i same
    rw [same, found]
  · rfl

variable (fault) in
theorem get_changed {m' : Manager} {c changed : Capsule} (found : m.get id = some c)
    (same : changed.id = c.id) (stamped : changed.updatedAt = now)
    (stored : m'.store = m.store.put changed ∨
      (m.store.put changed).update now fault changed = .ok m'.store) (other : CapsuleID) :
    m'.get other = if other = id then some changed else m.get other := by
  have named := Store.id_of_get found
  rw [← named, ← same]
  rcases stored with put | updated
  · rw [get, put, Store.get_put]
    rfl
  · -- Writing the capsule does not change it again.
    rw [get, Store.get_rewrite stamped updated]
    rfl

theorem onLifecycleTransition_spec (m : Manager) (now : Int) (fault : Option String)
    (event : LifecycleEvent) :
    (m.onLifecycleTransition now fault event).1.lifecycles = m.lifecycles ∧
      ∀ other, (m.onLifecycleTransition now fault event).1.get other
        = if other = event.capsuleID then
            (m.get event.capsuleID).map (Capsule.moveTo · event.target now)
          else m.get other := by
  cases found : m.get event.capsuleID with
  | none =>
    simp only [onLifecycleTransition, found, Option.map_none, true_and]
    exact get_unchanged found
  | some c =>
    simp only [onLifecycleTransition, found, Option.map_some]
    split
    · exact ⟨rfl, get_changed fault found rfl rfl (.inl rfl)⟩
    · rename_i store updated
      exact ⟨rfl, get_changed fault found rfl rfl (.inr updated)⟩

theorem fire_spec (m : Manager) (now : Int) (fault : Option String) (id : CapsuleID)
    (trigger : Trigger) : Fired m now id trigger (m.fire now fault id trigger) := by
  cases found : m.getLifecycle id with
  | none =>
    refine .refused (by simp [state, found]) (notFound id) ?_ ?_ ?_ <;>
      simp [fire, found, refuse]
  | some l =>
    have here : m.state id = some l.state := by simp [state, found]
    cases permitted : permit l.state trigger with
    | none =>
      obtain ⟨still, err, refused⟩ := Lifecycle.fire_of_forbidden id permitted
      have outcome : l.fire id trigger = (l.note trigger, .error err) := Prod.ext still refused
      refine .refused (fun source same => ?_) ("capsule " ++ id ++ ": " ++ err) ?_ ?_ ?_
      · rw [here, Option.some.injEq] at same
        rw [← same, permitted]
      · simp [fire, found, outcome, refuse]
      · simp [fire, found, outcome, refuse, setLifecycle]
      · intro other
        simp only [fire, found, outcome, refuse, state_setLifecycle, Lifecycle.note_state]
        split
        · rename_i same
          rw [same, here]
        · rfl
    | some target =>
      obtain ⟨moved, reported⟩ := Lifecycle.fire_of_permit id permitted
      have outcome : l.fire id trigger
          = ((l.fire id trigger).1, .ok ⟨id, l.state, target, trigger⟩) := Prod.ext rfl reported
      obtain ⟨machines, gets⟩ := onLifecycleTransition_spec
        (m.setLifecycle id (l.fire id trigger).1) now fault ⟨id, l.state, target, trigger⟩
      have unfolded : m.fire now fault id trigger
          = ⟨((m.setLifecycle id (l.fire id trigger).1).onLifecycleTransition now fault
              ⟨id, l.state, target, trigger⟩).1,
            ((m.setLifecycle id (l.fire id trigger).1).onLifecycleTransition now fault
              ⟨id, l.state, target, trigger⟩).2, .ok ()⟩ := by
        rw [fire, found]
        simp only
        rw [outcome]
      rw [unfolded]
      refine .moved here permitted rfl gets fun other => ?_
      rw [state, getLifecycle, machines]
      have := state_setLifecycle m id (l.fire id trigger).1 other
      rw [state, getLifecycle, moved] at this
      exact this

/-- What `Create` has done when it emits its first event. -/
structure Stored (m : Manager) (now : Int) (fault : Option String) (id : CapsuleID)
    (clusterID : String) (spec : CapsuleSpec) (call : Call Capsule) : Prop where
  named : clusterID ≠ ""
  accepted : validateSpec (defaultSpec spec) = []
  unknown : m.get id = none
  written : m.store.create now fault (freshCapsule now id clusterID (defaultSpec spec))
    = .ok call.manager.store
  events : call.events = [⟨.created, id, freshCapsule now id clusterID (defaultSpec spec), now⟩]
  result : call.result = .ok (freshCapsule now id clusterID (defaultSpec spec))
  gets : ∀ other, call.manager.get other
    = if other = id then some (freshCapsule now id clusterID (defaultSpec spec)) else m.get other
  states : ∀ other, call.manager.state other
    = if other = id then some .created else m.state other

theorem createStored_spec (m : Manager) (now : Int) (fault : Option String) (id : CapsuleID)
    (clusterID : String) (spec : CapsuleSpec) :
    (∃ err, m.createStored now fault id clusterID spec = m.refuse err) ∨
      Stored m now fault id clusterID spec (m.createStored now fault id clusterID spec) := by
  unfold createStored
  split
  · exact .inl ⟨_, rfl⟩
  · rename_i named
    by_cases accepted : validateSpec (defaultSpec spec) = []
    · simp only [accepted, ne_eq, not_true_eq_false, if_false]
      generalize fresh : freshCapsule now id clusterID (defaultSpec spec) = c
      cases created : m.store.create now fault c with
      | error err => exact .inl ⟨_, rfl⟩
      | ok store =>
        subst fresh
        obtain ⟨unknown, db, -, rfl⟩ := Store.create_ok created
        refine .inr ⟨named, accepted, unknown, created, rfl, rfl, fun other => ?_, fun other => ?_⟩
        · exact Store.get_put _ _ other
        · exact state_setLifecycle _ id _ other
    · simp only [accepted, ne_eq, not_false_eq_true, if_true]
      exact .inl ⟨_, rfl⟩

def StoreRefuses (m : Manager) (fault : Option String) (id : CapsuleID) : Prop :=
  (m.get id).isSome = true ∨
    (fault ≠ none ∧ m.store.db ≠ none ∨ ∃ table ∈ m.store.db, id ∈ table)

theorem createStored_cases (m : Manager) (now : Int) (fault : Option String) (id : CapsuleID)
    (clusterID : String) (spec : CapsuleSpec) :
    (clusterID = "" ∨ validateSpec (defaultSpec spec) ≠ [] ∨ m.StoreRefuses fault id) ∧
        (∃ err, m.createStored now fault id clusterID spec = m.refuse err) ∨
      ¬ (clusterID = "" ∨ validateSpec (defaultSpec spec) ≠ [] ∨ m.StoreRefuses fault id) ∧
        Stored m now fault id clusterID spec (m.createStored now fault id clusterID spec) := by
  rcases m.createStored_spec now fault id clusterID spec with ⟨err, refused⟩ | stored
  · refine .inl ⟨?_, err, refused⟩
    by_contra fine
    simp only [StoreRefuses, not_or, not_not, Bool.not_eq_true, Option.isSome_eq_false_iff,
      Option.isNone_iff_eq_none] at fine
    obtain ⟨named, accepted, absent, free⟩ := fine
    obtain ⟨taken, -⟩ | ⟨-, store, created⟩ := Store.create_absent_cases now fault
      (s := m.store) (c := freshCapsule now id clusterID (defaultSpec spec)) absent
    · exact taken.elim free.1 free.2
    · have failed := congrArg Call.result refused
      simp [createStored, named, accepted, created, refuse] at failed
  · refine .inr ⟨?_, stored⟩
    rintro (unnamed | invalid | taken | rejected)
    · exact stored.named unnamed
    · exact invalid stored.accepted
    · rw [stored.unknown] at taken
      cases taken
    · obtain ⟨-, err, failed⟩ | ⟨free, -⟩ := Store.create_absent_cases now fault
        (s := m.store) (c := freshCapsule now id clusterID (defaultSpec spec)) stored.unknown
      · rw [stored.written] at failed
        cases failed
      · exact free rejected

theorem create_stored {clusterID : String} (announceFault : Option String)
    (stored : Stored m now fault id clusterID spec (m.createStored now fault id clusterID spec)) :
    ∃ c, c.spec = defaultSpec spec ∧
      ∀ other, (m.create now fault announceFault id clusterID spec).manager.get other
        = if other = id then some c else m.get other := by
  simp only [create, stored.result, announce]
  cases fire_spec (m.createStored now fault id clusterID spec).manager now announceFault id
      .announce with
  | @moved _ target _ _ _ gets _ =>
    refine ⟨(freshCapsule now id clusterID (defaultSpec spec)).moveTo target now, rfl, ?_⟩
    intro other
    rw [gets, stored.gets, stored.gets, if_pos rfl]
    split <;> rfl
  | refused _ _ _ store _ =>
    refine ⟨freshCapsule now id clusterID (defaultSpec spec), rfl, ?_⟩
    intro other
    rw [get, store]
    exact stored.gets other

theorem update_accepted (now : Int) (fault : Option String)
    (accepted : validateSpec (defaultSpec spec) = []) (id : CapsuleID) :
    (m.update now fault id spec).manager.lifecycles = m.lifecycles ∧
      ∀ other, (m.update now fault id spec).manager.get other
        = if other = id then
            (m.get id).map fun c => { c with spec := defaultSpec spec, updatedAt := now }
          else m.get other := by
  cases found : m.get id with
  | none =>
    simp only [update, accepted, ne_eq, not_true_eq_false, if_false, found, refuse,
      Option.map_none, true_and]
    exact get_unchanged found
  | some c =>
    simp only [update, accepted, ne_eq, not_true_eq_false, if_false, found, Option.map_some]
    split
    · exact ⟨rfl, get_changed fault found rfl rfl (.inl rfl)⟩
    · rename_i store updated
      exact ⟨rfl, get_changed fault found rfl rfl (.inr updated)⟩

theorem update_spec (m : Manager) (now : Int) (fault : Option String) (id : CapsuleID)
    (spec : CapsuleSpec) :
    (∃ err, m.update now fault id spec = m.refuse err) ∨
      ∃ c, m.get id = some c ∧
        (m.update now fault id spec).manager.lifecycles = m.lifecycles ∧
        ∀ other, (m.update now fault id spec).manager.get other
          = if other = id then some { c with spec := defaultSpec spec, updatedAt := now }
            else m.get other := by
  by_cases accepted : validateSpec (defaultSpec spec) = []
  · obtain ⟨machines, gets⟩ := m.update_accepted now fault accepted id
    cases found : m.get id with
    | none =>
      refine .inl ⟨notFound id, ?_⟩
      simp [update, accepted, found]
    | some c =>
      rw [found] at gets
      exact .inr ⟨c, rfl, machines, gets⟩
  · refine .inl ⟨"invalid capsule spec: " ++ joinErrors (validateSpec (defaultSpec spec)), ?_⟩
    simp only [update, accepted, ne_eq, not_false_eq_true, if_true]

theorem delete_spec (m : Manager) (now : Int) (fault : Option String) (id : CapsuleID) :
    (∃ err, m.delete now fault id = m.refuse err) ∨
      ∃ c store, m.get id = some c ∧ m.store.delete fault id = .ok store ∧
        m.delete now fault id
          = ⟨⟨store, m.lifecycles.erase id⟩, [⟨.deleted, c.id, c, now⟩], .ok ()⟩ := by
  unfold delete
  cases found : m.get id with
  | none => exact .inl ⟨_, rfl⟩
  | some c =>
    cases deleted : m.store.delete fault id with
    | error err => exact .inl ⟨_, rfl⟩
    | ok store => exact .inr ⟨c, store, rfl, rfl, rfl⟩

theorem state_erase (store : Store) (m : Manager) (id other : CapsuleID) :
    state ⟨store, m.lifecycles.erase id⟩ other = if other = id then none else m.state other := by
  unfold state getLifecycle
  split
  · rename_i same
    subst same
    simp
  · rename_i different
    simp [different]

inductive Received (m : Manager) (now : Int) (fault : Option String) (c : Capsule) :
    Call Unit → Prop
  | refused (err : String) : Received m now fault c (m.refuse err)
  | replaced {store : Store} (known : (m.get c.id).isSome = true)
      (updated : m.store.update now fault c = .ok store) :
      Received m now fault c
        ⟨{ m with store := store }, [⟨.received, c.id, { c with updatedAt := now }, now⟩], .ok ()⟩
  | stored {store : Store} (unknown : m.get c.id = none)
      (created : m.store.create now fault c = .ok store) :
      Received m now fault c
        ⟨{ m with store := store }.setLifecycle c.id
            (.new (if c.status.valid then c.status else .announced)),
          [⟨.received, c.id, { c with createdAt := now, updatedAt := now }, now⟩], .ok ()⟩

theorem receive_spec (m : Manager) (now : Int) (fault : Option String) (c : Capsule) :
    Received m now fault c (m.receive now fault c) := by
  unfold receive
  cases found : m.get c.id with
  | some old =>
    cases updated : m.store.update now fault c with
    | error err => exact .refused _
    | ok store => exact .replaced (by simp [found]) updated
  | none =>
    cases created : m.store.create now fault c with
    | error err => exact .refused _
    | ok store => exact .stored found created

theorem receive_replaces (known : (m.get c.id).isSome = true)
    (updated : m.store.update now fault c = .ok store) (other : CapsuleID) :
    (m.receive now fault c).manager.get other
      = if other = c.id then some { c with updatedAt := now } else m.get other := by
  obtain ⟨old, found⟩ := Option.isSome_iff_exists.mp known
  obtain ⟨-, db, -, rfl⟩ := Store.update_ok updated
  simp only [receive, found, updated]
  exact Store.get_put _ _ other

theorem receive_stores (unknown : m.get c.id = none)
    (created : m.store.create now fault c = .ok store) (other : CapsuleID) :
    (m.receive now fault c).manager.get other
      = if other = c.id then some { c with createdAt := now, updatedAt := now }
        else m.get other := by
  obtain ⟨-, db, -, rfl⟩ := Store.create_ok created
  simp only [receive, unknown, created]
  exact Store.get_put _ _ other

theorem receive_known (now : Int) (known : (m.get c.id).isSome = true) :
    (m.receive now none c).manager.get c.id = some { c with updatedAt := now } ∧
      (m.receive now none c).manager.state c.id = m.state c.id := by
  obtain ⟨old, found⟩ := Option.isSome_iff_exists.mp known
  obtain ⟨store, updated⟩ := Store.update_of_present now known
  refine ⟨by rw [receive_replaces known updated, if_pos rfl], ?_⟩
  simp only [receive, found, updated]
  rfl

theorem receive_unknown (now : Int) (synced : m.store.Synced) (unknown : m.get c.id = none) :
    (m.receive now none c).manager.get c.id
        = some { c with createdAt := now, updatedAt := now } ∧
      (m.receive now none c).manager.state c.id
        = some (Lifecycle.new (if c.status.valid then c.status else .announced)).state := by
  obtain ⟨store, created⟩ := synced.create_of_absent now unknown
  refine ⟨by rw [receive_stores unknown created, if_pos rfl], ?_⟩
  simp only [receive, unknown, created]
  simp

theorem delete_removes (now : Int) (found : m.get id = some c)
    (deleted : m.store.delete fault id = .ok store) (other : CapsuleID) :
    (m.delete now fault id).manager.get other = if other = id then none else m.get other := by
  obtain ⟨-, db, -, rfl⟩ := Store.delete_ok deleted
  simp only [delete, found, deleted]
  exact Store.get_erase _ _ id other

theorem assignReplica_spec (m : Manager) (now : Int) (fault : Option String) (id : CapsuleID)
    (replicaID nodeID : String) :
    (m.assignReplica now fault id replicaID nodeID).manager.lifecycles = m.lifecycles ∧
      ∀ other, (m.assignReplica now fault id replicaID nodeID).manager.get other
        = if other = id then
            (m.get id).map fun c =>
              { c with
                replicas := Capsule.assignReplica replicaID nodeID now c.replicas
                updatedAt := now }
          else m.get other := by
  cases found : m.get id with
  | none =>
    simp only [assignReplica, found, refuse, Option.map_none, true_and]
    exact get_unchanged found
  | some c =>
    simp only [assignReplica, found, Option.map_some]
    split
    · exact ⟨rfl, get_changed fault found rfl rfl (.inl rfl)⟩
    · rename_i store updated
      exact ⟨rfl, get_changed fault found rfl rfl (.inr updated)⟩

theorem syncStatus_spec (now : Int) (fault : Option String) (valid : status.valid = true)
    (found : m.get id = some c) :
    (∀ other, (m.syncStatus now fault id status).manager.get other
        = if other = id then some (c.moveTo status now) else m.get other) ∧
      (fault ≠ none ∧ (m.syncStatus now fault id status).manager.lifecycles = m.lifecycles ∨
        ∀ other, (m.syncStatus now fault id status).manager.state other
          = if other = id then some status else m.state other) := by
  have named := Store.id_of_get found
  simp only [syncStatus, valid, Bool.not_true, Bool.false_eq_true, if_false, found]
  split
  · rename_i err refused
    refine ⟨fun other => ?_, .inl ⟨?_, rfl⟩⟩
    · rw [refuse, get, Store.get_put, ← named]
      rfl
    · rintro rfl
      obtain ⟨store, written⟩ := m.store.rewrite_none now (c.moveTo status now)
      rw [Capsule.moveTo, refused] at written
      cases written
  · rename_i store updated
    refine ⟨fun other => ?_, .inr fun other => ?_⟩
    · rw [get_setLifecycle, get, Store.get_rewrite rfl updated, ← named]
      rfl
    · simp [state_setLifecycle, Lifecycle.new_state valid]

theorem syncStatus_refused (now : Int) (fault : Option String)
    (absent : status.valid = false ∨ m.get id = none) :
    ∃ err, m.syncStatus now fault id status = m.refuse err := by
  unfold syncStatus
  split
  · exact ⟨_, rfl⟩
  · rename_i valid
    rcases absent with invalid | absent
    · simp [invalid] at valid
    · rw [absent]
      exact ⟨_, rfl⟩

theorem syncStatus_cases (m : Manager) (now : Int) (fault : Option String) (id : CapsuleID)
    (status : CapsuleStatus) :
    (∃ err, m.syncStatus now fault id status = m.refuse err) ∨
      ∃ c, m.get id = some c ∧ status.valid = true ∧
        (∀ other, (m.syncStatus now fault id status).manager.get other
          = if other = id then some (c.moveTo status now) else m.get other) ∧
        (fault ≠ none ∧ (m.syncStatus now fault id status).manager.lifecycles = m.lifecycles ∨
          ∀ other, (m.syncStatus now fault id status).manager.state other
            = if other = id then some status else m.state other) := by
  by_cases absent : status.valid = false ∨ m.get id = none
  · exact .inl (syncStatus_refused now fault absent)
  · simp only [not_or, Bool.not_eq_false] at absent
    obtain ⟨valid, present⟩ := absent
    obtain ⟨c, found⟩ := Option.ne_none_iff_exists'.mp present
    exact .inr ⟨c, found, valid, syncStatus_spec now fault valid found⟩

end Manager

end Falak.Capsule
