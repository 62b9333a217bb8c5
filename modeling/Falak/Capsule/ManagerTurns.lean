import Falak.Capsule.ManagerLaws

/-! What a call does to one capsule and its machine, as a list of cases. -/

namespace Falak.Capsule.Manager

variable {m m' : Manager} {a : Action} {id : CapsuleID}

inductive Turn (m : Manager) (a : Action) (id : CapsuleID) :
    Option Capsule → Option CapsuleStatus → Prop
  /-- The call is about another capsule, or it is refused. -/
  | same : Turn m a id (m.get id) (m.state id)
  | created {clusterID : String} {spec : CapsuleSpec} (op : a.op = .create id clusterID spec)
      (named : clusterID ≠ "") (accepted : validateSpec (defaultSpec spec) = [])
      (unknown : m.get id = none) :
      Turn m a id
        (some ((freshCapsule a.now id clusterID (defaultSpec spec)).moveTo .announced a.now))
        (some .announced)
  | updated {spec : CapsuleSpec} {c : Capsule} (op : a.op = .update id spec)
      (found : m.get id = some c) :
      Turn m a id (some { c with spec := defaultSpec spec, updatedAt := a.now }) (m.state id)
  | replaced {c : Capsule} (op : a.op = .receive c) (named : c.id = id)
      (known : (m.get id).isSome = true) :
      Turn m a id (some { c with updatedAt := a.now }) (m.state id)
  | stored {c : Capsule} (op : a.op = .receive c) (named : c.id = id) (unknown : m.get id = none) :
      Turn m a id (some { c with createdAt := a.now, updatedAt := a.now })
        (some (Lifecycle.new (if c.status.valid then c.status else .announced)).state)
  | moved {trigger : Trigger} {source target : CapsuleStatus} (op : a.op = .fire id trigger)
      (here : m.state id = some source) (permitted : permit source trigger = some target) :
      Turn m a id ((m.get id).map (Capsule.moveTo · target a.now)) (some target)
  | synced {status : CapsuleStatus} {c : Capsule} (op : a.op = .syncStatus id status)
      (valid : status.valid = true) (found : m.get id = some c) :
      Turn m a id (some (c.moveTo status a.now)) (some status)
  | unsynced {status : CapsuleStatus} {c : Capsule} (op : a.op = .syncStatus id status)
      (found : m.get id = some c) (failed : a.fault ≠ none) :
      Turn m a id (some (c.moveTo status a.now)) (m.state id)
  | assigned {replicaID nodeID : String} {c : Capsule}
      (op : a.op = .assignReplica id replicaID nodeID) (found : m.get id = some c) :
      Turn m a id
        (some { c with
          replicas := Capsule.assignReplica replicaID nodeID a.now c.replicas
          updatedAt := a.now })
        (m.state id)
  | deleted (op : a.op = .delete id) : Turn m a id none none
  | restarted (op : a.op = .restart) : Turn m a id (m.restart.get id) (m.restart.state id)

variable {changed : CapsuleID} {c : Option Capsule}

theorem Turn.of_ite {s : Option CapsuleStatus} (own : id = changed → Turn m a id c s) :
    Turn m a id (if id = changed then c else m.get id)
      (if id = changed then s else m.state id) := by
  split
  · rename_i here
    exact own here
  · exact .same

theorem Turn.of_ite_get (own : id = changed → Turn m a id c (m.state id)) :
    Turn m a id (if id = changed then c else m.get id) (m.state id) := by
  have turn := Turn.of_ite own
  rwa [ite_self] at turn

theorem create_turn (m : Manager) (now : Int) (fault announceFault : Option String)
    (created : CapsuleID) (clusterID : String) (spec : CapsuleSpec) (id : CapsuleID) :
    Turn m ⟨now, fault, announceFault, .create created clusterID spec⟩ id
      ((m.create now fault announceFault created clusterID spec).manager.get id)
      ((m.create now fault announceFault created clusterID spec).manager.state id) := by
  rcases m.createStored_spec now fault created clusterID spec with ⟨err, refused⟩ | stored
  · simp only [create, refused, refuse]
    exact .same
  · simp only [create, stored.result, announce]
    cases fire_spec (m.createStored now fault created clusterID spec).manager now announceFault
      created .announce with
    | refused forbidden =>
      have impossible := forbidden .created (by simp [stored.states])
      cases impossible
    | moved here permitted _ gets states =>
      simp only [stored.states, if_true] at here
      cases here
      cases permitted
      simp only [gets, states, stored.gets, stored.states]
      split
      · rename_i same
        subst same
        exact .created rfl stored.named stored.accepted stored.unknown
      · exact .same

theorem receive_turn (m : Manager) (now : Int) (fault announceFault : Option String) (c : Capsule)
    (id : CapsuleID) :
    Turn m ⟨now, fault, announceFault, .receive c⟩ id ((m.receive now fault c).manager.get id)
      ((m.receive now fault c).manager.state id) := by
  have received := m.receive_spec now fault c
  generalize m.receive now fault c = call at received ⊢
  cases received with
  | refused => exact .same
  | replaced known updated =>
    obtain ⟨-, db, -, rfl⟩ := Store.update_ok updated
    simp only [get, Store.get_put, state_withStore]
    refine .of_ite_get ?_
    rintro rfl
    exact .replaced rfl rfl known
  | stored unknown created =>
    obtain ⟨-, db, -, rfl⟩ := Store.create_ok created
    rw [get_setLifecycle, state_setLifecycle, get, Store.get_put]
    refine .of_ite ?_
    rintro rfl
    exact .stored rfl rfl unknown

theorem syncStatus_turn (m : Manager) (now : Int) (fault announceFault : Option String)
    (synced : CapsuleID) (status : CapsuleStatus) (id : CapsuleID) :
    Turn m ⟨now, fault, announceFault, .syncStatus synced status⟩ id
      ((m.syncStatus now fault synced status).manager.get id)
      ((m.syncStatus now fault synced status).manager.state id) := by
  -- A refused call changes nothing.
  rcases m.syncStatus_cases now fault synced status with
    ⟨err, refused⟩ | ⟨c, found, valid, gets, machines⟩
  · rw [refused]
    exact .same
  · rw [gets]
    rcases machines with ⟨failed, same⟩ | states
    · rw [state, getLifecycle, same]
      refine .of_ite_get ?_
      rintro rfl
      exact .unsynced rfl found failed
    · rw [states]
      refine .of_ite ?_
      rintro rfl
      exact .synced rfl valid found

theorem step_turn (stepped : m.step a = some m') (id : CapsuleID) :
    Turn m a id (m'.get id) (m'.state id) := by
  obtain ⟨now, fault, announceFault, op⟩ := a
  cases stepped
  cases op with
  | create created clusterID spec =>
    exact create_turn m now fault announceFault created clusterID spec id
  | update updated spec =>
    rcases m.update_spec now fault updated spec with ⟨err, refused⟩ | ⟨c, found, machines, gets⟩
    · simp only [refused]
      exact .same
    · simp only [gets, state, getLifecycle, machines]
      refine .of_ite_get ?_
      rintro rfl
      exact .updated rfl found
  | receive c => exact receive_turn m now fault announceFault c id
  | fire fired trigger =>
    cases m.fire_spec now fault fired trigger with
    | moved here permitted _ gets states =>
      simp only [gets, states]
      refine .of_ite ?_
      rintro rfl
      exact .moved rfl here permitted
    | refused _ _ _ store states =>
      simp only [states, get, store]
      exact .same
  | syncStatus synced status => exact syncStatus_turn m now fault announceFault synced status id
  | assignReplica assigned replicaID nodeID =>
    obtain ⟨machines, gets⟩ := m.assignReplica_spec now fault assigned replicaID nodeID
    simp only [gets, state, getLifecycle, machines]
    refine .of_ite_get ?_
    rintro rfl
    cases found : m.get id with
    | none =>
      have kept : Turn m ⟨now, fault, announceFault, .assignReplica id replicaID nodeID⟩ id
        (m.get id) (m.state id) := .same
      rw [found] at kept
      exact kept
    | some c => exact .assigned rfl found
  | delete deleted =>
    rcases m.delete_spec now fault deleted with ⟨err, refused⟩ | ⟨c, store, -, gone, done⟩
    · simp only [refused]
      exact .same
    · obtain ⟨-, db, -, rfl⟩ := Store.delete_ok gone
      simp only [done, state_erase, get, Store.get_erase]
      refine .of_ite ?_
      rintro rfl
      exact .deleted rfl
  | restart => exact .restarted rfl

end Falak.Capsule.Manager
