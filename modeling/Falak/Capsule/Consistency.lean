import Falak.Capsule.ManagerTurns

/-! The three copies of a capsule's status: its machine, its cached value and its row. -/

namespace Falak.Capsule.Manager

variable {m m' : Manager} {id : CapsuleID} {a : Action}

def Tracked (m : Manager) : Prop := ∀ id, (m.state id).isSome = (m.get id).isSome

def Agreed (m : Manager) : Prop := ∀ id, (m.get id).map Capsule.status = m.state id

def Action.Succeeds (a : Action) : Prop := a.fault = none ∧ a.announceFault = none

instance (a : Action) : Decidable a.Succeeds := inferInstanceAs (Decidable (_ ∧ _))

def Faithful (m : Manager) (a : Action) : Prop :=
  match a.op with
  | .receive c =>
    match m.state c.id with
    | none => c.status.valid = true
    | some s => c.status = s
  | _ => True

instance (m : Manager) (a : Action) : Decidable (Faithful m a) := by
  unfold Faithful
  split
  · split <;> infer_instance
  · infer_instance

theorem tracked_new (store : Store) : Tracked (new store) := by
  intro id
  rw [state_new, Option.isSome_map]
  rfl

theorem agreed_new {store : Store} (valid : ∀ id c, store.get id = some c → c.status.valid = true) :
    Agreed (new store) := by
  intro id
  rw [state_new]
  refine Option.map_congr fun c found => ?_
  exact (Lifecycle.new_state (valid id c found)).symm

theorem Tracked.step (tracked : Tracked m) (stepped : m.step a = some m') : Tracked m' := by
  intro id
  have paired := tracked id
  have turn := step_turn stepped id
  generalize m'.get id = c', m'.state id = s' at turn ⊢
  cases turn with
  | same => exact paired
  | created | stored | synced | deleted => rfl
  | updated _ found | unsynced _ found | assigned _ found =>
    rw [paired, found]
    rfl
  | replaced _ _ known =>
    rw [paired, known]
    rfl
  | moved _ here =>
    rw [Option.isSome_map, ← paired, here]
    rfl
  | restarted => exact tracked_new _ id

theorem Agreed.restart (agreed : Agreed m) (synced : m.store.Synced) : Agreed m.restart := by
  refine agreed_new fun id c found => ?_
  cases db : m.store.db with
  | none =>
    rw [db] at found
    simp [Store.new, Store.get] at found
  | some table =>
    rw [db, Store.get_openStore, Option.map_eq_some_iff] at found
    obtain ⟨row, there, rfl⟩ := found
    have column := synced table db id
    rw [there, Option.map_some] at column
    exact valid_of_state ((agreed id).symm.trans column.symm)

theorem Agreed.step (agreed : Agreed m) (synced : m.store.Synced) (succeeds : a.Succeeds)
    (faithful : Faithful m a) (stepped : m.step a = some m') : Agreed m' := by
  intro id
  have before := agreed id
  have turn := step_turn stepped id
  generalize m'.get id = c', m'.state id = s' at turn ⊢
  cases turn with
  | same => exact before
  | created | synced | deleted => rfl
  | updated _ found | assigned _ found =>
    rw [found] at before
    exact before
  | @replaced c op named known =>
    subst named
    obtain ⟨old, found⟩ := Option.isSome_iff_exists.mp known
    rw [found, Option.map_some] at before
    simp only [Faithful, op, ← before] at faithful
    rw [← before, Option.map_some, faithful]
  | @stored c op named unknown =>
    subst named
    rw [unknown, Option.map_none] at before
    simp only [Faithful, op, ← before] at faithful
    simp [faithful]
  | moved _ here =>
    rw [here, Option.map_eq_some_iff] at before
    obtain ⟨c, found, -⟩ := before
    rw [found]
    rfl
  | unsynced _ _ failed => exact absurd succeeds.1 failed
  | restarted => exact agreed.restart synced id

theorem Agreed.faithful (agreed : Agreed m) (synced : m.store.Synced) (succeeds : a.Succeeds)
    (stepped : m.step a = some m') (after : Agreed m') : Faithful m a := by
  obtain ⟨now, fault, announceFault, op⟩ := a
  obtain ⟨rfl, rfl⟩ := succeeds
  cases op with
  | receive c =>
    cases stepped
    have after := after c.id
    cases here : m.state c.id with
    | none =>
      have unknown : m.get c.id = none := by
        have before := agreed c.id
        rwa [here, Option.map_eq_none_iff] at before
      obtain ⟨gets, states⟩ := receive_unknown now synced unknown
      rw [gets, states] at after
      simp only [Faithful, here]
      exact valid_of_state (m := (m.receive now none c).manager) (states.trans after.symm)
    | some s =>
      have known : (m.get c.id).isSome = true := by
        have before := agreed c.id
        rw [here, Option.map_eq_some_iff] at before
        obtain ⟨old, found, -⟩ := before
        rw [found]
        rfl
      obtain ⟨gets, states⟩ := receive_known now known
      rw [gets, states, here] at after
      simpa only [Faithful, here, Option.map_some, Option.some.injEq] using after
  | _ => trivial

theorem synced_fire (synced : m.store.Synced) (now : Int) (id : CapsuleID) (trigger : Trigger) :
    (m.fire now none id trigger).manager.store.Synced := by
  cases found : m.getLifecycle id with
  | none =>
    simp only [fire, found, refuse]
    exact synced
  | some l =>
    simp only [fire, found]
    split
    · exact synced
    · rename_i l' event _
      simp only [onLifecycleTransition]
      cases stored : (m.setLifecycle id l').get event.capsuleID with
      | none => exact synced
      | some c =>
        obtain ⟨store, updated⟩ := m.store.rewrite_none now (c.moveTo event.target now)
        have named := Store.id_of_get stored
        have present : (m.store.get (c.moveTo event.target now).id).isSome = true := by
          have here : m.store.get c.id = some c := named ▸ stored
          simp [Capsule.moveTo, here]
        rw [Capsule.moveTo] at updated
        simp only [setLifecycle, updated]
        exact synced.rewrite present updated

theorem synced_step (synced : m.store.Synced) (succeeds : a.Succeeds)
    (stepped : m.step a = some m') : m'.store.Synced := by
  obtain ⟨now, fault, announceFault, op⟩ := a
  obtain ⟨rfl, rfl⟩ := succeeds
  cases stepped
  have rewritten {id : CapsuleID} {c c' : Capsule} {store : Store} (found : m.get id = some c)
      (updated : (m.store.put c').update now none c' = .ok store) (same : c'.id = c.id) :
      store.Synced := by
    refine synced.rewrite ?_ updated
    rw [same, Store.id_of_get found, ← get, found]
    rfl
  cases op with
  | create id clusterID spec =>
    rcases m.createStored_spec now none id clusterID spec with ⟨err, refused⟩ | stored
    · simp only [create, refused, refuse]
      exact synced
    · simp only [create, stored.result]
      exact synced_fire (synced.create stored.written) now id .announce
  | update id spec =>
    simp only [update]
    split
    · exact synced
    · cases found : m.get id with
      | none => exact synced
      | some c =>
        obtain ⟨store, updated⟩ := m.store.rewrite_none now
          { c with spec := defaultSpec spec, updatedAt := now }
        simp only [updated]
        exact rewritten found updated rfl
  | receive c =>
    have received := m.receive_spec now none c
    simp only
    generalize m.receive now none c = call at received ⊢
    cases received with
    | refused => exact synced
    | replaced known updated => exact synced.update rfl (fun _ _ => rfl) known updated
    | stored unknown created => exact synced.create created
  | fire id trigger => exact synced_fire synced now id trigger
  | syncStatus id status =>
    simp only [syncStatus]
    split
    · exact synced
    · cases found : m.get id with
      | none => exact synced
      | some c =>
        obtain ⟨store, updated⟩ := m.store.rewrite_none now (c.moveTo status now)
        rw [Capsule.moveTo] at updated
        simp only [updated]
        exact rewritten found updated rfl
  | assignReplica id replicaID nodeID =>
    cases found : m.get id with
    | none =>
      simp only [assignReplica, found]
      exact synced
    | some c =>
      obtain ⟨store, updated⟩ := m.store.rewrite_none now
        { c with
          replicas := Capsule.assignReplica replicaID nodeID now c.replicas
          updatedAt := now }
      simp only [assignReplica, found, updated]
      exact rewritten found updated rfl
  | delete id =>
    rcases m.delete_spec now none id with ⟨err, refused⟩ | ⟨c, store, -, deleted, done⟩
    · simp only [refused, refuse]
      exact synced
    · simp only [done]
      exact synced.delete deleted
  | restart =>
    simp only [restart, new]
    cases m.store.db with
    | none => exact Store.synced_new
    | some table => exact Store.synced_openStore table

/-- The copies of a status stay equal in every run whose received capsules are faithful. -/
theorem status_copies_agree {start : Store} (synced : start.Synced)
    (valid : ∀ id c, start.get id = some c → c.status.valid = true) :
    (∀ m, Reach step (fun _ a => a.Succeeds) (new start) m →
      (∀ id, (m.getLifecycle id).isSome = (m.get id).isSome) ∧
      ∀ table ∈ m.store.db, ∀ id,
        (table.lookup id).map Row.status = (m.get id).map Capsule.status) ∧
    ∀ m, Reach step (fun m a => a.Succeeds ∧ Faithful m a) (new start) m →
      (∀ id c, m.get id = some c → m.status id = .ok c.status ∧ c.status.valid = true ∧
        ∀ table ∈ m.store.db, (table.lookup id).map Row.status = some c.status) ∧
      ∀ a m', a.Succeeds → ¬ Faithful m a → m.step a = some m' →
        ∃ id c, m'.get id = some c ∧ m'.status id ≠ .ok c.status := by
  constructor
  · intro m reached
    have invariant := reached.invariant (fun m => Tracked m ∧ m.store.Synced)
      ⟨tracked_new start, synced⟩ fun m a m' before succeeds stepped =>
        ⟨before.1.step stepped, synced_step before.2 succeeds stepped⟩
    refine ⟨fun id => ?_, invariant.2⟩
    rw [← invariant.1 id, state, Option.isSome_map]
  · intro m reached
    obtain ⟨agreed, synced⟩ := reached.invariant (fun m => Agreed m ∧ m.store.Synced)
      ⟨agreed_new valid, synced⟩ fun m a m' before allowed stepped =>
        ⟨before.1.step before.2 allowed.1 allowed.2 stepped, synced_step before.2 allowed.1 stepped⟩
    constructor
    · intro id c found
      have machine : m.state id = some c.status := by
        rw [← agreed id, found]
        rfl
      refine ⟨status_of_state machine, valid_of_state machine, fun table there => ?_⟩
      rw [synced table there id, ← get, found]
      rfl
    · intro a m' succeeds unfaithful stepped
      by_contra equal
      push Not at equal
      refine unfaithful (agreed.faithful synced succeeds stepped fun id => ?_)
      have tracked : Tracked m' := Tracked.step (fun id => by rw [← agreed id, Option.isSome_map])
        stepped
      cases found : m'.get id with
      | none =>
        have unpaired : m'.state id = none := by simpa [found] using tracked id
        rw [unpaired]
        rfl
      | some c =>
        have paired := tracked id
        rw [found, Option.isSome_some, Option.isSome_iff_exists] at paired
        obtain ⟨s, here⟩ := paired
        have same := equal id c found
        rw [status_of_state here, Except.ok.injEq] at same
        rw [here, same]
        rfl

def accepted (op : Op) : Action := ⟨0, none, none, op⟩

def webCapsule (status : CapsuleStatus) : Capsule :=
  { freshCapsule 0 "web" "cluster" (defaultSpec (bareSpec ⟨0, 0, 0⟩)) with status := status }

/-- A received capsule replaces the stored one and leaves its machine where it stands. -/
theorem received_status_disagrees :
    (∃ m, Reach step (fun _ a => a.Succeeds) (new (.openStore ∅)) m ∧
      m.status "web" = .ok .announced ∧ (m.get "web").map Capsule.status = some .running) ∧
    ∃ m, Reach step (fun _ a => a.Succeeds) (new (.openStore ∅)) m ∧
      m.status "web" = .ok .announced ∧
      (m.get "web").map Capsule.status = some (.unknown "degraded") := by
  constructor
  · obtain ⟨m, reached, ends⟩ := Reach.exists_of_accepted (fun _ a => decide a.Succeeds)
      (fun _ _ => of_decide_eq_true) step (new (.openStore ∅))
      [accepted (.create "web" "cluster" (bareSpec ⟨0, 0, 0⟩)),
        accepted (.receive (webCapsule .running))]
      (fun m => m.state "web" = some .announced ∧ (m.get "web").map Capsule.status = some .running)
      (by decide +kernel)
    exact ⟨m, reached, status_of_state ends.1, ends.2⟩
  · obtain ⟨m, reached, ends⟩ := Reach.exists_of_accepted (fun _ a => decide a.Succeeds)
      (fun _ _ => of_decide_eq_true) step (new (.openStore ∅))
      [accepted (.receive (webCapsule (.unknown "degraded")))]
      (fun m => m.state "web" = some .announced ∧
        (m.get "web").map Capsule.status = some (.unknown "degraded")) (by decide +kernel)
    exact ⟨m, reached, status_of_state ends.1, ends.2⟩

def mirrored : List Action :=
  [accepted (.create "web" "cluster" (bareSpec ⟨0, 0, 0⟩)),
    accepted (.receive (webCapsule .announced)), accepted (.fire "web" .electionStarted),
    accepted (.fire "web" .electionWon), accepted (.assignReplica "web" "0" "node-a"),
    accepted .restart]

/-- The copies of a status that was mirrored and moved are equal after a restart. -/
theorem status_copies_agree_mirrored :
    ∃ m c, Reach step (fun m a => a.Succeeds ∧ Faithful m a) (new (.openStore ∅)) m ∧
      m.get "web" = some c ∧ c.status = .assigned ∧ m.status "web" = .ok c.status ∧
      ∀ table ∈ m.store.db, (table.lookup "web").map Row.status = some c.status := by
  obtain ⟨m, reached, ends⟩ := Reach.exists_of_accepted
    (fun m a => decide (a.Succeeds ∧ Faithful m a)) (fun _ _ => of_decide_eq_true) step
    (new (.openStore ∅)) mirrored (fun m => (m.get "web").map Capsule.status = some .assigned)
    (by decide +kernel)
  obtain ⟨c, found, assigned⟩ := Option.map_eq_some_iff.mp ends
  have agree := (status_copies_agree (Store.synced_openStore ∅) (by simp)).2 m reached
  obtain ⟨machine, -, column⟩ := agree.1 "web" c found
  exact ⟨m, c, reached, found, assigned, machine, column⟩

end Falak.Capsule.Manager
