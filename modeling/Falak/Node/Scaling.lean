import Falak.Node.ElectionOutcome
import Falak.Node.Slots

/-! How many replica slots of a capsule are elected, and how many of them are recorded. -/

namespace Falak.Node

open Falak.Capsule
open Falak.Election (replicaSlotID)

def slotsOf (id : CapsuleID) (requested : List ElectionRequested) : List String :=
  (requested.filter fun req => req.capsuleID = id).map ElectionRequested.replicaID

def overshoot (id : CapsuleID) (m : Manager) (event : ScaleEvent) : List String :=
  match m.get id with
  | none => []
  | some c =>
    if event.capsuleID = id ∧ event.action = .scaleUp ∧
        nextReplicaSlot c ∉ firstSlots (replicaBound c.spec.replicas) then
      [nextReplicaSlot c]
    else []

def ElectionStep.places : ElectionStep → Option (CapsuleID × String)
  | .won event => some (event.capsuleID, event.replicaID)
  | .lost event => some (event.capsuleID, event.replicaID)
  | _ => none

structure ScalingState where
  capsules : Manager
  requested : List ElectionRequested
  beyond : List String

inductive ScalingStep
  | initial
  | scale (event : ScaleEvent)
  | election (a : ElectionAction)

def scalingStep (id : CapsuleID) (s : ScalingState) : ScalingStep → Option ScalingState
  | .initial =>
    (s.capsules.get id).map fun c =>
      { s with requested := s.requested ++ requests (requestInitialElections c) }
  | .scale event =>
    some { s with
      requested := s.requested ++ requests (onScaleEvent s.capsules event)
      beyond := s.beyond ++ overshoot id s.capsules event }
  | .election a =>
    if a.step.places.all fun place => place.2 ∈ slotsOf place.1 s.requested then
      (electionStep s.capsules a).map fun m => { s with capsules := m }
    else none

variable {m m' : Manager} {id : CapsuleID} {c : Capsule}

@[simp] theorem slotsOf_append (id : CapsuleID) (a b : List ElectionRequested) :
    slotsOf id (a ++ b) = slotsOf id a ++ slotsOf id b := by
  simp [slotsOf]

theorem slotsOf_initial (c : Capsule) :
    slotsOf c.id (requests (requestInitialElections c))
      = firstSlots (initialReplicaCount c.spec.replicas) := by
  have own : (requests (requestInitialElections c)).filter (fun req => req.capsuleID = c.id)
      = requests (requestInitialElections c) := by
    refine List.filter_eq_self.mpr fun req asked => ?_
    obtain ⟨i, -, rfl⟩ := mem_requests_initial.mp asked
    exact decide_eq_true rfl
  rw [slotsOf, own, requests_requestInitialElections, List.map_map]
  rfl

variable {event : ScaleEvent} {now : Int}

theorem requests_scaleUp (found : m.get event.capsuleID = some c) (up : event.action = .scaleUp) :
    requests (onScaleEvent m event) = [scaleUpRequest event c] := by
  simp only [onScaleEvent, up, found]
  rfl

theorem requests_onScaleEvent_nil (other : m.get event.capsuleID = none ∨ event.action ≠ .scaleUp) :
    requests (onScaleEvent m event) = [] := by
  cases action : event.action with
  | scaleUp =>
    rcases other with absent | other
    · simp only [onScaleEvent, action, absent]
      rfl
    · exact absurd action other
  | _ =>
    simp only [onScaleEvent, action]
    rfl

theorem slotsOf_scaleUp (found : m.get event.capsuleID = some c) (up : event.action = .scaleUp) :
    slotsOf event.capsuleID (requests (onScaleEvent m event)) = [nextReplicaSlot c] := by
  rw [requests_scaleUp found up]
  simp [slotsOf, scaleUpRequest]

theorem slotsOf_scale_other (other : ¬ (event.capsuleID = id ∧ event.action = .scaleUp)) :
    slotsOf id (requests (onScaleEvent m event)) = [] := by
  by_cases quiet : m.get event.capsuleID = none ∨ event.action ≠ .scaleUp
  · rw [requests_onScaleEvent_nil quiet]
    rfl
  · -- The event scales another capsule up.
    push Not at quiet
    obtain ⟨c, there⟩ := Option.ne_none_iff_exists'.mp quiet.1
    have named : event.capsuleID ≠ id := fun own => other ⟨own, quiet.2⟩
    rw [requests_scaleUp there quiet.2]
    simp [slotsOf, scaleUpRequest, named]

def SameRecord (id : CapsuleID) (m m' : Manager) : Prop :=
  ∀ c, m.get id = some c → ∃ c', m'.get id = some c' ∧ c'.spec = c.spec ∧ c'.replicas = c.replicas

theorem SameRecord.trans {m'' : Manager} (first : SameRecord id m m')
    (second : SameRecord id m' m'') : SameRecord id m m'' := by
  intro c found
  obtain ⟨c', found', spec', replicas'⟩ := first c found
  obtain ⟨c'', found'', spec'', replicas''⟩ := second c' found'
  exact ⟨c'', found'', spec''.trans spec', replicas''.trans replicas'⟩

theorem sameRecord_fire (m : Manager) (now : Int) (fault : Option String) (other : CapsuleID)
    (trigger : Trigger) (id : CapsuleID) :
    SameRecord id m (m.fire now fault other trigger).manager := by
  intro c found
  cases m.fire_spec now fault other trigger with
  | refused _ _ _ store =>
    refine ⟨c, ?_, rfl, rfl⟩
    rw [Manager.get, store]
    exact found
  | @moved _ target _ _ _ gets =>
    rw [gets]
    split
    · rename_i same
      rw [← same, found]
      exact ⟨c.moveTo target now, rfl, rfl, rfl⟩
    · exact ⟨c, found, rfl, rfl⟩

theorem sameRecord_syncStatus (m : Manager) (now : Int) (fault : Option String) (other : CapsuleID)
    (status : CapsuleStatus) (id : CapsuleID) :
    SameRecord id m (m.syncStatus now fault other status).manager := by
  -- Only the status of the capsule is written.
  intro c found
  rcases m.syncStatus_cases now fault other status with
    ⟨err, refused⟩ | ⟨c', there, -, gets, -⟩
  · rw [refused]
    exact ⟨c, found, rfl, rfl⟩
  rw [gets]
  split
  · rename_i same
    rw [← same, found] at there
    cases there
    exact ⟨c.moveTo status now, rfl, rfl, rfl⟩
  · exact ⟨c, found, rfl, rfl⟩

def RecordAfter (id : CapsuleID) (c : Capsule) (now : Int) (step : ElectionStep) (m' : Manager) :
    Prop :=
  ∃ c', m'.get id = some c' ∧ c'.spec = c.spec ∧
    (c'.replicas = c.replicas ∨ ∃ slot node, step.places = some (id, slot) ∧
      c'.replicas = assignReplica slot node now c.replicas)

theorem recordAfter_assignReplica {step : ElectionStep} (record : SameRecord id m m')
    (found : m.get id = some c) (fault : Option String) {other : CapsuleID} {slot : String}
    (node : String) (places : step.places = some (other, slot)) :
    RecordAfter id c now step (m'.assignReplica now fault other slot node).manager := by
  obtain ⟨c', found', spec, replicas⟩ := record c found
  unfold RecordAfter
  rw [(m'.assignReplica_spec now fault other slot node).2]
  split
  · rename_i equal
    subst equal
    rw [found']
    exact ⟨_, rfl, spec, .inr ⟨slot, node, places, congrArg (assignReplica slot node now) replicas⟩⟩
  · exact ⟨c', found', spec, .inl replicas⟩

theorem electionStep_record {a : ElectionAction} (stepped : electionStep m a = some m')
    (found : m.get id = some c) : RecordAfter id c a.now a.step m' := by
  obtain ⟨now, first, second, step⟩ := a
  cases stepped
  have same {m' : Manager} (record : SameRecord id m m') : RecordAfter id c now step m' := by
    obtain ⟨c', found', spec, replicas⟩ := record c found
    exact ⟨c', found', spec, .inl replicas⟩
  have unchanged : SameRecord id m m := fun c found => ⟨c, found, rfl, rfl⟩
  cases step with
  | requested other => exact same (sameRecord_fire m now first other _ id)
  | reported other outcome =>
    cases outcome with
    | won | failed => exact same (sameRecord_fire m now first other _ id)
    | lost => exact same unchanged
  | won event => exact recordAfter_assignReplica unchanged found first _ rfl
  | lost event =>
    have mirrored := sameRecord_syncStatus m now first event.capsuleID .assigned id
    simp only [handleElectionLost]
    split
    · exact recordAfter_assignReplica mirrored found second _ rfl
    · exact same mirrored
  | failed event => exact same (sameRecord_syncStatus m now first _ _ id)
  | running other =>
    have both := (sameRecord_fire m now first other .executionStart id).trans
      (sameRecord_fire _ now second other .containerReady id)
    simp only [RuntimeLifecycleAdapter.markRunning]
    split <;> exact same both

structure Bounded (id : CapsuleID) (r : ReplicaConfig) (s : ScalingState) : Prop where
  recorded : ∃ c, s.capsules.get id = some c ∧ c.spec.replicas = r ∧ (recordedSlots c).Nodup ∧
    recordedSlots c ⊆ slotsOf id s.requested
  filled : Filled (replicaBound r) (slotsOf id s.requested) s.beyond

theorem Bounded.step {r : ReplicaConfig} {s s' : ScalingState} {a : ScalingStep}
    (bounded : Bounded id r s) (fits : initialReplicaCount r ≤ replicaBound r)
    (narrow : replicaBound r < 2 ^ 31) (stepped : scalingStep id s a = some s') :
    Bounded id r s' := by
  obtain ⟨⟨c, found, rfl, distinct, within⟩, filled⟩ := bounded
  cases a with
  | initial =>
    simp only [scalingStep, found, Option.map_some] at stepped
    cases stepped
    obtain rfl : c.id = id := Store.id_of_get found
    refine ⟨⟨c, found, rfl, distinct, ?_⟩, ?_⟩
    · rw [slotsOf_append]
      exact List.subset_append_of_subset_left _ within
    · rw [slotsOf_append, slotsOf_initial]
      exact filled.initial fits
  | scale event =>
    cases stepped
    refine ⟨⟨c, found, rfl, distinct, ?_⟩, ?_⟩
    · rw [slotsOf_append]
      exact List.subset_append_of_subset_left _ within
    · rw [slotsOf_append]
      by_cases own : event.capsuleID = id ∧ event.action = .scaleUp
      · obtain ⟨rfl, up⟩ := own
        simp only [slotsOf_scaleUp found up, overshoot, found, up, true_and]
        exact filled.scaleUp narrow within
      · -- Nothing is asked of the capsule.
        have quiet : overshoot id s.capsules event = [] := by
          simp only [overshoot, found]
          exact if_neg fun beyond => own ⟨beyond.1, beyond.2.1⟩
        rw [slotsOf_scale_other own, quiet, List.append_nil, List.append_nil]
        exact filled
  | election a =>
    simp only [scalingStep] at stepped
    split at stepped
    · rename_i asked
      obtain ⟨m', taken, rfl⟩ := Option.map_eq_some_iff.mp stepped
      obtain ⟨c', found', spec, replicas⟩ := electionStep_record taken found
      refine ⟨⟨c', found', by rw [spec], ?_⟩, filled⟩
      rcases replicas with same | ⟨slot, node, places, assigned⟩
      · rw [recordedSlots, same]
        exact ⟨distinct, within⟩
      · rw [places] at asked
        have member : slot ∈ slotsOf id s.requested := of_decide_eq_true asked
        rw [recordedSlots, assigned, map_assignReplica]
        split
        · exact ⟨distinct, within⟩
        · rename_i fresh
          have apart : List.Disjoint (recordedSlots c) [slot] := by
            simpa [recordedSlots] using fresh
          refine ⟨distinct.append (List.nodup_singleton _) apart, ?_⟩
          exact List.append_subset.mpr ⟨within, by simpa using member⟩
    · cases stepped

theorem create_record {m₀ : Manager} {fault announceFault : Option String} {clusterID : String}
    {spec : CapsuleSpec}
    (accepted : (m₀.create now fault announceFault id clusterID spec).result = .ok c) :
    validateSpec (defaultSpec spec) = [] ∧
      (m₀.create now fault announceFault id clusterID spec).manager.get id = some c ∧
      c.spec = defaultSpec spec ∧ c.replicas = [] := by
  rcases m₀.createStored_spec now fault id clusterID spec with ⟨err, refused⟩ | stored
  · simp only [Manager.create, refused, Manager.refuse] at accepted
    cases accepted
  · refine ⟨stored.accepted, ?_⟩
    obtain ⟨c', found, spec', replicas⟩ := sameRecord_fire
      (m₀.createStored now fault id clusterID spec).manager now announceFault id .announce id
      (Manager.freshCapsule now id clusterID (defaultSpec spec)) (by rw [stored.gets, if_pos rfl])
    simp only [Manager.create, stored.result, Manager.announce, found, Option.getD_some,
      Except.ok.injEq] at accepted ⊢
    subst accepted
    exact ⟨rfl, spec', replicas⟩

/--
The slots of a capsule that are requested keep to its bound until the first scale-up beyond it.
-/
theorem replica_slots_bounded {m₀ : Manager} {now : Int} {fault announceFault : Option String}
    {clusterID : String} {spec : CapsuleSpec} {s : ScalingState}
    (accepted : (m₀.create now fault announceFault id clusterID spec).result = .ok c)
    (narrow : replicaBound (defaultSpec spec).replicas < 2 ^ 31)
    (reached : Reach (scalingStep id) (fun _ _ => True)
      ⟨(m₀.create now fault announceFault id clusterID spec).manager, [], []⟩ s) :
    (((slotsOf id s.requested).toFinset.card : Int) ≤ replicaBound (defaultSpec spec).replicas ↔
        s.beyond = []) ∧
      ∃ c', s.capsules.get id = some c' ∧
        c'.replicas.length ≤ (slotsOf id s.requested).toFinset.card ∧
        ∀ event : ScaleEvent, event.capsuleID = id → event.action = .scaleUp →
          requests (onScaleEvent s.capsules event) = [scaleUpRequest event c'] := by
  obtain ⟨checked, found₀, spec₀, replicas₀⟩ := create_record accepted
  have fits := initialReplicaCount_le (validateReplicas_of_validateSpec checked)
  have positive := initialReplicaCount_pos (defaultSpec spec).replicas
  have start : Bounded id (defaultSpec spec).replicas
      ⟨(m₀.create now fault announceFault id clusterID spec).manager, [], []⟩ := by
    refine ⟨⟨c, found₀, by rw [spec₀], by simp [recordedSlots, replicas₀]⟩, ?_⟩
    exact .within 0 (positive.le.trans fits) (by simp [slotsOf, firstSlots]) rfl
  obtain ⟨⟨c', found, -, distinct, within⟩, filled⟩ := reached.invariant
    (Bounded id (defaultSpec spec).replicas) start
    fun _ _ _ bounded _ stepped => bounded.step fits narrow stepped
  refine ⟨filled.card_le_iff, c', found, ?_, fun event own up => requests_scaleUp (own ▸ found) up⟩
  calc c'.replicas.length = (recordedSlots c').toFinset.card := by
        rw [List.toFinset_card_of_nodup distinct, recordedSlots, List.length_map]
    _ ≤ (slotsOf id s.requested).toFinset.card :=
        Finset.card_le_card fun slot member =>
          List.mem_toFinset.mpr (within (List.mem_toFinset.mp member))

def creation (r : ReplicaConfig) : Call Capsule :=
  (Manager.new .new).create 0 none none "web" "cluster" (bareSpec r)

def scaledUp : List ScalingStep :=
  [.initial, .election (acceptedStep (.won ⟨"web", "0", "cluster", "node-a"⟩)),
    .scale ⟨"web", "cpu", .scaleUp⟩,
    .election (acceptedStep (.lost ⟨"web", "1", "cluster", "node-b"⟩))]

def Oversized (r : ReplicaConfig) (s : ScalingState) : Prop :=
  replicaBound (defaultReplicas r) = 1 ∧ (slotsOf "web" s.requested).toFinset.card = 2 ∧
    (s.capsules.get "web").map (fun c => c.replicas.length) = some 2

instance (r : ReplicaConfig) (s : ScalingState) : Decidable (Oversized r s) :=
  inferInstanceAs (Decidable (_ ∧ _ ∧ _))

/-- One scale-up takes a capsule to two replicas, be its maximum or its exact number one. -/
theorem scale_up_exceeds_bound :
    (∃ s, Reach (scalingStep "web") (fun _ _ => True) ⟨(creation ⟨0, 1, 0⟩).manager, [], []⟩ s ∧
      Oversized ⟨0, 1, 0⟩ s) ∧
    ∃ s, Reach (scalingStep "web") (fun _ _ => True) ⟨(creation ⟨0, 0, 1⟩).manager, [], []⟩ s ∧
      Oversized ⟨0, 0, 1⟩ s :=
  ⟨Reach.exists_of_actions _ _ scaledUp _ (by decide +kernel),
    Reach.exists_of_actions _ _ scaledUp _ (by decide +kernel)⟩

/-- A capsule with room for three replicas is scaled up within its bound. -/
theorem replica_slots_bounded_roomy :
    ∃ s, Reach (scalingStep "web") (fun _ _ => True) ⟨(creation ⟨1, 3, 0⟩).manager, [], []⟩ s ∧
      slotsOf "web" s.requested = ["0", "1"] ∧ s.beyond = [] ∧
      ((slotsOf "web" s.requested).toFinset.card : Int) ≤ 3 := by
  have accepted : (creation ⟨1, 3, 0⟩).result.isOk = true := by decide +kernel
  obtain ⟨s, reached, slots, within⟩ := Reach.exists_of_actions (scalingStep "web")
    ⟨(creation ⟨1, 3, 0⟩).manager, [], []⟩ scaledUp
    (fun s => slotsOf "web" s.requested = ["0", "1"] ∧ s.beyond = []) (by decide +kernel)
  cases created : (creation ⟨1, 3, 0⟩).result with
  | error err =>
    rw [created] at accepted
    cases accepted
  | ok c =>
    have bounded := (replica_slots_bounded created (by decide) reached).1
    exact ⟨s, reached, slots, within, bounded.mpr within⟩

end Falak.Node
