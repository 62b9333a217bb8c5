import Falak.Node.CapsuleHandler
import Falak.Node.RuntimeAdapter

/-! What the outcomes of elections do to the status of a capsule that already runs here. -/

namespace Falak.Node

variable (m : Manager)

open Falak.Capsule

def reportOutcome (now : Int) (fault : Option String) (id : CapsuleID) :
    Election.Outcome → Manager
  | .won => (m.winElection now fault id).manager
  | .lost => m
  | .failed => (m.electionTimeout now fault id).manager

inductive ElectionStep
  | requested (id : CapsuleID)
  | reported (id : CapsuleID) (outcome : Election.Outcome)
  | won (event : ElectionWon)
  | lost (event : ElectionLost)
  | failed (event : ElectionFailed)
  | running (id : CapsuleID)
  deriving DecidableEq, Repr

structure ElectionAction where
  now : Int
  first : Option String
  second : Option String
  step : ElectionStep

def electionStep (a : ElectionAction) : Option Manager :=
  some <|
    match a.step with
    | .requested id => (m.startElection a.now a.first id).manager
    | .reported id outcome => reportOutcome m a.now a.first id outcome
    | .won event => handleElectionWon m a.now a.first event
    | .lost event => handleElectionLost m a.now a.first a.second event
    | .failed event => handleElectionFailed m a.now a.first event
    | .running id => (RuntimeLifecycleAdapter.markRunning m a.now a.first a.second id).manager

def ElectionStep.mirrors : ElectionStep → Option CapsuleID
  | .lost event => some event.capsuleID
  | .failed event => some event.capsuleID
  | _ => none

def Live (s : CapsuleStatus) : Prop := s = .executing ∨ s = .running

instance (s : CapsuleStatus) : Decidable (Live s) := inferInstanceAs (Decidable (_ ∨ _))

def MachineLive (id : CapsuleID) : Prop := ∃ s, m.status id = .ok s ∧ Live s

def CacheLive (id : CapsuleID) : Prop := ∃ c, m.get id = some c ∧ Live c.status

def Undisturbed (id : CapsuleID) (m : Manager) (a : ElectionAction) : Prop :=
  a.step.mirrors = some id → ¬ MachineLive m id

variable {m m' : Manager} {id : CapsuleID}

theorem machineLive_iff :
    MachineLive m id ↔ (m.state id).any (fun s => decide (Live s)) = true := by
  simp [MachineLive, Manager.status_eq_ok, Option.any_eq_true]

instance (m : Manager) (id : CapsuleID) : Decidable (MachineLive m id) :=
  decidable_of_iff _ machineLive_iff.symm

instance (id : CapsuleID) (m : Manager) (a : ElectionAction) : Decidable (Undisturbed id m a) :=
  inferInstanceAs (Decidable (_ → _))

def Led (m : Manager) (id : CapsuleID) : Prop := CacheLive m id → MachineLive m id

structure KeepsLive (id : CapsuleID) (m m' : Manager) : Prop where
  machine : MachineLive m id → MachineLive m' id
  led : Led m id → Led m' id
  cache : Led m id → CacheLive m id → CacheLive m' id

theorem KeepsLive.trans {m'' : Manager} (first : KeepsLive id m m') (second : KeepsLive id m' m'') :
    KeepsLive id m m'' where
  machine live := second.machine (first.machine live)
  led leads := second.led (first.led leads)
  cache leads live := second.cache (first.led leads) (first.cache leads live)

theorem KeepsLive.of_same (states : m'.state id = m.state id)
    (statuses : (m'.get id).map Capsule.status = (m.get id).map Capsule.status) :
    KeepsLive id m m' := by
  have machine : MachineLive m' id ↔ MachineLive m id := by
    simp only [MachineLive, Manager.status_eq_ok, states]
  have cache : CacheLive m' id ↔ CacheLive m id := by
    have read (m : Manager) :
        CacheLive m id ↔ ∃ s, (m.get id).map Capsule.status = some s ∧ Live s := by
      simp [CacheLive]
    rw [read, read, statuses]
  exact ⟨machine.mpr, fun leads live => machine.mpr (leads (cache.mp live)), fun _ => cache.mpr⟩

def forward : List Trigger :=
  [.electionStarted, .electionWon, .electionTimeout, .executionStart, .containerReady]

theorem live_of_permit {source target : CapsuleStatus} {trigger : Trigger}
    (kind : trigger ∈ forward) (permitted : permit source trigger = some target)
    (live : Live source) : Live target := by
  unfold permit at permitted
  split at permitted <;> cases permitted <;> revert kind live <;> decide

theorem keepsLive_fire (m : Manager) (now : Int) (fault : Option String) (other : CapsuleID)
    (trigger : Trigger) (kind : trigger ∈ forward) (id : CapsuleID) :
    KeepsLive id m (m.fire now fault other trigger).manager := by
  cases m.fire_spec now fault other trigger with
  | refused _ _ _ store states =>
    exact .of_same (states id) (by rw [Manager.get, store]; rfl)
  | @moved source target here permitted _ gets states =>
    by_cases same : id = other
    · subst same
      have arrived : (m.fire now fault id trigger).manager.state id = some target := by
        rw [states, if_pos rfl]
      have cached : (m.fire now fault id trigger).manager.get id
          = (m.get id).map (Capsule.moveTo · target now) := by rw [gets, if_pos rfl]
      have machine : MachineLive m id → Live target := by
        rintro ⟨s, there, live⟩
        rw [Manager.status_eq_ok, here, Option.some.injEq] at there
        exact live_of_permit kind permitted (there ▸ live)
      have stands (live : Live target) : MachineLive (m.fire now fault id trigger).manager id :=
        ⟨target, Manager.status_eq_ok.mpr arrived, live⟩
      refine ⟨fun live => stands (machine live), fun _ => ?_, fun leads live => ?_⟩
      · rintro ⟨c, found, live⟩
        rw [cached, Option.map_eq_some_iff] at found
        obtain ⟨old, -, rfl⟩ := found
        exact stands live
      · have live' := machine (leads live)
        obtain ⟨c, found, -⟩ := live
        exact ⟨c.moveTo target now, by rw [cached, found]; rfl, live'⟩
    · exact .of_same (by rw [states, if_neg same]) (by rw [gets, if_neg same])

theorem keepsLive_assignReplica (m : Manager) (now : Int) (fault : Option String)
    (other : CapsuleID) (replicaID nodeID : String) (id : CapsuleID) :
    KeepsLive id m (m.assignReplica now fault other replicaID nodeID).manager := by
  obtain ⟨machines, gets⟩ := m.assignReplica_spec now fault other replicaID nodeID
  refine .of_same (by rw [Manager.state, Manager.getLifecycle, machines]; rfl) ?_
  rw [gets]
  split
  · rename_i same
    rw [same, Option.map_map]
    rfl
  · rfl

theorem keepsLive_syncStatus (m : Manager) (now : Int) (fault : Option String) (other : CapsuleID)
    (status : CapsuleStatus) (early : ¬ Live status) (id : CapsuleID)
    (undisturbed : other = id → ¬ MachineLive m id) :
    KeepsLive id m (m.syncStatus now fault other status).manager := by
  rcases m.syncStatus_cases now fault other status with
    ⟨err, refused⟩ | ⟨c, found, -, gets, machines⟩
  · rw [refused]
    exact .of_same rfl rfl
  by_cases same : id = other
  · subst same
    have idle := undisturbed rfl
    refine ⟨fun live => absurd live idle, fun _ => ?_, fun leads live => absurd (leads live) idle⟩
    rintro ⟨c', there, live⟩
    rw [gets, if_pos rfl] at there
    cases there
    exact absurd live early
  · refine .of_same ?_ (by rw [gets, if_neg same])
    rcases machines with ⟨-, machines⟩ | states
    · rw [Manager.state, Manager.getLifecycle, machines]
      rfl
    · rw [states, if_neg same]

theorem keepsLive_step {a : ElectionAction} (undisturbed : Undisturbed id m a)
    (stepped : electionStep m a = some m') : KeepsLive id m m' := by
  obtain ⟨now, first, second, step⟩ := a
  cases stepped
  cases step with
  | requested other => exact keepsLive_fire m now first other _ (by decide) id
  | reported other outcome =>
    cases outcome with
    | won | failed => exact keepsLive_fire m now first other _ (by decide) id
    | lost => exact .of_same rfl rfl
  | won event => exact keepsLive_assignReplica m now first _ _ _ id
  | lost event =>
    have mirrored := keepsLive_syncStatus m now first event.capsuleID .assigned (by decide) id
      fun same => undisturbed (congrArg some same)
    simp only [handleElectionLost]
    split
    · exact mirrored.trans (keepsLive_assignReplica _ now second _ _ _ id)
    · exact mirrored
  | failed event =>
    exact keepsLive_syncStatus m now first event.capsuleID .announced (by decide) id
      fun same => undisturbed (congrArg some same)
  | running other =>
    have both := (keepsLive_fire m now first other .executionStart (by decide) id).trans
      (keepsLive_fire _ now second other .containerReady (by decide) id)
    simp only [RuntimeLifecycleAdapter.markRunning]
    split <;> exact both

theorem demoted_of_mirrors {a : ElectionAction} {c : Capsule} (found : m.get id = some c)
    (mirrored : a.step.mirrors = some id) (written : a.first = none)
    (stepped : electionStep m a = some m') :
    m'.status id = .ok .assigned ∨ m'.status id = .ok .announced := by
  -- The status is written without asking the machine.
  obtain ⟨now, first, second, step⟩ := a
  subst written
  cases stepped
  have synced {status : CapsuleStatus} (valid : status.valid = true) :
      (m.syncStatus now none id status).manager.state id = some status := by
    rcases (Manager.syncStatus_spec now none valid found).2 with ⟨failed, -⟩ | states
    · exact absurd rfl failed
    · rw [states, if_pos rfl]
  simp only [Manager.status_eq_ok]
  cases step with
  | lost event =>
    obtain rfl : event.capsuleID = id := Option.some.inj mirrored
    refine .inl ?_
    simp only [handleElectionLost]
    split
    · rw [Manager.state, Manager.getLifecycle, (Manager.assignReplica_spec _ now second _ _ _).1]
      exact synced rfl
    · exact synced rfl
  | failed event =>
    obtain rfl : event.capsuleID = id := Option.some.inj mirrored
    exact .inr (synced rfl)
  | _ => cases mirrored

/--
A capsule that is live stays so in every run that handles none of its lost or failed elections then.
-/
theorem election_keeps_live {start : Manager}
    (reached : Reach electionStep (Undisturbed id) start m) :
    (∀ a m', Undisturbed id m a → electionStep m a = some m' →
      (MachineLive m id → MachineLive m' id) ∧
        (Led start id → CacheLive m id → CacheLive m' id)) ∧
    ∀ a m', ¬ Undisturbed id m a → a.first = none → (m.get id).isSome = true →
      electionStep m a = some m' →
        m'.status id = .ok .assigned ∨ m'.status id = .ok .announced := by
  have leads (led : Led start id) : Led m id :=
    reached.invariant (Led · id) led fun _ _ _ led undisturbed stepped =>
      (keepsLive_step undisturbed stepped).led led
  refine ⟨fun a m' undisturbed stepped => ?_, fun a m' disturbed written stored stepped => ?_⟩
  · have keeps := keepsLive_step undisturbed stepped
    exact ⟨keeps.machine, fun led => keeps.cache (leads led)⟩
  · obtain ⟨c, found⟩ := Option.isSome_iff_exists.mp stored
    simp only [Undisturbed, not_forall, not_not] at disturbed
    obtain ⟨mirrored, -⟩ := disturbed
    exact demoted_of_mirrors found mirrored written stepped

def acceptedStep (step : ElectionStep) : ElectionAction := ⟨0, none, none, step⟩

def createdPair : Manager :=
  ((Manager.new .new).create 0 none none "web" "cluster" (bareSpec ⟨2, 2, 0⟩)).manager

def firstReplica : List ElectionAction :=
  [acceptedStep (.requested "web"), acceptedStep (.requested "web"),
    acceptedStep (.reported "web" .won), acceptedStep (.won ⟨"web", "0", "cluster", "node-a"⟩),
    acceptedStep (.running "web"), acceptedStep (.reported "web" .lost)]

/-- The second replica goes to another node, or to none, and the running capsule is taken back. -/
theorem second_replica_demotes :
    ∃ m, Reach electionStep (fun _ _ => True) createdPair m ∧ m.status "web" = .ok .running ∧
      (∃ m', electionStep m (acceptedStep (.lost ⟨"web", "1", "cluster", "node-b"⟩)) = some m' ∧
        m'.status "web" = .ok .assigned) ∧
      ∃ m', electionStep m (acceptedStep (.failed ⟨"web", "1", "cluster", "election timeout"⟩))
          = some m' ∧ m'.status "web" = .ok .announced := by
  obtain ⟨m, reached, running, lost, failed⟩ := Reach.exists_of_actions electionStep createdPair
    firstReplica
    (fun m => m.state "web" = some .running ∧
      (electionStep m (acceptedStep (.lost ⟨"web", "1", "cluster", "node-b"⟩))).any (fun m' =>
      m'.state "web" = some .assigned) = true ∧
      (electionStep m (acceptedStep (.failed ⟨"web", "1", "cluster", "election timeout"⟩))).any
      (fun m' => m'.state "web" = some .announced) = true) (by decide +kernel)
  simp only [Option.any_eq_true, decide_eq_true_eq, ← Manager.status_eq_ok] at running lost failed
  exact ⟨m, reached, running, lost, failed⟩

def lostFirst : List ElectionAction :=
  [acceptedStep (.requested "web"), acceptedStep (.lost ⟨"web", "1", "cluster", "node-b"⟩),
    acceptedStep (.won ⟨"web", "0", "cluster", "node-a"⟩), acceptedStep (.running "web")]

/-- A capsule that runs after an election was lost stays live when another round fails. -/
theorem election_keeps_live_settled :
    ∃ m m', Reach electionStep (Undisturbed "web") createdPair m ∧ MachineLive m "web" ∧
      electionStep m (acceptedStep (.reported "web" .failed)) = some m' ∧ MachineLive m' "web" := by
  obtain ⟨m, reached, live⟩ := Reach.exists_of_accepted (fun m a => decide (Undisturbed "web" m a))
    (fun _ _ => of_decide_eq_true) electionStep createdPair lostFirst (fun m => MachineLive m "web")
    (by decide +kernel)
  have keeps := (election_keeps_live reached).1 (acceptedStep (.reported "web" .failed)) _
    nofun rfl
  exact ⟨m, _, reached, live, rfl, keeps.1 live⟩

end Falak.Node
