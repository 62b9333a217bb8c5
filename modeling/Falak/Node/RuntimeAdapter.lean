import Falak.Capsule.Consistency
import Falak.Node.Events

/-! How the runtime reports its containers: the adapter that turns a report into triggers. -/

namespace Falak.Node

open Falak.Capsule

structure AdapterCall where
  manager : Manager
  published : List BusEvent
  result : Except String Unit

inductive Report
  | running
  | failed (reason : String)
  | stopped
  deriving DecidableEq, Repr

structure Reported where
  now : Int
  first : Option String
  second : Option String
  report : Report

namespace RuntimeLifecycleAdapter

variable (m : Manager) (now : Int)

def markRunning (startFault fault : Option String) (id : CapsuleID) :
    AdapterCall :=
  -- An error of the first trigger is only logged.
  let started := (m.startExecution now startFault id).manager
  let ready := started.markRunning now fault id
  match ready.result with
  | .error err => ⟨ready.manager, [], .error err⟩
  | .ok () => ⟨ready.manager, [.capsuleRunning id], .ok ()⟩

def markFailed (fault : Option String) (id : CapsuleID) (reason : String) : AdapterCall :=
  ⟨(m.executionFailed now fault id).manager, [.capsuleFailed ⟨id, reason⟩], .ok ()⟩

def markStopped (stopFault fault : Option String) (id : CapsuleID) :
    AdapterCall :=
  -- An error of the first trigger is only logged.
  let stopping := (m.stopCapsule now stopFault id).manager
  let exited := stopping.markStopped now fault id
  ⟨exited.manager, [], exited.result⟩

def call (id : CapsuleID) (r : Reported) : AdapterCall :=
  match r.report with
  | .running => markRunning m r.now r.first r.second id
  | .failed reason => markFailed m r.now r.first id reason
  | .stopped => markStopped m r.now r.first r.second id

def after (id : CapsuleID) (reports : List Reported) (m : Manager) : Manager :=
  reports.foldl (fun m r => (call m id r).manager) m

end RuntimeLifecycleAdapter

open RuntimeLifecycleAdapter

variable {m m' : Manager} {id : CapsuleID}

inductive Fires (id : CapsuleID) (m : Manager) : Manager → Prop
  | none : Fires id m m
  | fire {m' : Manager} (before : Fires id m m') (now : Int) (fault : Option String)
      (trigger : Trigger) : Fires id m (m'.fire now fault id trigger).manager

theorem Fires.trans {m'' : Manager} (first : Fires id m m') (second : Fires id m' m'') :
    Fires id m m'' := by
  induction second with
  | none => exact first
  | fire _ now fault trigger ih => exact .fire ih now fault trigger

theorem fires_call (m : Manager) (id : CapsuleID) (r : Reported) :
    Fires id m (call m id r).manager := by
  obtain ⟨now, first, second, report⟩ := r
  cases report with
  | running =>
    have both : Fires id m
        ((m.startExecution now first id).manager.markRunning now second id).manager :=
      (Fires.none.fire now first .executionStart).fire now second .containerReady
    simp only [call, markRunning]
    split <;> exact both
  | failed reason => exact Fires.none.fire now first .executionFailed
  | stopped => exact (Fires.none.fire now first .stopRequested).fire now second .containerStopped

theorem fires_after (id : CapsuleID) (reports : List Reported) (m : Manager) :
    Fires id m (after id reports m) := by
  induction reports generalizing m with
  | nil => exact .none
  | cons head rest ih => exact (fires_call m id head).trans (ih _)

theorem Fires.tracked (fired : Fires id m m') (tracked : m.Tracked) : m'.Tracked := by
  induction fired with
  | none => exact tracked
  | fire _ now fault trigger ih =>
    exact ih.step (a := ⟨now, fault, Option.none, .fire id trigger⟩) rfl

theorem Fires.isSome_get (fired : Fires id m m') : (m'.get id).isSome = (m.get id).isSome := by
  induction fired with
  | none => rfl
  | @fire m' _ now fault trigger ih =>
    cases m'.fire_spec now fault id trigger with
    | moved _ _ _ gets => rw [gets, if_pos rfl, Option.isSome_map, ih]
    | refused _ _ _ store =>
      rw [Manager.get, store]
      exact ih

theorem permit_executionFailed (source target : CapsuleStatus) :
    permit source .executionFailed = some target ↔
      (source = .assigned ∨ source = .executing) ∧ target = .announced := by
  cases source <;> simp [permit, eq_comm]

/--
A failure that is reported takes the capsule to `announced` when its container was not yet running.
-/
theorem failure_announces {start : Store} {c : Capsule}
    (reached : Reach Manager.step (fun _ _ => True) (Manager.new start) m)
    (stored : m.get id = some c) (reports : List Reported) (now : Int) (fault : Option String)
    (reason : String) :
    let before := after id reports m
    let failed := (markFailed before now fault id reason).manager
    ((failed.status id = .ok .announced ∧ (failed.get id).map Capsule.status = some .announced) ↔
      before.status id = .ok .assigned ∨ before.status id = .ok .executing ∨
        before.status id = .ok .announced ∧
          (before.get id).map Capsule.status = some .announced) ∧
    (before.status id = .ok .running → failed.status id = .ok .running) := by
  intro before failed
  -- The capsule is still stored and has a machine.
  have fired : Fires id m before := fires_after id reports m
  have tracked : before.Tracked := fired.tracked
    (reached.invariant Manager.Tracked (Manager.tracked_new start) fun _ _ _ paired _ stepped =>
      paired.step stepped)
  have present : (before.get id).isSome = true := by rw [fired.isSome_get, stored]; rfl
  obtain ⟨old, found⟩ := Option.isSome_iff_exists.mp present
  obtain ⟨source, here⟩ := Option.isSome_iff_exists.mp ((tracked id).trans present)
  rw [Manager.status_of_state here, found]
  cases before.fire_spec now fault id .executionFailed with
  | moved there permitted _ gets states =>
    rw [here] at there
    cases there
    obtain ⟨early, rfl⟩ := (permit_executionFailed _ _).mp permitted
    have arrived : failed.state id = some .announced := (states id).trans (if_pos rfl)
    have cached : failed.get id = some (old.moveTo .announced now) := by
      rw [show failed.get id = _ from gets id, if_pos rfl, found]
      rfl
    rw [Manager.status_of_state arrived, cached]
    rcases early with rfl | rfl <;> simp [Capsule.moveTo]
  | refused forbidden _ _ store states =>
    have stays : failed.state id = some source := (states id).trans here
    have cached : failed.get id = some old := by
      rw [← found]
      exact congrArg (Store.get · id) store
    have late : ¬ (source = .assigned ∨ source = .executing) := fun early => by
      have permitted := (permit_executionFailed source .announced).mpr ⟨early, rfl⟩
      rw [forbidden source here] at permitted
      cases permitted
    rw [Manager.status_of_state stays, cached]
    simp only [Except.ok.injEq, Option.map_some, Option.some.injEq]
    exact ⟨by tauto, fun running => running⟩

def elected : List Manager.Action :=
  [Manager.accepted (.create "web" "cluster" (bareSpec ⟨0, 0, 0⟩)),
    Manager.accepted (.fire "web" .electionStarted), Manager.accepted (.fire "web" .electionWon)]

/-- A container that has started crashes, and the capsule is still running. -/
theorem crash_leaves_running :
    ∃ m, Reach Manager.step (fun _ _ => True) (Manager.new (.openStore ∅)) m ∧
      (m.get "web").isSome = true ∧
      (markFailed (after "web" [⟨0, none, none, .running⟩] m) 0 none "web" "exit 1").manager.status
        "web" = .ok .running := by
  obtain ⟨m, reached, ends⟩ := Reach.exists_of_actions Manager.step (Manager.new (.openStore ∅))
    elected
    (fun m => (m.get "web").isSome = true ∧
      (markFailed (after "web" [⟨0, none, none, .running⟩] m) 0 none "web" "exit 1").manager.state
      "web" = some .running) (by decide +kernel)
  exact ⟨m, reached, ends.1, Manager.status_of_state ends.2⟩

/-- A container that fails to start takes its capsule back to `announced`. -/
theorem failure_announces_unstarted :
    ∃ m, Reach Manager.step (fun _ _ => True) (Manager.new (.openStore ∅)) m ∧
      (markFailed (after "web" [] m) 0 none "web" "pull failed").manager.status "web"
        = .ok .announced := by
  obtain ⟨m, reached, ends⟩ := Reach.exists_of_actions Manager.step (Manager.new (.openStore ∅))
    elected (fun m => (m.get "web").isSome = true ∧ m.state "web" = some .assigned)
    (by decide +kernel)
  obtain ⟨c, stored⟩ := Option.isSome_iff_exists.mp ends.1
  have announces := failure_announces reached stored [] 0 none "pull failed"
  exact ⟨m, reached, (announces.1.mpr (.inl (Manager.status_of_state ends.2))).1⟩

end Falak.Node
