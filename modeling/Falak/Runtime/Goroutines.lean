import Falak.Runtime.Handler

/-!
The goroutines around one container: the start, the watcher, the health checker, the capture of a
snapshot and the stop.

They share the container, the entry of the handler's table of watched containers, and the contexts
that cancel a watch. Every call of the runtime and every section under the lock is one step.
-/

namespace Falak.Runtime

open Node (RuntimeSpec)

structure Setup where
  cID : String
  spec : RuntimeSpec
  snapshots : Bool
  captured : ContainerStatus := .checkpointed

inductive Starter
  | idle
  | restoring
  | pulling
  | creating
  | starting
  | removing (reason : String)
  | failing (reason : String)
  | registering (cold : Bool)
  | ended
  deriving DecidableEq

inductive Watcher
  | off
  | waiting (restarts : Nat)
  | restarting (restarts : Nat) (exitCode : Int)
  | dropping (restarts : Nat) (exitCode : Int)
  | reporting (restarts : Nat) (exitCode : Int)
  | ended
  deriving DecidableEq

inductive Checker
  | off
  | waiting (failures : Nat)
  | reporting
  | cancelling
  | ended
  deriving DecidableEq

inductive Capture
  | off
  | checkpointing
  | restarting
  | dropping (err : String)
  | reporting (err : String)
  | ended
  deriving DecidableEq

inductive Stopper
  | idle
  | stopping
  | removing
  | marking
  | returned (err : Option String)
  deriving DecidableEq

structure Launch where
  starter : Starter := .idle
  watcher : Watcher := .off
  checker : Checker := .off
  capture : Capture := .off
  cancelled : Bool := false
  crashed : Bool := false
  charges : Nat := 0
  stopped : Bool := false
  deriving DecidableEq

structure Verdict where
  launch : Nat
  reason : String
  runs : Bool
  watched : Bool
  stopped : Bool
  deriving DecidableEq

structure Restart where
  launch : Nat
  stopped : Bool
  deriving DecidableEq

structure Machine where
  slot : Slot
  /-- The launch whose watch is in the table. -/
  running : Option Nat
  launches : Nat → Launch
  stoppers : Nat → Stopper
  last : Nat
  verdicts : List Verdict
  restarts : List Restart

inductive Way
  | unread (err : String)
  | restore
  | cold

inductive Action
  | begin (k : Nat) (way : Way)
  | starter (k : Nat) (fault : Option String)
  | watcher (k : Nat) (fault : Option String)
  | watcherDone (k : Nat)
  | probe (k : Nat) (healthy : Bool)
  | checker (k : Nat)
  | checkerDone (k : Nat)
  | capture (k : Nat) (fault : Option String)
  | crash (exitCode : Int)
  | stop (j : Nat) (fault : Option String)

namespace Machine

section Steps

variable (cfg : Setup) (m : Machine) (k : Nat)

variable (fault : Option String)

def modify (change : Launch → Launch) : Machine :=
  { m with launches := Function.update m.launches k (change (m.launches k)) }

def cancelRunning : Machine :=
  match m.running with
  | none => m
  | some k => m.modify k ({ · with cancelled := true })

def markFailed (reason : String) : Machine :=
  { m with
    verdicts := m.verdicts ++
      [⟨k, reason, m.slot.Runs, m.running.isSome, (m.launches k).stopped⟩] }

def restarted (slot : Slot) : Machine :=
  { m with slot := slot, restarts := m.restarts ++ [⟨k, (m.launches k).stopped⟩] }

def begin (way : Way) : Option Machine :=
  if (m.launches k).starter = .idle then
    let starter :=
      match way with
      | .unread err => .failing ("spec lookup failed: " ++ err)
      | .restore => .restoring
      | .cold => .pulling
    some { m.modify k fun _ => { starter := starter } with last := k }
  else none

def Launch.registered (launch : Launch) (cold : Bool) : Launch :=
  { launch with
    starter := .ended
    watcher := .waiting 0
    checker := if cfg.spec.healthCheck.isSome then .waiting 0 else .off
    capture := if cold && cfg.snapshots then .checkpointing else .off }

def starterStep : Option Machine :=
  let go (m : Machine) (pc : Starter) := some (m.modify k ({ · with starter := pc }))
  match (m.launches k).starter with
  | .idle | .ended => none
  | .restoring =>
    match Slot.restore fault m.slot with
    | .error _ => go m .pulling
    | .ok slot => go { m with slot := slot } (.registering false)
  | .pulling =>
    match fault with
    | some err => go m (.failing ("image pull failed: " ++ err))
    | none => go m .creating
  | .creating =>
    let config := applyCreateOptions (coldStartOptions cfg.spec)
    match Slot.create fault cfg.cID cfg.spec.image config m.slot with
    | .error err => go m (.failing ("create failed: " ++ err))
    | .ok slot => go { m with slot := slot } .starting
  | .starting =>
    match Slot.start fault cfg.cID m.slot with
    | .error err => go m (.removing ("start failed: " ++ err))
    | .ok slot => go { m with slot := slot } (.registering true)
  | .removing reason =>
    go { m with slot := (Slot.remove fault cfg.cID m.slot).toOption.getD m.slot } (.failing reason)
  | .failing reason => go (m.markFailed k reason) .ended
  | .registering cold =>
    some { m.cancelRunning.modify k (Launch.registered cfg · cold) with running := some k }

def exitReason (restarts : Nat) (exitCode : Int) : String :=
  "container exited with code " ++ toString exitCode ++ " after " ++ toString restarts ++
    " local restarts"

def watcherStep : Option Machine :=
  let go (m : Machine) (pc : Watcher) := some (m.modify k ({ · with watcher := pc }))
  match (m.launches k).watcher with
  | .off | .ended => none
  | .waiting restarts =>
    match Slot.inspect fault cfg.cID m.slot with
    | .error _ => some m
    | .ok c =>
      if c.status = .failed ∨ c.status = .stopped then
        if restarts < cfg.spec.failurePolicy.restartLimit then
          some (m.modify k fun launch =>
            { launch with
              watcher := .restarting (restarts + 1) c.exitCode
              charges := launch.charges + 1 })
        else go m (.dropping restarts c.exitCode)
      else some m
  | .restarting restarts exitCode =>
    match Slot.start fault cfg.cID m.slot with
    | .error _ => go m (.dropping restarts exitCode)
    | .ok slot => go (m.restarted k slot) (.waiting restarts)
  | .dropping restarts exitCode =>
    go { m with running := none } (.reporting restarts exitCode)
  | .reporting restarts exitCode => go (m.markFailed k (exitReason restarts exitCode)) .ended

def watcherDone : Option Machine :=
  match (m.launches k).watcher, (m.launches k).cancelled with
  | .waiting _, true => some (m.modify k ({ · with watcher := .ended }))
  | _, _ => none

/-- The ticker of a health checker fires, and its probe ends. -/
def probe (healthy : Bool) : Option Machine :=
  match (m.launches k).checker, cfg.spec.healthCheck with
  | .waiting failures, some hc =>
    let pc : Checker :=
      if healthy then .waiting 0
      else if hc.retries ≤ (failures + 1 : Nat) then .reporting
      else .waiting (failures + 1)
    some (m.modify k ({ · with checker := pc }))
  | _, _ => none

def checkerStep : Option Machine :=
  match (m.launches k).checker with
  | .reporting =>
    some ((m.markFailed k "health check exhausted retries").modify k
      ({ · with checker := .cancelling }))
  | .cancelling => some (m.modify k ({ · with checker := .ended, cancelled := true }))
  | _ => none

def checkerDone : Option Machine :=
  match (m.launches k).checker, (m.launches k).cancelled with
  | .waiting _, true => some (m.modify k ({ · with checker := .ended }))
  | _, _ => none

def captureStep : Option Machine :=
  let go (m : Machine) (pc : Capture) := some (m.modify k ({ · with capture := pc }))
  match (m.launches k).capture with
  | .off | .ended => none
  | .checkpointing =>
    match Slot.checkpoint fault cfg.cID m.slot with
    | .error _ => go m .ended
    | .ok slot =>
      go { m with slot := slot.map ({ · with status := cfg.captured }) } .restarting
  | .restarting =>
    match Slot.start fault cfg.cID m.slot with
    | .error err => go m (.dropping err)
    | .ok slot => go (m.restarted k slot) .ended
  | .dropping err => go { m.cancelRunning with running := none } (.reporting err)
  | .reporting err => go (m.markFailed k ("restart after checkpoint failed: " ++ err)) .ended

def crash (exitCode : Int) : Option Machine :=
  match m.slot with
  | none => none
  | some c =>
    if c.status = .running then
      let status : ContainerStatus := if exitCode = 0 then .stopped else .failed
      some ({ m with slot := some { c with status := status, exitCode := exitCode } }.modify m.last
        ({ · with crashed := true }))
    else none

def stopStep (j : Nat) (fault : Option String) : Option Machine :=
  let go (m : Machine) (pc : Stopper) :=
    some { m with stoppers := Function.update m.stoppers j pc }
  match m.stoppers j with
  | .returned _ => none
  | .idle => go { m.cancelRunning with running := none } .stopping
  | .stopping =>
    match Slot.stop fault cfg.cID m.slot with
    | .error err => go m (.returned (some ("runtime: stop " ++ cfg.cID ++ ": " ++ err)))
    | .ok slot => go { m with slot := slot } .removing
  | .removing =>
    -- An error of the removal is only logged.
    go { m with slot := (Slot.remove fault cfg.cID m.slot).toOption.getD m.slot } .marking
  | .marking =>
    go { m with launches := fun k => { m.launches k with stopped := true } } (.returned none)

def step (m : Machine) : Action → Option Machine
  | .begin k way => m.begin k way
  | .starter k fault => m.starterStep cfg k fault
  | .watcher k fault => m.watcherStep cfg k fault
  | .watcherDone k => m.watcherDone k
  | .probe k healthy => m.probe cfg k healthy
  | .checker k => m.checkerStep k
  | .checkerDone k => m.checkerDone k
  | .capture k fault => m.captureStep cfg k fault
  | .crash exitCode => m.crash exitCode
  | .stop j fault => m.stopStep cfg j fault

end Steps

def initial : Machine := ⟨none, none, fun _ => {}, fun _ => .idle, 0, [], []⟩

section Laws

variable {m : Machine} {k other : Nat} {change : Launch → Launch}

@[simp] theorem launches_modify_self : (m.modify k change).launches k = change (m.launches k) :=
  Function.update_self ..

theorem launches_modify_of_ne (apart : other ≠ k) :
    (m.modify k change).launches other = m.launches other := Function.update_of_ne apart ..

theorem forall_launches_modify {P : Nat → Launch → Prop} (own : P k (change (m.launches k)))
    (others : ∀ i, i ≠ k → P i (m.launches i)) (i : Nat) : P i ((m.modify k change).launches i) :=
  (Function.forall_update_iff m.launches P).mpr ⟨own, others⟩ i

end Laws

def restartable : RuntimeSpec :=
  { name := "web"
    image := "web:1"
    imageDigest := ""
    env := ∅
    networkMode := .bridge
    ports := []
    resources := ⟨1, 1, 128, 128⟩
    command := []
    logRetention := ⟨10, 10⟩
    snapshotTTL := 0
    maxSnapshots := 0
    healthCheck := none
    failurePolicy := ⟨1, 0, 0⟩
    registryUsername := []
    registryPassword := [] }

def bare : Setup := ⟨"falak-web-0", restartable, false, .checkpointed⟩

def launching : List Action := .begin 0 .cold :: List.replicate 4 (.starter 0 none)

def begun : Machine := initial.modify 0 fun _ => { starter := .pulling }

end Machine

end Falak.Runtime
