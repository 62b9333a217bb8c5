import Falak.Node.RuntimeAdapter
import Falak.Runtime.Engine

/-!
The handler that starts, updates and stops the container of a replica.

The watchers and the health checkers in the background are not part of these operations, and a
snapshot that is captured is captured before the operation ends.
-/

namespace Falak.Runtime

open Node (RuntimeSpec RuntimeHealthCheck Report)

def containerID (capsuleID replicaID : String) : String :=
  "falak-" ++ capsuleID ++ "-" ++ replicaID

def newContainerID (capsuleID replicaID : String) : String :=
  containerID capsuleID replicaID ++ "-new"

structure Handler where
  engine : Engine
  running : String → Bool
  reports : List Report

namespace Handler

def report (h : Handler) (r : Report) : Handler := { h with reports := h.reports ++ [r] }

def watch (h : Handler) (id : String) (watched : Bool) : Handler :=
  { h with running := Function.update h.running id watched }

def onContainerRunning (h : Handler) (cID : String) : Handler := (h.report .running).watch cID true

end Handler

section Start

structure Snapshots where
  hasLocal : Bool
  pull : Option (Except String String) := none

structure StartFaults where
  restore : Option String := none
  pull : Option String := none
  create : Option String := none
  start : Option String := none
  remove : Option String := none
  checkpoint : Option String := none
  restart : Option String := none

def coldStartPull (spec : RuntimeSpec) : PullConfig :=
  if spec.registryUsername ≠ [] then
    { username := spec.registryUsername, password := spec.registryPassword }
  else {}

def coldStartOptions (spec : RuntimeSpec) : List CreateOption :=
  [withNetworkMode spec.networkMode, withPortMappings spec.ports,
    withResourceLimits spec.resources, withEnv spec.env, withLogRetention spec.logRetention]
    ++ if spec.command.length > 0 then [withCommand spec.command] else []

variable (faults : StartFaults) (cID : String)

variable (h : Handler)

def captureSnapshot : Handler :=
  match h.engine.call cID (Slot.checkpoint faults.checkpoint cID) with
  | .error _ => h
  | .ok captured =>
    match captured.call cID (Slot.start faults.restart cID) with
    | .error err =>
      -- The container is dead, and no longer watched.
      ({ h with engine := captured }.watch cID false).report
        (.failed ("restart after checkpoint failed: " ++ err))
    | .ok restarted => { h with engine := restarted }

def coldStart (spec : RuntimeSpec) (snapshots : Option Snapshots) : Handler :=
  match h.engine.pull faults.pull spec.image (coldStartPull spec) with
  | .error err => h.report (.failed ("image pull failed: " ++ err))
  | .ok pulled =>
    let config := applyCreateOptions (coldStartOptions spec)
    match pulled.call cID (Slot.create faults.create cID spec.image config) with
    | .error err => { h with engine := pulled }.report (.failed ("create failed: " ++ err))
    | .ok created =>
      match created.call cID (Slot.start faults.start cID) with
      | .error err =>
        { h with engine := created.tryCall cID (Slot.remove faults.remove cID) }.report
          (.failed ("start failed: " ++ err))
      | .ok started =>
        let h := { h with engine := started }.onContainerRunning cID
        if snapshots.isSome then captureSnapshot faults cID h else h

def restoreFromSnapshot (spec : RuntimeSpec) (snapshots : Option Snapshots) :
    Handler :=
  match h.engine.call cID (Slot.restore faults.restore) with
  | .error _ => coldStart faults cID h spec snapshots
  | .ok restored => { h with engine := restored }.onContainerRunning cID

def Snapshots.found (s : Snapshots) : Bool :=
  s.hasLocal || s.pull.any fun pulled => pulled.toOption.any (· ≠ "")

def startContainer (getSpec : Except String RuntimeSpec) (snapshots : Option Snapshots) : Handler :=
  match getSpec with
  | .error err => h.report (.failed ("spec lookup failed: " ++ err))
  | .ok spec =>
    if snapshots.any Snapshots.found then restoreFromSnapshot faults cID h spec snapshots
    else coldStart faults cID h spec snapshots

end Start

section Update

structure UpdateFaults where
  pull : Option String := none
  create : Option String := none
  start : Option String := none
  inspect : Option String := none
  stopNew : Option String := none
  removeNew : Option String := none
  stopOld : Option String := none
  removeOld : Option String := none

structure Waiting where
  probes : List Bool := []
  done : Bool := false
  settled : ContainerStatus := .running

def exhausts (retries : Int) (failures : Int) : List Bool → Bool
  | [] => false
  | true :: rest => exhausts retries 0 rest
  | false :: rest => if retries ≤ failures + 1 then true else exhausts retries (failures + 1) rest

def rollingUpdateOptions (spec : RuntimeSpec) : List CreateOption :=
  -- The ports are not among them.
  [withNetworkMode spec.networkMode, withResourceLimits spec.resources, withEnv spec.env,
    withLogRetention spec.logRetention]
    ++ if spec.command.length > 0 then [withCommand spec.command] else []

variable (faults : UpdateFaults) (oldCID newCID : String)

variable (h : Handler)

def abortUpdate : Handler :=
  { h with
    engine := (h.engine.tryCall newCID (Slot.stop faults.stopNew newCID)).tryCall newCID
      (Slot.remove faults.removeNew newCID) }

def swapContainers : Handler :=
  let h := h.watch oldCID false
  { h with
    engine := (h.engine.tryCall oldCID (Slot.stop faults.stopOld oldCID)).tryCall oldCID
      (Slot.remove faults.removeOld oldCID) }.onContainerRunning newCID

def settle (e : Engine) (status : ContainerStatus) : Engine :=
  e.tryCall newCID (Slot.onContainer none newCID fun c => .ok (some { c with status := status }))

def isHealthy (e : Engine) : Bool :=
  (Slot.inspect faults.inspect newCID (e.containers newCID)).toOption.any (·.status = .running)

def finishUpdate (newSpec : RuntimeSpec) (w : Waiting) :
    Handler × Except String Unit :=
  let aborted (err : String) := (abortUpdate faults newCID h, Except.error err)
  match newSpec.healthCheck with
  | some _ =>
    if w.done then aborted "rolling update: health check failed or timed out, aborting"
    else if isHealthy faults newCID h.engine then
      -- No probe has to have succeeded.
      (swapContainers faults oldCID newCID h, .ok ())
    else aborted "rolling update: new container not healthy after probe window, aborting"
  | none =>
    if isHealthy faults newCID h.engine then (swapContainers faults oldCID newCID h, .ok ())
    else aborted "rolling update: new container not healthy, aborting"

def rollingUpdate (newSpec : RuntimeSpec) (w : Waiting) :
    Handler × Except String Unit :=
  match h.engine.pull faults.pull newSpec.image {} with
  | .error err => (h, .error ("rolling update: pull failed: " ++ err))
  | .ok pulled =>
    let config := applyCreateOptions (rollingUpdateOptions newSpec)
    match pulled.call newCID (Slot.create faults.create newCID newSpec.image config) with
    | .error err =>
      ({ h with engine := pulled }, .error ("rolling update: create failed: " ++ err))
    | .ok created =>
      match created.call newCID (Slot.start faults.start newCID) with
      | .error err =>
        ({ h with engine := created.tryCall newCID (Slot.remove faults.removeNew newCID) },
          .error ("rolling update: start failed: " ++ err))
      | .ok started =>
        let waited := settle newCID started w.settled
        finishUpdate faults oldCID newCID { h with engine := waited } newSpec w

end Update

section Stop

structure StopFaults where
  stop : Option String := none
  remove : Option String := none

def stopContainer (faults : StopFaults) (cID : String) (h : Handler) :
    Handler × Except String Unit :=
  let h := h.watch cID false
  match h.engine.call cID (Slot.stop faults.stop cID) with
  | .error err => (h, .error ("runtime: stop " ++ cID ++ ": " ++ err))
  | .ok stopped =>
    ({ h with engine := stopped.tryCall cID (Slot.remove faults.remove cID) }.report .stopped,
      .ok ())

end Stop

end Falak.Runtime
