import Falak.Runtime.FinalStop
import Falak.Snapshot.Eviction
import Falak.Snapshot.Transfer

/-! All containers of a node, with the store of snapshots that they share. -/

namespace Falak.Runtime

open Node (RuntimeSpec)
open Snapshot (Record Store)

structure Job where
  capsuleID : String
  spec : RuntimeSpec

namespace Job

variable (job : Job)

def tag : String := if job.spec.imageDigest = "" then job.spec.image else job.spec.imageDigest

def key : String × String := (job.capsuleID, job.tag)

/-- The record of a snapshot that was captured. It is not in use. -/
def record (path : Path) (createdAt lastAccessed zone size : Int) (checksum : String) : Record :=
  { capsuleID := job.capsuleID
    tag := job.tag
    checksum := checksum
    path := path
    size := size
    ttl := if job.spec.snapshotTTL = 0 then 72 * 3600 * second else job.spec.snapshotTTL
    createdAt := createdAt
    lastAccessed := lastAccessed
    zone := zone }

end Job

inductive Errand
  | none
  | pulling
  | marking
  | touching
  | recording
  deriving DecidableEq

structure Update where
  capsuleID : String
  replicaID : String
  newSpec : RuntimeSpec

namespace Update

variable (u : Update)

def oldCID : String := containerID u.capsuleID u.replicaID

def newCID : String := newContainerID u.capsuleID u.replicaID

end Update

inductive UpdatePc
  | pulling
  | creating
  | starting
  | waiting
  | stopping (err : String)
  | removing (err : String)
  | dropping
  | stoppingOld
  | removingOld
  | registering
  deriving DecidableEq

inductive Updater
  | idle
  | running (u : Update) (pc : UpdatePc)
  | returned (err : Option String)

structure Fleet where
  machines : String → Machine
  jobs : String × Nat → Job
  errands : String × Nat → Errand
  updates : Nat → Updater
  store : Store
  origins : AList fun _ : String => String × String
  /-- The containers and the numbers of what has begun there. -/
  places : List (String × Nat)

inductive FleetAction
  | begin (capsuleID replicaID : String) (k : Nat) (getSpec : Except String RuntimeSpec)
      (fault : Option String)
  | asked (cID : String) (k : Nat) (disk : Disk) (received : Option (Int × Int × String))
  | goroutine (cID : String) (a : Action)
  | call (cID : String) (k : Nat) (fault : Option String) (now later zone size : Int)
      (checksum : String)
  | beginUpdate (j : Nat) (u : Update)
  | update (j k : Nat) (fault : Option String) (unhealthy : Bool)

def Machine.number : Action → Option Nat
  | .begin k _ | .starter k _ | .watcher k _ | .watcherDone k | .probe k _ | .checker k
  | .checkerDone k | .capture k _ => some k
  | .crash _ => none
  | .stop j _ => some j

namespace Fleet

section Steps

variable (captured : ContainerStatus) (f : Fleet)

variable (place : String × Nat) (fault : Option String) (cID : String) (k : Nat)

def set (m : Machine) : Fleet :=
  { f with
    machines := Function.update f.machines cID m
    origins :=
      if m.slot.isNone || (f.machines cID).slot.isNone then f.origins.erase cID else f.origins }

def setSlot (slot : Slot) : Fleet :=
  f.set cID { f.machines cID with slot := slot }

def tryCall (change : Slot → Except String Slot) : Fleet :=
  f.setSlot cID ((change (f.machines cID).slot).toOption.getD (f.machines cID).slot)

def tryStore (result : Except String Store) : Fleet :=
  { f with store := result.toOption.getD f.store }

def note (errand : Errand) : Fleet :=
  { f with errands := Function.update f.errands place errand }

def assign (job : Job) : Fleet :=
  { f with jobs := Function.update f.jobs place job }

def setup : Setup := ⟨place.1, (f.jobs place).spec, true, captured⟩

/-- `startContainer` up to the first call of the runtime. -/
def begin (capsuleID replicaID : String) (k : Nat) (getSpec : Except String RuntimeSpec)
    (fault : Option String) : Option Fleet :=
  let cID := containerID capsuleID replicaID
  if f.errands (cID, k) = .none ∧ ((f.machines cID).launches k).starter = .idle then
    match getSpec with
    | .error err => ((f.machines cID).begin k (.unread err)).map (f.set cID)
    | .ok spec =>
      let job : Job := ⟨capsuleID, spec⟩
      match f.store.get fault capsuleID job.tag with
      | .ok (some _) =>
        ((f.machines cID).begin k .restore).map ((f.assign (cID, k) job).set cID)
      | .ok none | .error _ => some ((f.assign (cID, k) job).note (cID, k) .pulling)
  else none

def asked (disk : Disk) (received : Option (Int × Int × String)) :
    Option Fleet :=
  let job := f.jobs (cID, k)
  let f := { f with store := { f.store with disk := disk } }
  if f.errands (cID, k) = .pulling then
    match received with
    | none => ((f.machines cID).begin k .cold).map ((f.note (cID, k) .none).set cID)
    | some (now, size, checksum) =>
      let record := Snapshot.pulledRecord now job.capsuleID job.tag
        (f.store.snapshotPath job.capsuleID job.tag) size checksum
      ((f.machines cID).begin k .restore).map
        (((f.tryStore (f.store.put none record)).note (cID, k) .none).set cID)
  else none

def proceed (m : Machine) : Fleet :=
  let before := (f.machines cID).launches k
  let after := m.launches k
  if before.starter = .restoring ∧ after.starter = .registering false then
    { (f.set cID m).note (cID, k) .marking with
      origins := f.origins.insert cID (f.jobs (cID, k)).key }
  else if before.capture = .checkpointing ∧ after.capture = .restarting then
    (f.set cID m).note (cID, k) .recording
  else f.set cID m

def goroutine (a : Action) : Option Fleet :=
  match a with
  | .begin .. => none
  | .starter k _ | .capture k _ =>
    if f.errands (cID, k) = .none then
      ((f.machines cID).step (f.setup captured (cID, k)) a).map (f.proceed cID k)
    else none
  | .watcher k _ | .watcherDone k | .probe k _ | .checker k | .checkerDone k =>
    ((f.machines cID).step (f.setup captured (cID, k)) a).map (f.set cID)
  | .crash _ | .stop .. =>
    ((f.machines cID).step (f.setup captured (cID, 0)) a).map (f.set cID)

def call (fault : Option String) (now later zone size : Int) (checksum : String) : Option Fleet :=
  let job := f.jobs (cID, k)
  match f.errands (cID, k) with
  | .none | .pulling => none
  | .marking =>
    some ((f.tryStore (f.store.setInUse fault job.capsuleID job.tag true)).note (cID, k) .touching)
  | .touching =>
    some ((f.tryStore (f.store.touchAccess fault job.capsuleID job.tag now)).note (cID, k) .none)
  | .recording =>
    let path := f.store.snapshotPath job.capsuleID job.tag
    some ((f.tryStore (f.store.put fault (job.record path now later zone size checksum))).note
      (cID, k) .none)

def healthy : Bool :=
  (Slot.inspect fault cID (f.machines cID).slot).toOption.any (·.status = .running)

def onContainerRunning (job : Job) : Fleet :=
  let f := f.assign (cID, k) job
  f.set cID
    { (f.machines cID).cancelRunning.modify k
        (Machine.Launch.registered (f.setup captured (cID, k)) · false) with
      running := some k }

def updateStep (j k : Nat) (fault : Option String) (unhealthy : Bool) : Option Fleet :=
  match f.updates j with
  | .idle | .returned _ => none
  | .running u pc =>
    let go (f : Fleet) (pc : UpdatePc) :=
      some { f with updates := Function.update f.updates j (.running u pc) }
    let finish (f : Fleet) (err : Option String) :=
      some { f with updates := Function.update f.updates j (.returned err) }
    match pc with
    | .pulling =>
      match fault with
      | some err => finish f (some ("rolling update: pull failed: " ++ err))
      | none => go f .creating
    | .creating =>
      let config := applyCreateOptions (rollingUpdateOptions u.newSpec)
      match Slot.create fault u.newCID u.newSpec.image config (f.machines u.newCID).slot with
      | .error err => finish f (some ("rolling update: create failed: " ++ err))
      | .ok slot => go (f.setSlot u.newCID slot) .starting
    | .starting =>
      match Slot.start fault u.newCID (f.machines u.newCID).slot with
      | .error err => go f (.removing ("rolling update: start failed: " ++ err))
      | .ok slot => go (f.setSlot u.newCID slot) .waiting
    | .waiting =>
      match u.newSpec.healthCheck with
      | some _ =>
        if unhealthy then
          go f (.stopping "rolling update: health check failed or timed out, aborting")
        else if f.healthy fault u.newCID then go f .dropping
        else
          go f (.stopping "rolling update: new container not healthy after probe window, aborting")
      | none =>
        if f.healthy fault u.newCID then go f .dropping
        else go f (.stopping "rolling update: new container not healthy, aborting")
    | .stopping err => go (f.tryCall u.newCID (Slot.stop fault u.newCID)) (.removing err)
    | .removing err => finish (f.tryCall u.newCID (Slot.remove fault u.newCID)) (some err)
    | .dropping =>
      go (f.set u.oldCID { (f.machines u.oldCID).cancelRunning with running := none }) .stoppingOld
    | .stoppingOld => go (f.tryCall u.oldCID (Slot.stop fault u.oldCID)) .removingOld
    | .removingOld => go (f.tryCall u.oldCID (Slot.remove fault u.oldCID)) .registering
    | .registering =>
      if f.errands (u.newCID, k) = .none ∧
          ((f.machines u.newCID).launches k).starter = .idle then
        finish (f.onContainerRunning captured u.newCID k ⟨u.capsuleID, u.newSpec⟩) none
      else none

def act : FleetAction → Option Fleet
  | .begin capsuleID replicaID k getSpec fault => f.begin capsuleID replicaID k getSpec fault
  | .asked cID k disk received => f.asked cID k disk received
  | .goroutine cID a => f.goroutine captured cID a
  | .call cID k fault now later zone size checksum =>
    f.call cID k fault now later zone size checksum
  | .beginUpdate j u =>
    match f.updates j with
    | .idle => some { f with updates := Function.update f.updates j (.running u .pulling) }
    | .running .. | .returned _ => none
  | .update j k fault unhealthy => f.updateStep captured j k fault unhealthy

/-- The places at which a step has something begin or go on. -/
def visits : FleetAction → List (String × Nat)
  | .begin capsuleID replicaID k _ _ => [(containerID capsuleID replicaID, k)]
  | .asked cID k _ _ | .call cID k _ _ _ _ _ _ => [(cID, k)]
  | .goroutine cID a => (Machine.number a).toList.map (cID, ·)
  | .beginUpdate j u => [(u.newCID, j)]
  | .update j k _ _ =>
    match f.updates j with
    | .running u _ => [(u.newCID, k)]
    | .idle | .returned _ => []

def step (a : FleetAction) : Option Fleet :=
  (f.act captured a).map fun f' => { f' with places := f.visits a ++ f'.places }

end Steps

section Laws

variable {f : Fleet} {cID name : String} {m : Machine} {place other : String × Nat}
  {errand : Errand} {job : Job}

@[simp] theorem machines_set_self : (f.set cID m).machines cID = m := Function.update_self ..

theorem machines_set_of_ne (apart : name ≠ cID) :
    (f.set cID m).machines name = f.machines name := Function.update_of_ne apart ..

theorem origins_set_of_ne (apart : name ≠ cID) :
    (f.set cID m).origins.lookup name = f.origins.lookup name := by
  unfold set
  split
  · exact AList.lookup_erase_ne apart
  · rfl

@[simp] theorem errands_note_self : (f.note place errand).errands place = errand :=
  Function.update_self ..

theorem errands_note_of_ne (apart : other ≠ place) :
    (f.note place errand).errands other = f.errands other := Function.update_of_ne apart ..

@[simp] theorem jobs_assign_self : (f.assign place job).jobs place = job :=
  Function.update_self ..

theorem jobs_assign_of_ne (apart : other ≠ place) :
    (f.assign place job).jobs other = f.jobs other := Function.update_of_ne apart ..

end Laws

def initial (jobs : String × Nat → Job) (store : Store) : Fleet :=
  ⟨fun _ => .initial, jobs, fun _ => .none, fun _ => .idle, store, ∅, []⟩

def Flagged (f : Fleet) (key : String × String) : Prop :=
  ∃ r, f.store.records.lookup key = some r ∧ r.inUse = true

def Live (f : Fleet) (key : String × String) : Prop :=
  ∃ cID, f.origins.lookup cID = some key ∧ (f.machines cID).slot.Runs

instance (f : Fleet) (key : String × String) : Decidable (f.Flagged key) :=
  decidable_of_iff ((f.store.records.lookup key).any Record.inUse = true)
    (by simp [Flagged, Option.any_eq_true])

instance (f : Fleet) (key : String × String) : Decidable (f.Live key) :=
  decidable_of_iff (∃ cID ∈ f.origins.keys, f.origins.lookup cID = some key ∧
      (f.machines cID).slot.Runs)
    ⟨fun ⟨cID, _, live⟩ => ⟨cID, live⟩, fun ⟨cID, origin, runs⟩ =>
      ⟨cID, AList.lookup_isSome.mp (Option.isSome_of_mem origin), origin, runs⟩⟩

end Fleet

def Starter.atRest : Starter → Bool
  | .idle | .ended => true
  | .restoring | .pulling | .creating | .starting | .removing _ | .failing _ | .registering _ =>
    false

def Watcher.atRest : Watcher → Bool
  | .off | .waiting _ | .ended => true
  | .restarting .. | .dropping .. | .reporting .. => false

def Checker.atRest : Checker → Bool
  | .off | .waiting _ | .ended => true
  | .reporting | .cancelling => false

def Capture.atRest : Capture → Bool
  | .off | .ended => true
  | .checkpointing | .restarting | .dropping _ | .reporting _ => false

def Stopper.atRest : Stopper → Bool
  | .idle | .returned _ => true
  | .stopping | .removing | .marking => false

def Updater.atRest : Updater → Bool
  | .idle | .returned _ => true
  | .running .. => false

def Launch.atRest (launch : Launch) : Bool :=
  launch.starter.atRest && launch.watcher.atRest && launch.checker.atRest && launch.capture.atRest

def Fleet.atRest (f : Fleet) (cID : String) (i : Nat) : Bool :=
  ((f.machines cID).launches i).atRest && ((f.machines cID).stoppers i).atRest
    && f.errands (cID, i) = .none && (f.updates i).atRest

def Fleet.Quiescent (f : Fleet) : Prop := ∀ place ∈ f.places, f.atRest place.1 place.2 = true

instance (f : Fleet) : Decidable f.Quiescent := by
  unfold Fleet.Quiescent
  infer_instance

end Falak.Runtime
