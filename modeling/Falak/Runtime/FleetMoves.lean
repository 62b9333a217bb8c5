import Falak.Runtime.Fleet

/-! What a step on a node can do. -/

namespace Falak.Runtime

open Node (RuntimeSpec)
open Snapshot (Record Store)

namespace Fleet

inductive Move (captured : ContainerStatus) (f : Fleet) : FleetAction → Fleet → Prop
  | unread {capsuleID replicaID cID err : String} {k : Nat} {fault : Option String} {m : Machine}
      (named : cID = containerID capsuleID replicaID) (free : f.errands (cID, k) = .none)
      (begun : (f.machines cID).begin k (.unread err) = some m) :
      Move captured f (.begin capsuleID replicaID k (.error err) fault) (f.set cID m)
  | found {capsuleID replicaID cID : String} {k : Nat} {spec : RuntimeSpec} {fault : Option String}
      {r : Record} {m : Machine} (named : cID = containerID capsuleID replicaID)
      (free : f.errands (cID, k) = .none)
      (stored : f.store.records.lookup (Job.mk capsuleID spec).key = some r)
      (begun : (f.machines cID).begin k .restore = some m) :
      Move captured f (.begin capsuleID replicaID k (.ok spec) fault)
        ((f.assign (cID, k) ⟨capsuleID, spec⟩).set cID m)
  | asks {capsuleID replicaID cID : String} {k : Nat} {spec : RuntimeSpec} {fault : Option String}
      (named : cID = containerID capsuleID replicaID) (free : f.errands (cID, k) = .none)
      (idle : ((f.machines cID).launches k).starter = .idle) :
      Move captured f (.begin capsuleID replicaID k (.ok spec) fault)
        ((f.assign (cID, k) ⟨capsuleID, spec⟩).note (cID, k) .pulling)
  -- The other nodes have answered.
  | absent {cID : String} {k : Nat} {disk : Disk} {m : Machine}
      (asked : f.errands (cID, k) = .pulling)
      (begun : (f.machines cID).begin k .cold = some m) :
      Move captured f (.asked cID k disk none)
        (({ f with store.disk := disk }.note (cID, k) .none).set cID m)
  | received {cID checksum : String} {k : Nat} {disk : Disk} {now size : Int} {m : Machine}
      {r : Record} (asked : f.errands (cID, k) = .pulling) (unused : r.inUse = false)
      (begun : (f.machines cID).begin k .restore = some m) :
      Move captured f (.asked cID k disk (some (now, size, checksum)))
        (({ f with
            store.disk := disk
            store.records := f.store.records.insert (f.jobs (cID, k)).key r }.note
              (cID, k) .none).set cID m)
  -- The goroutines of a container go on.
  | launch {cID : String} {k : Nat} {a : Action} {m : Machine} (free : f.errands (cID, k) = .none)
      (own : Machine.number a = some k) (later : ∀ k way, a ≠ .begin k way)
      (taken : (f.machines cID).step (f.setup captured (cID, k)) a = some m) :
      Move captured f (.goroutine cID a) (f.proceed cID k m)
  | goroutine {cID : String} {k : Nat} {a : Action} {m : Machine}
      (later : ∀ k way, a ≠ .begin k way)
      (taken : (f.machines cID).step (f.setup captured (cID, k)) a = some m) :
      Move captured f (.goroutine cID a) (f.set cID m)
  -- A launch calls the store.
  | marks {cID checksum : String} {k : Nat} {fault : Option String} {now later zone size : Int}
      (here : f.errands (cID, k) = .marking) :
      Move captured f (.call cID k fault now later zone size checksum)
        ((f.tryStore (f.store.setInUse fault (f.jobs (cID, k)).capsuleID (f.jobs (cID, k)).tag
          true)).note (cID, k) .touching)
  | touches {cID checksum : String} {k : Nat} {fault : Option String} {now later zone size : Int}
      (here : f.errands (cID, k) = .touching) :
      Move captured f (.call cID k fault now later zone size checksum)
        ((f.tryStore (f.store.touchAccess fault (f.jobs (cID, k)).capsuleID (f.jobs (cID, k)).tag
          now)).note (cID, k) .none)
  | records {cID checksum : String} {k : Nat} {fault : Option String} {now later zone size : Int}
      {path : Path} (here : f.errands (cID, k) = .recording) :
      Move captured f (.call cID k fault now later zone size checksum)
        ((f.tryStore (f.store.put fault
          ((f.jobs (cID, k)).record path now later zone size checksum))).note (cID, k) .none)
  | beginUpdate {j : Nat} {u : Update} {pc : Updater} :
      Move captured f (.beginUpdate j u) { f with updates := Function.update f.updates j pc }
  | goes {j k : Nat} {fault : Option String} {unhealthy : Bool} {pc : Updater} :
      Move captured f (.update j k fault unhealthy)
        { f with updates := Function.update f.updates j pc }
  | replaces {j k : Nat} {fault : Option String} {unhealthy : Bool} {pc : Updater} {cID : String}
      {slot : Slot} :
      Move captured f (.update j k fault unhealthy)
        { f.setSlot cID slot with updates := Function.update f.updates j pc }
  | cancels {j k : Nat} {fault : Option String} {unhealthy : Bool} {pc : Updater} {cID : String} :
      Move captured f (.update j k fault unhealthy)
        { f.set cID { (f.machines cID).cancelRunning with running := none } with
          updates := Function.update f.updates j pc }
  | registers {j k : Nat} {fault : Option String} {unhealthy : Bool} {pc : Updater} {cID : String}
      {job : Job} (free : f.errands (cID, k) = .none)
      (idle : ((f.machines cID).launches k).starter = .idle) :
      Move captured f (.update j k fault unhealthy)
        { f.onContainerRunning captured cID k job with updates := Function.update f.updates j pc }

variable {captured : ContainerStatus} {f f' : Fleet} {a : FleetAction} {k : Nat}
  {fault : Option String} {cID : String}

theorem move_begin {capsuleID replicaID : String} {getSpec : Except String RuntimeSpec}
    (taken : f.begin capsuleID replicaID k getSpec fault = some f') :
    Move captured f (.begin capsuleID replicaID k getSpec fault) f' := by
  unfold Fleet.begin at taken
  dsimp only at taken
  split_ifs at taken with free
  cases getSpec with
  | error err =>
    obtain ⟨m, begun, rfl⟩ := Option.map_eq_some_iff.mp taken
    exact .unread rfl free.1 begun
  | ok spec =>
    dsimp only at taken
    split at taken
    · rename_i r found
      obtain ⟨m, begun, rfl⟩ := Option.map_eq_some_iff.mp taken
      have stored := Except.ok.inj (Snapshot.failing_eq_ok.mp found).2
      exact .found rfl free.1 stored begun
    all_goals
      cases taken
      exact .asks rfl free.1 free.2

theorem move_asked {disk : Disk} {received : Option (Int × Int × String)}
    (taken : f.asked cID k disk received = some f') :
    Move captured f (.asked cID k disk received) f' := by
  unfold Fleet.asked at taken
  dsimp only at taken
  split_ifs at taken with asked
  cases received with
  | none =>
    obtain ⟨m, begun, rfl⟩ := Option.map_eq_some_iff.mp taken
    exact .absent asked begun
  | some answer =>
    obtain ⟨m, begun, rfl⟩ := Option.map_eq_some_iff.mp taken
    exact .received asked rfl begun

theorem move_goroutine {a : Action} (taken : f.goroutine captured cID a = some f') :
    Move captured f (.goroutine cID a) f' := by
  -- Only starts and captures have errands.
  unfold Fleet.goroutine at taken
  cases a with
  | begin => cases taken
  | starter k fault | capture k fault =>
    dsimp only at taken
    split_ifs at taken with free
    obtain ⟨m, stepped, rfl⟩ := Option.map_eq_some_iff.mp taken
    exact .launch free rfl (by simp) stepped
  | watcher | watcherDone | probe | checker | checkerDone | crash | stop =>
    obtain ⟨m, stepped, rfl⟩ := Option.map_eq_some_iff.mp taken
    exact .goroutine (by simp) stepped

theorem move_call {checksum : String} {now later zone size : Int}
    (taken : f.call cID k fault now later zone size checksum = some f') :
    Move captured f (.call cID k fault now later zone size checksum) f' := by
  -- The errand says which call is made.
  unfold Fleet.call at taken
  cases errand : f.errands (cID, k) with
  | none | pulling =>
    simp only [errand] at taken
    cases taken
  | marking =>
    simp only [errand] at taken
    cases taken
    exact .marks errand
  | touching =>
    simp only [errand] at taken
    cases taken
    exact .touches errand
  | recording =>
    simp only [errand] at taken
    cases taken
    exact .records errand

theorem move_update {j : Nat} {unhealthy : Bool}
    (taken : f.updateStep captured j k fault unhealthy = some f') :
    Move captured f (.update j k fault unhealthy) f' := by
  unfold Fleet.updateStep at taken
  cases update : f.updates j with
  | idle | returned err => simp [update] at taken
  | running u pc =>
    simp only [update] at taken
    cases pc with
    | pulling =>
      dsimp only at taken
      split at taken <;> cases taken <;> exact .goes
    | creating | starting =>
      dsimp only at taken
      split at taken <;> cases taken
      · exact .goes
      · exact .replaces
    | waiting =>
      dsimp only at taken
      split at taken <;> split_ifs at taken <;> cases taken <;> exact .goes
    | stopping err | removing err | stoppingOld | removingOld =>
      cases taken
      exact .replaces
    | dropping =>
      cases taken
      exact .cancels
    | registering =>
      dsimp only at taken
      split_ifs at taken with free
      cases taken
      exact .registers free.1 free.2

theorem move_of_act (stepped : f.act captured a = some f') : Move captured f a f' := by
  cases a with
  | begin => exact move_begin stepped
  | asked => exact move_asked stepped
  | goroutine => exact move_goroutine stepped
  | call => exact move_call stepped
  | update => exact move_update stepped
  | beginUpdate j u =>
    simp only [Fleet.act] at stepped
    split at stepped <;> cases stepped
    exact .beginUpdate

variable {cID name : String} {k : Nat} {m : Machine}

theorem origins_set {key : String × String}
    (origin : (f.set name m).origins.lookup cID = some key) : f.origins.lookup cID = some key := by
  by_cases same : cID = name
  · subst same
    simp only [Fleet.set] at origin
    split at origin
    · rw [AList.lookup_erase] at origin
      cases origin
    · exact origin
  · rwa [origins_set_of_ne same] at origin

theorem Move.places (move : Move captured f a f') : f'.places = f.places := by
  cases move with
  | launch =>
    unfold proceed
    dsimp only
    split_ifs <;> rfl
  | _ => rfl

theorem Move.errands (move : Move captured f a f') {place : String × Nat}
    (errand : f'.errands place ≠ .none) : f.errands place ≠ .none ∨ place ∈ f.visits a := by
  have noted {g : Fleet} {own : String × Nat} {e : Errand} (same : g.errands = f.errands)
      (visited : own ∈ f.visits a) (errand : (g.note own e).errands place ≠ .none) :
      f.errands place ≠ .none ∨ place ∈ f.visits a := by
    by_cases here : place = own
    · exact .inr (here ▸ visited)
    · rw [errands_note_of_ne here, same] at errand
      exact .inl errand
  cases move with
  | asks named =>
    subst named
    exact noted rfl (List.mem_singleton_self _) errand
  | absent | received | marks | touches | records =>
    exact noted rfl (List.mem_singleton_self _) errand
  | @launch cID k a m _ own =>
    have visited : (cID, k) ∈ f.visits (.goroutine cID a) := by simp [visits, own]
    unfold proceed at errand
    dsimp only at errand
    split_ifs at errand
    · exact noted rfl visited errand
    · exact noted rfl visited errand
    · exact .inl errand
  | _ => exact .inl errand

end Fleet

end Falak.Runtime
