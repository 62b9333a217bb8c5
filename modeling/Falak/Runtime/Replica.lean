import Falak.Runtime.RollingUpdate

/-! The containers of one replica over starts, rolling updates and stops. -/

namespace Falak.Runtime

open Node (RuntimeSpec)

def SameElsewhere (id : String) (h h' : Handler) : Prop :=
  ∀ other, other ≠ id → h'.engine.containers other = h.engine.containers other ∧
    h'.running other = h.running other

def Absent (h : Handler) (id : String) : Prop :=
  h.engine.containers id = none ∧ h.running id = false

variable {h : Handler} {cID : String} {spec : RuntimeSpec} {snapshots : Option Snapshots}

theorem up_onContainerRunning (c : Container) (status : c.status = .running) (e : Engine)
    (same : e.containers = h.engine.containers) :
    Up ({ h with engine := e.put cID (some c) }.onContainerRunning cID) cID ∧
      SameElsewhere cID h ({ h with engine := e.put cID (some c) }.onContainerRunning cID) := by
  refine ⟨⟨⟨c, Engine.containers_put_self, status⟩, Function.update_self ..⟩, ?_⟩
  intro other apart
  refine ⟨(Engine.containers_put_of_ne apart).trans (congrFun same other), ?_⟩
  exact Function.update_of_ne apart ..

theorem captureSnapshot_up (up : Up h cID) :
    Up (captureSnapshot {} cID h) cID ∧ SameElsewhere cID h (captureSnapshot {} cID h) := by
  obtain ⟨⟨c, there, status⟩, watched⟩ := up
  have captured : Slot.checkpoint none cID (h.engine.containers cID)
      = .ok (some { c with status := .checkpointed }) := by
    rw [there]
    simp [Slot.checkpoint, Slot.onContainer, status]
  have restarted : Slot.start none cID (some { c with status := .checkpointed })
      = .ok (some { c with status := .running }) := rfl
  have whole : captureSnapshot {} cID h
      = { h with engine := h.engine.put cID (some { c with status := .running }) } := by
    unfold captureSnapshot
    rw [Engine.call_ok captured]
    simp only
    rw [Engine.call_put_ok restarted]
  rw [whole]
  exact ⟨⟨⟨_, Engine.containers_put_self, rfl⟩, watched⟩,
    fun other apart => ⟨Engine.containers_put_of_ne apart, rfl⟩⟩

theorem SameElsewhere.trans {h' h'' : Handler} (first : SameElsewhere cID h h')
    (second : SameElsewhere cID h' h'') : SameElsewhere cID h h'' := fun other apart =>
  ⟨(second other apart).1.trans (first other apart).1,
    (second other apart).2.trans (first other apart).2⟩

theorem coldStart_free (free : h.engine.containers cID = none) :
    Up (coldStart {} cID h spec snapshots) cID ∧
      SameElsewhere cID h (coldStart {} cID h spec snapshots) := by
  let c : Container := ⟨spec.image, applyCreateOptions (coldStartOptions spec), .running, 0⟩
  let pulled : Engine :=
    { h.engine with pulled := (spec.image, coldStartPull spec) :: h.engine.pulled }
  obtain ⟨up, same⟩ : Up ({ h with engine := pulled.put cID (some c) }.onContainerRunning cID) cID ∧
      SameElsewhere cID h ({ h with engine := pulled.put cID (some c) }.onContainerRunning cID) :=
    up_onContainerRunning c rfl pulled rfl
  have started : coldStart {} cID h spec snapshots
      = if snapshots.isSome then
          captureSnapshot {} cID
            ({ h with engine := pulled.put cID (some c) }.onContainerRunning cID)
        else { h with engine := pulled.put cID (some c) }.onContainerRunning cID := by
    simp [coldStart, Engine.pull, Engine.call, Slot.create, free, Except.map, Slot.start,
      Slot.onContainer, pulled, c]
  rw [started]
  split
  · obtain ⟨up', same'⟩ := captureSnapshot_up up
    exact ⟨up', same.trans same'⟩
  · exact ⟨up, same⟩

variable (spec snapshots) in
theorem coldStart_taken (taken : (h.engine.containers cID).isSome) :
    (coldStart {} cID h spec snapshots).engine.containers = h.engine.containers ∧
      (coldStart {} cID h spec snapshots).running = h.running := by
  obtain ⟨c, there⟩ := Option.isSome_iff_exists.mp taken
  simp [coldStart, Engine.pull, Engine.call, Slot.create, there, Except.map, Handler.report]

theorem restoreFromSnapshot_up :
    Up (restoreFromSnapshot {} cID h spec snapshots) cID ∧
      SameElsewhere cID h (restoreFromSnapshot {} cID h spec snapshots) :=
  up_onContainerRunning ⟨"", none, .running, 0⟩ rfl h.engine rfl

variable (spec snapshots) in
theorem startContainer_up (ready : Absent h cID ∨ Up h cID) :
    Up (startContainer {} cID h (.ok spec) snapshots) cID ∧
      SameElsewhere cID h (startContainer {} cID h (.ok spec) snapshots) := by
  unfold startContainer
  simp only
  split
  · exact restoreFromSnapshot_up
  · rcases ready with absent | up
    · exact coldStart_free absent.1
    · obtain ⟨⟨c, there, status⟩, watched⟩ := up
      obtain ⟨containers, running⟩ := coldStart_taken spec snapshots
        (show (h.engine.containers cID).isSome by rw [there]; rfl)
      refine ⟨⟨⟨c, ?_, status⟩, ?_⟩, fun other _ => ⟨?_, ?_⟩⟩
      · rw [containers, there]
      · rw [running, watched]
      · rw [containers]
      · rw [running]

theorem stopContainer_absent (ready : Absent h cID ∨ Up h cID) :
    Absent (stopContainer {} cID h).1 cID ∧ SameElsewhere cID h (stopContainer {} cID h).1 := by
  have elsewhere {e : Engine} (same : ∀ other, other ≠ cID →
      e.containers other = h.engine.containers other) (reports : List Node.Report) :
      SameElsewhere cID h ⟨e, Function.update h.running cID false, reports⟩ :=
    fun other apart => ⟨same other apart, Function.update_of_ne apart ..⟩
  rcases ready with absent | up
  · -- There is nothing to stop, which is an error.
    have refused : h.engine.call cID (Slot.stop none cID) = .error (Slot.notFound cID) :=
      Engine.call_error (by rw [absent.1]; rfl)
    unfold stopContainer
    simp only [Handler.watch, refused]
    exact ⟨⟨absent.1, Function.update_self ..⟩, elsewhere (fun _ _ => rfl) _⟩
  · obtain ⟨⟨c, there, -⟩, -⟩ := up
    have stopped : h.engine.call cID (Slot.stop none cID)
        = .ok (h.engine.put cID (some { c with status := .stopped, exitCode := 0 })) :=
      Engine.call_ok (by rw [there]; rfl)
    unfold stopContainer
    simp only [Handler.watch, stopped, Engine.tryCall_eq, Engine.containers_put_self,
      Engine.put_put, Handler.report]
    exact ⟨⟨Engine.containers_put_self, Function.update_self ..⟩,
      elsewhere (fun _ apart => Engine.containers_put_of_ne apart) _⟩

variable (spec) in
theorem rollingUpdate_free {oldCID newCID : String} (apart : oldCID ≠ newCID)
    (free : Absent h newCID) (w : Waiting) (settled : w.settled = .running) :
    let after := rollingUpdate {} oldCID newCID h spec w
    if spec.healthCheck.isSome ∧ w.done = true then
      (∃ err, after.2 = .error err) ∧
        after.1.engine.containers oldCID = h.engine.containers oldCID ∧
        after.1.running = h.running ∧ Absent after.1 newCID
    else after.2 = .ok () ∧ Absent after.1 oldCID ∧ Up after.1 newCID := by
  intro after
  -- The container starts, so the wait decides.
  have ends : after = finishUpdate {} oldCID newCID _ spec w :=
    rollingUpdate_started rfl rfl free.1 rfl
  have aborts : Aborts spec {} w ↔ spec.healthCheck.isSome ∧ w.done = true := by
    simp [Aborts, settled]
  by_cases cut : spec.healthCheck.isSome ∧ w.done = true
  · rw [if_pos cut]
    obtain ⟨err, aborted⟩ := finishUpdate_aborts oldCID newCID h (pulledEngine h.engine spec)
      (aborts.mpr cut)
    rw [ends, aborted]
    refine ⟨⟨err, rfl⟩, Engine.containers_put_of_ne apart, rfl, ?_, free.2⟩
    exact Engine.containers_put_self
  · rw [if_neg cut, ends, finishUpdate_swaps (fun aborted => cut (aborts.mp aborted))]
    obtain ⟨old, new, -, unwatched, watched⟩ := swapContainers_eq {} h apart
      (pulledEngine h.engine spec) (some (newContainer spec .running))
    refine ⟨rfl, ⟨old.trans ?_, unwatched⟩, ⟨_, new, rfl⟩, watched⟩
    rw [Slot.discard_eq_none]
    exact .inr rfl

theorem Up.ne_none {id : String} (up : Up h id) : h.engine.containers id ≠ none := by
  obtain ⟨⟨c, there, -⟩, -⟩ := up
  rw [there]
  exact nofun

theorem SameElsewhere.absent {id : String} {h' : Handler} (same : SameElsewhere cID h h')
    (apart : id ≠ cID) (absent : Absent h id) : Absent h' id :=
  ⟨(same id apart).1.trans absent.1, (same id apart).2.trans absent.2⟩

namespace Replica

inductive Op
  | start (getSpec : Except String RuntimeSpec) (snapshots : Option Snapshots)
  | update (newSpec : RuntimeSpec) (w : Waiting)
  | stop

variable (capsuleID replicaID : String)

def run (h : Handler) : Op → Handler × Except String Unit
  | .start getSpec snapshots =>
    (startContainer {} (containerID capsuleID replicaID) h getSpec snapshots, .ok ())
  | .update newSpec w =>
    rollingUpdate {} (containerID capsuleID replicaID) (newContainerID capsuleID replicaID) h
      newSpec { w with settled := .running }
  | .stop => stopContainer {} (containerID capsuleID replicaID) h

def step (h : Handler) (op : Op) : Option Handler := some (run capsuleID replicaID h op).1

def Tidy (h : Handler) : Prop :=
  let cID := containerID capsuleID replicaID
  let newCID := newContainerID capsuleID replicaID
  Absent h newCID ∧ (Absent h cID ∨ Up h cID) ∨ Absent h cID ∧ Up h newCID

def Fulfils (h : Handler) (op : Op) : Prop :=
  let cID := containerID capsuleID replicaID
  let newCID := newContainerID capsuleID replicaID
  let after := run capsuleID replicaID h op
  Tidy capsuleID replicaID after.1 ∧
    match op with
    | .start .. => True
    | .update .. => Up h cID ∨ Up h newCID → after.2 = .ok ()
    | .stop => after.1.engine.containers cID = none ∧ after.1.engine.containers newCID = none

def Careful (h : Handler) : Op → Prop
  | .start getSpec _ =>
    (∃ err, getSpec = .error err) ∨
      h.engine.containers (newContainerID capsuleID replicaID) = none
  | .update newSpec w =>
    h.engine.containers (newContainerID capsuleID replicaID) = none ∧
      (Up h (containerID capsuleID replicaID) → newSpec.healthCheck.isSome → w.done = false)
  | .stop => h.engine.containers (newContainerID capsuleID replicaID) = none

variable {capsuleID replicaID}

section

variable (tidy : Tidy capsuleID replicaID h)
include tidy

theorem fulfils_start_iff (getSpec : Except String RuntimeSpec)
    (snapshots : Option Snapshots) :
    Fulfils capsuleID replicaID h (.start getSpec snapshots) ↔
      Careful capsuleID replicaID h (.start getSpec snapshots) := by
  have apart := (containerID_ne capsuleID replicaID).symm
  cases getSpec with
  | error err => exact iff_of_true ⟨tidy, trivial⟩ (.inl ⟨err, rfl⟩)
  | ok spec =>
    rcases tidy with ⟨free, ready⟩ | ⟨absent, up⟩
    · obtain ⟨up, same⟩ := startContainer_up spec snapshots ready
      exact iff_of_true ⟨.inl ⟨same.absent apart free, .inr up⟩, trivial⟩ (.inr free.1)
    · obtain ⟨beside, same⟩ := startContainer_up spec snapshots (.inl absent)
      refine iff_of_false ?_ ?_
      · rintro ⟨⟨free, -⟩ | ⟨gone, -⟩, -⟩
        · exact up.ne_none ((same _ apart).1.symm.trans free.1)
        · exact beside.ne_none gone.1
      · rintro (⟨err, unread⟩ | free)
        · cases unread
        · exact up.ne_none free

theorem fulfils_update_iff (newSpec : RuntimeSpec)
    (w : Waiting) :
    Fulfils capsuleID replicaID h (.update newSpec w) ↔
      Careful capsuleID replicaID h (.update newSpec w) := by
  have apart := containerID_ne capsuleID replicaID
  rcases tidy with ⟨free, ready⟩ | ⟨absent, up⟩
  · have ends := rollingUpdate_free newSpec apart free { w with settled := .running } rfl
    have noneUp : ¬ Up h (newContainerID capsuleID replicaID) := fun up => up.ne_none free.1
    by_cases cut : newSpec.healthCheck.isSome ∧ w.done = true
    · simp only [if_pos cut] at ends
      obtain ⟨⟨err, failed⟩, old, running, new⟩ := ends
      have tidy : Tidy capsuleID replicaID
          (run capsuleID replicaID h (.update newSpec w)).1 := by
        refine .inl ⟨new, ready.imp (fun absent => ?_) fun up => ?_⟩
        · exact ⟨old.trans absent.1, (congrFun running _).trans absent.2⟩
        · refine ⟨?_, (congrFun running _).trans up.2⟩
          rw [show (run capsuleID replicaID h (.update newSpec w)).1.engine.containers _ = _
            from old]
          exact up.1
      constructor
      · rintro ⟨-, succeeds⟩
        refine ⟨free.1, fun up _ => ?_⟩
        have succeeded : (Except.error err : Except String Unit) = .ok () :=
          failed.symm.trans (succeeds (.inl up))
        cases succeeded
      · rintro ⟨-, timely⟩
        refine ⟨tidy, fun someUp => ?_⟩
        have late := timely (someUp.resolve_right noneUp) cut.1
        rw [cut.2] at late
        cases late
    · simp only [if_neg cut] at ends
      obtain ⟨done, gone, up⟩ := ends
      refine iff_of_true ⟨.inr ⟨gone, up⟩, fun _ => done⟩ ⟨free.1, fun _ checked => ?_⟩
      simpa [checked] using cut
  · refine iff_of_false ?_ fun careful => up.ne_none careful.1
    rintro ⟨-, succeeds⟩
    obtain ⟨⟨c, there, -⟩, -⟩ := id up
    obtain ⟨err, failed, -⟩ := rollingUpdate_taken {} (containerID capsuleID replicaID) newSpec
      { w with settled := .running } there
    have succeeded : (Except.error err : Except String Unit) = .ok () :=
      failed.symm.trans (succeeds (.inr up))
    cases succeeded

theorem fulfils_stop_iff :
    Fulfils capsuleID replicaID h .stop ↔ Careful capsuleID replicaID h .stop := by
  have apart := (containerID_ne capsuleID replicaID).symm
  rcases tidy with ⟨free, ready⟩ | ⟨absent, up⟩
  · obtain ⟨gone, same⟩ := stopContainer_absent ready
    have new := same.absent apart free
    exact iff_of_true ⟨.inl ⟨new, .inl gone⟩, gone.1, new.1⟩ free.1
  · -- The updated container is left.
    obtain ⟨-, same⟩ := stopContainer_absent (.inl absent)
    refine iff_of_false ?_ up.ne_none
    rintro ⟨-, -, new⟩
    exact up.ne_none ((same _ apart).1.symm.trans new)

theorem fulfils_iff (op : Op) :
    Fulfils capsuleID replicaID h op ↔ Careful capsuleID replicaID h op := by
  cases op with
  | start getSpec snapshots => exact fulfils_start_iff tidy getSpec snapshots
  | update newSpec w => exact fulfils_update_iff tidy newSpec w
  | stop => exact fulfils_stop_iff tidy

end

/--
When every operation so far was careful, at most one container exists, it runs, and it alone is
watched. The next operation keeps this, succeeds if it is an update of a container that is up, and
leaves nothing if it is a stop, exactly when it is careful.
-/
theorem one_container {start : Handler} (tidy : Tidy capsuleID replicaID start)
    (reached : Reach (step capsuleID replicaID) (Careful capsuleID replicaID) start h) :
    Tidy capsuleID replicaID h ∧
      ∀ op, Fulfils capsuleID replicaID h op ↔ Careful capsuleID replicaID h op := by
  have kept : Tidy capsuleID replicaID h := by
    refine reached.invariant (Tidy capsuleID replicaID) tidy fun s op s' tidy careful taken => ?_
    cases taken
    exact ((fulfils_iff tidy op).mpr careful).1
  exact ⟨kept, fulfils_iff kept⟩

def fresh : Handler := ⟨⟨fun _ => none, []⟩, fun _ => false, []⟩

def plainSpec : RuntimeSpec :=
  { exposed with ports := [], registryUsername := [], healthCheck := none }

def updated : Handler :=
  (run "web" "0" (run "web" "0" fresh (.start (.ok plainSpec) none)).1 (.update plainSpec {})).1

/--
After a start and an update, the next update fails, a stop leaves a container that runs, and a start
runs a second one beside it.
-/
theorem two_containers :
    Reach (step "web" "0") (fun _ _ => True) fresh updated ∧
      Up updated (newContainerID "web" "0") ∧
      (∃ err, (run "web" "0" updated (.update plainSpec {})).2 = .error err) ∧
      Up (run "web" "0" updated .stop).1 (newContainerID "web" "0") ∧
      Up (run "web" "0" updated (.start (.ok plainSpec) none)).1 (containerID "web" "0") ∧
      Up (run "web" "0" updated (.start (.ok plainSpec) none)).1 (newContainerID "web" "0") := by
  refine ⟨.next (.next .start trivial rfl) trivial rfl, by decide +kernel, ⟨_, rfl⟩,
    by decide +kernel, by decide +kernel, by decide +kernel⟩

/-- A replica that is started, updated once and not touched again has one container. -/
theorem one_container_updated :
    Reach (step "web" "0") (Careful "web" "0") fresh updated ∧ Tidy "web" "0" updated := by
  have started : Careful "web" "0" fresh (.start (.ok plainSpec) none) := .inr rfl
  have taken : Careful "web" "0" (run "web" "0" fresh (.start (.ok plainSpec) none)).1
      (.update plainSpec {}) := ⟨by rfl, fun _ checked => nomatch checked⟩
  have reached : Reach (step "web" "0") (Careful "web" "0") fresh updated :=
    .next (.next .start started rfl) taken rfl
  exact ⟨reached, (one_container (.inl ⟨⟨rfl, rfl⟩, .inl ⟨rfl, rfl⟩⟩) reached).1⟩

end Replica

end Falak.Runtime
