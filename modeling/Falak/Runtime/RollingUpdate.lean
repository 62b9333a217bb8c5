import Falak.Runtime.Handler

/-! What a rolling update leaves behind, for every pattern of errors and probes. -/

namespace Falak.Runtime

open Node (RuntimeSpec)

namespace Slot

def discard (stopFault removeFault : Option String) (id : String) (slot : Slot) : Slot :=
  let stopped := (stop stopFault id slot).toOption.getD slot
  (remove removeFault id stopped).toOption.getD stopped

theorem discard_eq_none {stopFault removeFault : Option String} {id : String} {slot : Slot} :
    slot.discard stopFault removeFault id = none ↔ slot = none ∨ removeFault = none := by
  cases slot <;> cases stopFault <;> cases removeFault <;>
    simp [discard, stop, remove, onContainer, Except.toOption]

end Slot

section Cases

def newContainer (spec : RuntimeSpec) (status : ContainerStatus) : Container :=
  ⟨spec.image, some (applyCreateOptions (rollingUpdateOptions spec)), status, 0⟩

def pulledEngine (e : Engine) (spec : RuntimeSpec) : Engine :=
  { e with pulled := (spec.image, {}) :: e.pulled }

def Aborts (spec : RuntimeSpec) (faults : UpdateFaults) (w : Waiting) : Prop :=
  spec.healthCheck.isSome ∧ w.done = true ∨ faults.inspect ≠ none ∨ w.settled ≠ .running

instance (spec : RuntimeSpec) (faults : UpdateFaults) (w : Waiting) :
    Decidable (Aborts spec faults w) :=
  inferInstanceAs (Decidable (_ ∨ _ ∨ _))

variable {faults : UpdateFaults} {oldCID newCID : String} {h : Handler} {spec : RuntimeSpec}
  {w : Waiting}

theorem abortUpdate_eq {e : Engine} {slot : Slot} :
    abortUpdate faults newCID { h with engine := e.put newCID slot }
      = { h with
          engine := e.put newCID (slot.discard faults.stopNew faults.removeNew newCID) } := by
  simp only [abortUpdate, Engine.tryCall_eq, Engine.containers_put_self, Engine.put_put]
  rfl

variable (faults h) in
theorem swapContainers_eq (apart : oldCID ≠ newCID) (e : Engine) (slot : Slot) :
    let after := swapContainers faults oldCID newCID { h with engine := e.put newCID slot }
    after.engine.containers oldCID
        = (e.containers oldCID).discard faults.stopOld faults.removeOld oldCID ∧
      after.engine.containers newCID = slot ∧ after.engine.pulled = e.pulled ∧
      after.running oldCID = false ∧ after.running newCID = true := by
  simp only [swapContainers, Engine.tryCall_eq, Handler.onContainerRunning, Handler.report,
    Handler.watch, Engine.containers_put_self, Engine.put_put,
    Engine.containers_put_of_ne apart, Engine.containers_put_of_ne apart.symm]
  refine ⟨rfl, trivial, rfl, ?_, ?_⟩
  · rw [Function.update_of_ne apart, Function.update_self]
  · rw [Function.update_self]

theorem isHealthy_iff {e : Engine} {c : Container} :
    isHealthy faults newCID (e.put newCID (some c)) = true ↔
      faults.inspect = none ∧ c.status = .running := by
  unfold isHealthy
  cases faults.inspect <;> simp [Slot.inspect, Except.toOption]

variable (oldCID newCID h) in
theorem finishUpdate_aborts (e : Engine) (aborts : Aborts spec faults w) :
    ∃ err, finishUpdate faults oldCID newCID
        { h with engine := e.put newCID (some (newContainer spec w.settled)) } spec w
      = ({ h with
            engine := e.put newCID (Slot.discard faults.stopNew faults.removeNew newCID
              (some (newContainer spec w.settled))) }, .error err) := by
  simp only [finishUpdate, abortUpdate_eq]
  have sick (later : ¬ (spec.healthCheck.isSome ∧ w.done = true)) :
      ¬ isHealthy faults newCID (e.put newCID (some (newContainer spec w.settled))) = true := by
    rw [isHealthy_iff]
    rintro ⟨seen, runs⟩
    rcases aborts with late | refused | other
    · exact later late
    · exact refused seen
    · exact other runs
  cases check : spec.healthCheck with
  | none => exact ⟨_, if_neg (sick (by simp [check]))⟩
  | some hc =>
    cases late : w.done with
    | true => exact ⟨_, rfl⟩
    | false => exact ⟨_, if_neg (sick (by simp [late]))⟩

theorem finishUpdate_swaps {e : Engine} (fine : ¬ Aborts spec faults w) :
    finishUpdate faults oldCID newCID
        { h with engine := e.put newCID (some (newContainer spec w.settled)) } spec w
      = (swapContainers faults oldCID newCID
          { h with engine := e.put newCID (some (newContainer spec .running)) }, .ok ()) := by
  obtain ⟨timely, seen, runs⟩ : ¬ (spec.healthCheck.isSome ∧ w.done = true) ∧
      faults.inspect = none ∧ w.settled = .running := by simpa [Aborts, not_or] using fine
  have healthy :
      isHealthy faults newCID (e.put newCID (some (newContainer spec .running))) = true :=
    isHealthy_iff.mpr ⟨seen, rfl⟩
  simp only [finishUpdate, runs]
  cases check : spec.healthCheck with
  | none => exact if_pos healthy
  | some hc =>
    have late : w.done = false := by simpa [check] using timely
    rw [late]
    exact if_pos healthy

section Stages

variable (pull : faults.pull = none)

include pull in
theorem rollingUpdate_pulled :
    h.engine.pull faults.pull spec.image {} = .ok (pulledEngine h.engine spec) := by
  rw [pull]
  rfl

include pull in
theorem rollingUpdate_create_failed {err : String} (create : faults.create = some err) :
    rollingUpdate faults oldCID newCID h spec w
      = ({ h with engine := pulledEngine h.engine spec },
          .error ("rolling update: create failed: " ++ err)) := by
  unfold rollingUpdate
  rw [rollingUpdate_pulled pull]
  simp only
  rw [Engine.call_error (by rw [create]; rfl)]

variable (create : faults.create = none) (free : h.engine.containers newCID = none)

include create free in
theorem rollingUpdate_created :
    (pulledEngine h.engine spec).call newCID (Slot.create faults.create newCID spec.image
        (applyCreateOptions (rollingUpdateOptions spec)))
      = .ok ((pulledEngine h.engine spec).put newCID (some (newContainer spec .created))) :=
  Engine.call_ok (by
    rw [create, show (pulledEngine h.engine spec).containers newCID = none from free]
    rfl)

include pull create free in
theorem rollingUpdate_start_failed {err : String} (start : faults.start = some err) :
    rollingUpdate faults oldCID newCID h spec w
      = ({ h with
            engine := (pulledEngine h.engine spec).put newCID
              (if faults.removeNew.isSome then some (newContainer spec .created) else none) },
          .error ("rolling update: start failed: " ++ err)) := by
  unfold rollingUpdate
  rw [rollingUpdate_pulled pull]
  simp only
  rw [rollingUpdate_created create free]
  simp only
  rw [Engine.call_error (by rw [start]; rfl)]
  simp only [Engine.tryCall_eq, Engine.containers_put_self, Engine.put_put]
  cases faults.removeNew <;> rfl

include pull create free in
theorem rollingUpdate_started (start : faults.start = none) :
    rollingUpdate faults oldCID newCID h spec w
      = finishUpdate faults oldCID newCID
          { h with
            engine := (pulledEngine h.engine spec).put newCID
              (some (newContainer spec w.settled)) } spec w := by
  have started : ((pulledEngine h.engine spec).put newCID
      (some (newContainer spec .created))).call newCID (Slot.start faults.start newCID)
        = .ok ((pulledEngine h.engine spec).put newCID (some (newContainer spec .running))) :=
    Engine.call_put_ok (by rw [start]; rfl)
  unfold rollingUpdate
  rw [rollingUpdate_pulled pull]
  simp only
  rw [rollingUpdate_created create free]
  simp only
  rw [started]
  simp only [settle, Engine.tryCall_eq, Engine.containers_put_self, Engine.put_put]
  rfl

end Stages

variable (faults oldCID spec w) in
theorem rollingUpdate_taken {c : Container} (taken : h.engine.containers newCID = some c) :
    ∃ err, (rollingUpdate faults oldCID newCID h spec w).2 = .error err ∧
      (rollingUpdate faults oldCID newCID h spec w).1.engine.containers = h.engine.containers ∧
      (rollingUpdate faults oldCID newCID h spec w).1.running = h.running := by
  unfold rollingUpdate
  cases pull : faults.pull with
  | some err => exact ⟨_, rfl, rfl, rfl⟩
  | none =>
    obtain ⟨err, refused⟩ : ∃ err, (pulledEngine h.engine spec).call newCID
        (Slot.create faults.create newCID spec.image
          (applyCreateOptions (rollingUpdateOptions spec))) = .error err := by
      have there : (pulledEngine h.engine spec).containers newCID = some c := taken
      cases create : faults.create with
      | some err => exact ⟨err, Engine.call_error rfl⟩
      | none => exact ⟨_, Engine.call_error (by rw [there]; rfl)⟩
    rw [show h.engine.pull none spec.image {} = .ok (pulledEngine h.engine spec) from rfl]
    simp only
    rw [refused]
    exact ⟨_, rfl, rfl, rfl⟩

end Cases

variable (spec : RuntimeSpec)

def Up (h : Handler) (id : String) : Prop := (h.engine.containers id).Runs ∧ h.running id = true

instance (h : Handler) (id : String) : Decidable (Up h id) := inferInstanceAs (Decidable (_ ∧ _))

def RunsAs (e : Engine) (id : String) (spec : RuntimeSpec) : Prop :=
  e.containers id
      = some ⟨spec.image, some (applyCreateOptions (coldStartOptions spec)), .running, 0⟩ ∧
    e.pulled.head? = some (spec.image, coldStartPull spec)

def ProbesPass (w : Waiting) : Prop :=
  ∀ hc, spec.healthCheck = some hc → true ∈ w.probes ∧ exhausts hc.retries 0 w.probes = false

def AllOrNothing (oldCID newCID : String) (newSpec : RuntimeSpec) (w : Waiting)
    (after : Handler × Except String Unit) : Prop :=
  match after.2 with
  | .error _ => Up after.1 oldCID ∧ after.1.engine.containers newCID = none
  | .ok () =>
    after.1.engine.containers oldCID = none ∧ RunsAs after.1.engine newCID newSpec ∧
      ProbesPass newSpec w

def UpdateHolds (h : Handler) (newCID : String) (newSpec : RuntimeSpec) (faults : UpdateFaults)
    (w : Waiting) : Prop :=
  h.engine.containers newCID = none ∧
    (faults.pull = none → faults.create = none →
      if faults.start ≠ none ∨ Aborts newSpec faults w then faults.removeNew = none
      else faults.removeOld = none ∧ newSpec.ports = [] ∧ newSpec.registryUsername = [] ∧
        ProbesPass newSpec w)

theorem containerID_ne (capsuleID replicaID : String) :
    containerID capsuleID replicaID ≠ newContainerID capsuleID replicaID := by
  intro same
  have lengths := congrArg String.length same
  simp [newContainerID] at lengths

theorem rollingUpdateOptions_iff :
    applyCreateOptions (rollingUpdateOptions spec) = applyCreateOptions (coldStartOptions spec) ↔
      spec.ports = [] := by
  cases given : spec.command <;>
    simp [applyCreateOptions, rollingUpdateOptions, coldStartOptions, withNetworkMode,
      withPortMappings, withResourceLimits, withEnv, withLogRetention, withCommand, given, eq_comm]

theorem coldStartPull_iff :
    coldStartPull spec = {} ↔ spec.registryUsername = [] := by
  unfold coldStartPull
  split
  · rename_i needed
    refine iff_of_false (fun same => needed ?_) needed
    exact congrArg PullConfig.username same
  · rename_i free
    exact iff_of_true rfl (not_not.mp free)

variable {newCID : String} {spec : RuntimeSpec} {h : Handler} {w : Waiting}

theorem runsAs_iff {e : Engine} (there : e.containers newCID = some (newContainer spec .running))
    (pulled : e.pulled.head? = some (spec.image, {})) :
    RunsAs e newCID spec ↔ spec.ports = [] ∧ spec.registryUsername = [] := by
  rw [RunsAs, there, pulled, ← rollingUpdateOptions_iff, ← coldStartPull_iff]
  simp [newContainer, eq_comm]

theorem allOrNothing_failed {oldCID : String} (apart : oldCID ≠ newCID) (up : Up h oldCID)
    {slot : Slot} {err : String} :
    AllOrNothing oldCID newCID spec w
        ({ h with engine := (pulledEngine h.engine spec).put newCID slot }, .error err) ↔
      slot = none := by
  have still : Up { h with engine := (pulledEngine h.engine spec).put newCID slot } oldCID := by
    refine ⟨?_, up.2⟩
    rw [Engine.containers_put_of_ne apart]
    exact up.1
  simp only [AllOrNothing, Engine.containers_put_self]
  exact and_iff_right still

theorem allOrNothing_swapped {oldCID : String} (apart : oldCID ≠ newCID) (up : Up h oldCID)
    {faults : UpdateFaults} :
    AllOrNothing oldCID newCID spec w
        (swapContainers faults oldCID newCID
          { h with
            engine := (pulledEngine h.engine spec).put newCID
              (some (newContainer spec .running)) }, .ok ()) ↔
      faults.removeOld = none ∧ spec.ports = [] ∧ spec.registryUsername = [] ∧
        ProbesPass spec w := by
  obtain ⟨old, new, pulled, -, -⟩ := swapContainers_eq faults h apart
    (pulledEngine h.engine spec) (some (newContainer spec .running))
  obtain ⟨⟨c, there, -⟩, -⟩ := up
  have known : (pulledEngine h.engine spec).containers oldCID = some c := there
  rw [known] at old
  simp only [AllOrNothing, old, Slot.discard_eq_none, reduceCtorEq, false_or]
  rw [runsAs_iff new (by rw [pulled]; rfl), and_assoc]

/-- An update of a container that is up is all or nothing exactly under the condition above. -/
theorem rollingUpdate_all_or_nothing_iff (capsuleID replicaID : String) (h : Handler)
    (newSpec : RuntimeSpec) (faults : UpdateFaults) (w : Waiting)
    (up : Up h (containerID capsuleID replicaID)) :
    AllOrNothing (containerID capsuleID replicaID) (newContainerID capsuleID replicaID) newSpec w
        (rollingUpdate faults (containerID capsuleID replicaID)
          (newContainerID capsuleID replicaID) h newSpec w) ↔
      UpdateHolds h (newContainerID capsuleID replicaID) newSpec faults w := by
  have apart := containerID_ne capsuleID replicaID
  generalize containerID capsuleID replicaID = oldCID at up apart
  generalize newContainerID capsuleID replicaID = newCID at apart
  unfold UpdateHolds
  cases free : h.engine.containers newCID with
  | some c =>
    obtain ⟨err, failed, same, -⟩ := rollingUpdate_taken faults oldCID newSpec w free
    refine iff_of_false (fun nothing => ?_) (fun holds => nomatch holds.1)
    rw [AllOrNothing, failed] at nothing
    rw [same, free] at nothing
    exact nomatch nothing.2
  | none =>
    rw [and_iff_right rfl]
    cases pull : faults.pull with
    | some err =>
      -- Without an image nothing is touched.
      refine iff_of_true ?_ nofun
      simp only [rollingUpdate, Engine.pull, pull]
      exact ⟨up, free⟩
    | none =>
      rw [imp_iff_right rfl]
      cases create : faults.create with
      | some err =>
        refine iff_of_true ?_ nofun
        rw [rollingUpdate_create_failed pull create]
        exact ⟨up, free⟩
      | none =>
        rw [imp_iff_right rfl]
        cases start : faults.start with
        | some err =>
          rw [rollingUpdate_start_failed pull create free start, allOrNothing_failed apart up]
          cases faults.removeNew <;> simp
        | none =>
          rw [rollingUpdate_started pull create free start]
          by_cases aborts : Aborts newSpec faults w
          · obtain ⟨err, ends⟩ := finishUpdate_aborts oldCID newCID h
              (pulledEngine h.engine newSpec) aborts
            rw [ends, allOrNothing_failed apart up, Slot.discard_eq_none, if_pos (.inr aborts)]
            simp
          · rw [finishUpdate_swaps aborts, allOrNothing_swapped apart up,
              if_neg (by simp [aborts])]

def exposed : RuntimeSpec :=
  { name := "web"
    image := "web:2"
    imageDigest := ""
    env := ∅
    networkMode := .bridge
    ports := [⟨"http", 80, 8080, "tcp"⟩]
    resources := ⟨1, 1, 128, 128⟩
    command := []
    logRetention := ⟨10, 10⟩
    snapshotTTL := 0
    maxSnapshots := 0
    healthCheck := some ⟨.http, "/health", 80, second, 5 * second, 3, 0⟩
    failurePolicy := ⟨0, 0, 0⟩
    registryUsername := [1]
    registryPassword := [2] }

def upHandler : Handler :=
  { engine :=
      { containers := fun id =>
          if id = "falak-web-0" then some ⟨"web:1", none, .running, 0⟩ else none
        pulled := [] }
    running := fun id => id = "falak-web-0"
    reports := [] }

/--
The first probe takes longer than the wait, so the update succeeds without any probe. The new
container has no ports, and its image was pulled without credentials.
-/
theorem rollingUpdate_unprobed :
    (rollingUpdate {} "falak-web-0" "falak-web-0-new" upHandler exposed {}).2 = .ok () ∧
      ¬ ProbesPass exposed {} ∧
      ((rollingUpdate {} "falak-web-0" "falak-web-0-new" upHandler exposed {}).1.engine.containers
        "falak-web-0-new").map (fun c => c.config.map CreateConfig.ports) = some (some []) ∧
      (rollingUpdate {} "falak-web-0" "falak-web-0-new" upHandler exposed {}).1.engine.pulled
        = [("web:2", {})] ∧
      ¬ AllOrNothing "falak-web-0" "falak-web-0-new" exposed {}
        (rollingUpdate {} "falak-web-0" "falak-web-0-new" upHandler exposed {}) := by
  have unprobed : ¬ ProbesPass exposed {} := fun pass => nomatch (pass _ rfl).1
  exact ⟨rfl, unprobed, by decide +kernel, rfl, fun all => unprobed all.2.2⟩

/-- Without ports, credentials and a health check, an update is all or nothing. -/
theorem rollingUpdate_all_or_nothing_plain :
    (rollingUpdate {} (containerID "web" "0") (newContainerID "web" "0") upHandler
      { exposed with ports := [], registryUsername := [], healthCheck := none } {}).2 = .ok () ∧
    AllOrNothing (containerID "web" "0") (newContainerID "web" "0")
      { exposed with ports := [], registryUsername := [], healthCheck := none } {}
      (rollingUpdate {} (containerID "web" "0") (newContainerID "web" "0") upHandler
        { exposed with ports := [], registryUsername := [], healthCheck := none } {}) := by
  have up : Up upHandler (containerID "web" "0") := ⟨⟨_, rfl, rfl⟩, rfl⟩
  refine ⟨rfl, (rollingUpdate_all_or_nothing_iff "web" "0" upHandler _ {} {} up).mpr
    ⟨rfl, fun _ _ => ?_⟩⟩
  -- The container starts and is found running.
  exact ⟨rfl, rfl, rfl, nofun⟩

end Falak.Runtime
