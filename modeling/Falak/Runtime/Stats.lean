import Falak.Runtime.InUse
import Mathlib.Data.Rat.Init

/-! The statistics of the containers, and the registry from which the scaling rules read them. -/

namespace Falak.Runtime

structure Stats where
  cpuPercent : ℚ
  memoryMB : Int
  deriving DecidableEq

inductive ReaderPc
  | registering
  | opening
  | reading
  | unregistering
  | ended
  deriving DecidableEq

structure Reader where
  /-- The container, and the launch whose context the stream has. -/
  place : String × Nat
  capsuleID : String
  pc : ReaderPc := .registering
  lastCPU : ℚ := 0
  lastMem : ℚ := 0
  samples : List Stats := []
  /-- The container has stopped since the stream was opened. -/
  severed : Bool := false

namespace Reader

variable (r : Reader)

def Registered : Prop := r.pc = .opening ∨ r.pc = .reading ∨ r.pc = .unregistering

instance : Decidable r.Registered := by
  unfold Registered
  infer_instance

def entry : Option String := if r.Registered then some r.capsuleID else none

def latest : Stats := r.samples.getLast?.getD ⟨0, 0⟩

def getMetric (name : String) : Option ℚ :=
  if name = "cpu" then some r.lastCPU
  else if name = "memory" then some r.lastMem
  else none

end Reader

structure Metered where
  fleet : Fleet
  readers : List Reader
  /-- The goroutine whose variables are read for a capsule. -/
  providers : AList fun _ : String => Nat

inductive MeteredAction
  | fleet (a : FleetAction)
  /-- The call that starts a goroutine registers it first. -/
  | register (i : Nat)
  | openStream (i : Nat) (fault : Option String)
  | sample (i : Nat) (stats : Stats)
  | close (i : Nat)
  | unregister (i : Nat)

def Fleet.watches (f : Fleet) : FleetAction → Option (String × Nat)
  | .goroutine cID (.starter k _) =>
    match ((f.machines cID).launches k).starter with
    | .registering _ => some (cID, k)
    | _ => none
  | .update j k _ _ =>
    match f.updates j with
    | .running u .registering => some (u.newCID, k)
    | _ => none
  | _ => none

namespace Metered

section Steps

variable (captured : ContainerStatus) (s : Metered)

def waits : FleetAction → Bool
  | .goroutine cID (.watcher k _) | .goroutine cID (.watcherDone k)
  | .goroutine cID (.capture k _) =>
    s.readers.any fun r => r.place = (cID, k) && r.pc = .registering
  | _ => false

def notice (f : Fleet) (r : Reader) : Reader :=
  { r with severed := r.severed || !decide (f.machines r.place.1).slot.Runs }

def proceed (a : FleetAction) (f : Fleet) : Metered :=
  let started := (s.fleet.watches a).toList.map fun place =>
    { place := place, capsuleID := (f.jobs place).capsuleID }
  { s with fleet := f, readers := s.readers.map (notice f) ++ started }

def set (i : Nat) (r : Reader) : Metered := { s with readers := s.readers.set i r }

def readerStep (i : Nat) (r : Reader) : MeteredAction → Option Metered
  | .fleet _ => none
  | .register _ =>
    if r.pc = .registering then
      some { s.set i { r with pc := .opening } with providers := s.providers.insert r.capsuleID i }
    else none
  | .openStream _ fault =>
    if r.pc = .opening then
      let slot := (s.fleet.machines r.place.1).slot
      if fault.isSome || slot.isNone then some (s.set i { r with pc := .unregistering })
      else some (s.set i { r with pc := .reading, severed := !decide slot.Runs })
    else none
  | .sample _ stats =>
    if r.pc = .reading then
      some (s.set i
        { r with
          lastCPU := stats.cpuPercent, lastMem := stats.memoryMB, samples := r.samples ++ [stats] })
    else none
  | .close _ => if r.pc = .reading then some (s.set i { r with pc := .unregistering }) else none
  | .unregister _ =>
    if r.pc = .unregistering then
      some { s.set i { r with pc := .ended } with providers := s.providers.erase r.capsuleID }
    else none

def step (a : MeteredAction) : Option Metered :=
  match a with
  | .fleet a => if s.waits a then none else (s.fleet.step captured a).map (s.proceed a)
  | .register i | .openStream i _ | .sample i _ | .close i | .unregister i =>
    s.readers[i]?.bind (s.readerStep i · a)

end Steps

variable (f : Fleet) (s : Metered)

def Cancelled (place : String × Nat) : Prop :=
  ((f.machines place.1).launches place.2).cancelled = true

def Watched (place : String × Nat) : Prop :=
  (f.machines place.1).running = some place.2

instance (f : Fleet) (place : String × Nat) : Decidable (Cancelled f place) :=
  inferInstanceAs (Decidable (_ = _))

instance (f : Fleet) (place : String × Nat) : Decidable (Watched f place) :=
  inferInstanceAs (Decidable (_ = _))

def Quiescent : Prop :=
  s.fleet.Quiescent ∧ ∀ r ∈ s.readers,
    r.pc = .ended ∨ r.pc = .reading ∧ r.severed = false ∧ ¬ Cancelled s.fleet r.place

def Serves (capsuleID : String) (r : Reader) : Prop :=
  r.capsuleID = capsuleID ∧ r.pc = .reading ∧ (s.fleet.machines r.place.1).slot.Runs ∧
    Watched s.fleet r.place

def Accurate (capsuleID : String) : Prop :=
  ((s.providers.lookup capsuleID).isSome = true ↔ ∃ r ∈ s.readers, s.Serves capsuleID r) ∧
    ∀ i, s.providers.lookup capsuleID = some i → ∃ r, s.readers[i]? = some r ∧
      s.Serves capsuleID r ∧ r.getMetric "cpu" = some r.latest.cpuPercent ∧
      r.getMetric "memory" = some (r.latest.memoryMB : ℚ)

instance (s : Metered) : Decidable s.Quiescent := by
  unfold Quiescent
  infer_instance

instance (s : Metered) (capsuleID : String) (r : Reader) : Decidable (s.Serves capsuleID r) := by
  unfold Serves
  infer_instance

def Held (place : String × Nat) : Prop := Cancelled f place ∨ Watched f place

variable (captured : ContainerStatus) in
def Careful (s : Metered) : MeteredAction → Prop
  | .register i => ∀ r, s.readers[i]? = some r →
    ∀ other ∈ s.readers, other.capsuleID = r.capsuleID → ¬ other.Registered
  | .fleet a => ∀ f, s.fleet.step captured a = some f →
    ∀ r ∈ s.readers, r.pc ≠ .ended → Held s.fleet r.place → Held f r.place
  | _ => True

structure Sound (f : Fleet) (r : Reader) : Prop where
  held : r.pc ≠ .ended → Held f r.place
  runs : r.pc = .reading → r.severed = false → (f.machines r.place.1).slot.Runs
  cpu : r.lastCPU = r.latest.cpuPercent
  memory : r.lastMem = r.latest.memoryMB

def owned (i : Nat) : Option String := s.readers[i]?.bind Reader.entry

structure Tidy (s : Metered) : Prop where
  entry : ∀ capsuleID i, s.providers.lookup capsuleID = some i ↔ s.owned i = some capsuleID
  sound : ∀ r ∈ s.readers, Sound s.fleet r

variable {captured : ContainerStatus} {s s' : Metered} {f : Fleet} {i : Nat} {r r' : Reader}

theorem watched_of_watches {a : FleetAction} {place : String × Nat}
    (named : s.fleet.watches a = some place) (stepped : s.fleet.step captured a = some f) :
    Watched f place := by
  obtain ⟨g, acted, rfl⟩ := Option.map_eq_some_iff.mp stepped
  unfold Fleet.watches at named
  split at named
  · split at named <;> cases named
    rename_i here
    simp only [Fleet.act, Fleet.goroutine, Machine.step, Machine.starterStep, here] at acted
    split_ifs at acted
    cases acted
    unfold Watched Fleet.proceed
    dsimp only
    split_ifs <;> simp [Fleet.note]
  · split at named <;> cases named
    rename_i here
    simp only [Fleet.act, Fleet.updateStep, here] at acted
    split_ifs at acted
    cases acted
    simp [Watched, Fleet.onContainerRunning]
  · cases named

theorem owned_proceed (a : FleetAction) : (s.proceed a f).owned i = s.owned i := by
  unfold owned proceed
  rcases lt_or_ge i s.readers.length with old | new
  · rw [List.getElem?_append_left (by simpa using old), List.getElem?_map]
    cases s.readers[i]? <;> rfl
  · rw [List.getElem?_append_right (by simpa using new), List.getElem?_eq_none new]
    simp only [List.getElem?_map, Option.bind_map]
    exact Option.bind_eq_none_iff.mpr fun _ _ => rfl

theorem Tidy.fleet (tidy : Tidy s) {a : FleetAction} (careful : Careful captured s (.fleet a))
    (stepped : s.fleet.step captured a = some f) : Tidy (s.proceed a f) where
  entry capsuleID i := by
    rw [owned_proceed]
    exact tidy.entry capsuleID i
  sound r mem := by
    rcases List.mem_append.mp mem with old | new
    · obtain ⟨r, before, rfl⟩ := List.mem_map.mp old
      have sound := tidy.sound r before
      refine ⟨fun going => careful f stepped r before going (sound.held going), fun _ whole => ?_,
        sound.cpu, sound.memory⟩
      have runs := (Bool.or_eq_false_iff.mp whole).2
      rwa [Bool.not_eq_false', decide_eq_true_iff] at runs
    · obtain ⟨place, named, rfl⟩ := List.mem_map.mp new
      have watched := watched_of_watches (Option.mem_toList.mp named) stepped
      exact ⟨fun _ => .inr watched, nofun, rfl, by simp [Reader.latest]⟩

theorem Tidy.set (tidy : Tidy s) {providers : AList fun _ : String => Nat}
    (here : s.readers[i]? = some r) (sound : Sound s.fleet r')
    (entries : ∀ capsuleID j, providers.lookup capsuleID = some j ↔
      (if i = j then r'.entry else s.owned j) = some capsuleID) :
    Tidy { s.set i r' with providers := providers } where
  entry capsuleID j := by
    rw [entries]
    have bound := (List.getElem?_eq_some_iff.mp here).1
    by_cases same : i = j
    · subst same
      simp [owned, Metered.set, bound]
    · simp [owned, Metered.set, List.getElem?_set_ne same, same]
  sound other mem := by
    rcases List.mem_or_eq_of_mem_set mem with old | rfl
    · exact tidy.sound other old
    · exact sound

theorem Tidy.goes_on (tidy : Tidy s) (here : s.readers[i]? = some r) (sound : Sound s.fleet r')
    (same : r'.entry = r.entry) : Tidy (s.set i r') := by
  refine tidy.set here sound fun capsuleID j => ?_
  rw [tidy.entry]
  by_cases own : i = j
  · subst own
    simp [owned, here, same]
  · rw [if_neg own]

theorem entry_eq_some {capsuleID : String} :
    r.entry = some capsuleID ↔ r.Registered ∧ r.capsuleID = capsuleID := by
  simp [Reader.entry]

theorem owned_of_getElem? (here : s.readers[i]? = some r) : s.owned i = r.entry := by
  simp [owned, here]

theorem Tidy.register (tidy : Tidy s) (here : s.readers[i]? = some r) (pc : r.pc = .registering)
    (alone : ∀ other ∈ s.readers, other.capsuleID = r.capsuleID → ¬ other.Registered) :
    Tidy { s.set i { r with pc := .opening } with
      providers := s.providers.insert r.capsuleID i } := by
  have sound := tidy.sound r (List.mem_of_getElem? here)
  refine tidy.set here ⟨fun _ => sound.held (by simp [pc]), nofun, sound.cpu, sound.memory⟩
    fun capsuleID j => ?_
  have entry : { r with pc := .opening : Reader }.entry = some r.capsuleID :=
    entry_eq_some.mpr ⟨.inl rfl, rfl⟩
  rw [entry]
  by_cases same : capsuleID = r.capsuleID
  · -- The entry is its own, and nobody else has one.
    subst same
    rw [AList.lookup_insert, Option.some_inj]
    by_cases own : i = j
    · simp [own]
    · rw [if_neg own, owned, Option.bind_eq_some_iff]
      refine iff_of_false own ?_
      rintro ⟨other, found, written⟩
      obtain ⟨registered, named⟩ := entry_eq_some.mp written
      exact alone other (List.mem_of_getElem? found) named registered
  · rw [AList.lookup_insert_ne same, tidy.entry]
    by_cases own : i = j
    · subst own
      rw [owned_of_getElem? here, entry_eq_some]
      simp [Ne.symm same]
    · rw [if_neg own]

theorem Tidy.unregister (tidy : Tidy s) (here : s.readers[i]? = some r)
    (pc : r.pc = .unregistering) :
    Tidy { s.set i { r with pc := .ended } with providers := s.providers.erase r.capsuleID } := by
  have sound := tidy.sound r (List.mem_of_getElem? here)
  refine tidy.set here ⟨nofun, nofun, sound.cpu, sound.memory⟩ fun capsuleID j => ?_
  have entry : { r with pc := .ended : Reader }.entry = none := by
    simp [Reader.entry, Reader.Registered]
  have own : s.owned i = some r.capsuleID := by
    rw [owned_of_getElem? here]
    exact entry_eq_some.mpr ⟨.inr (.inr pc), rfl⟩
  rw [entry]
  by_cases same : capsuleID = r.capsuleID
  · -- Nobody else had written the entry.
    subst same
    rw [AList.lookup_erase]
    refine iff_of_false nofun ?_
    split_ifs with mine
    · exact nofun
    · intro other
      have first := (tidy.entry _ _).mpr own
      rw [(tidy.entry _ _).mpr other] at first
      exact mine (Option.some.inj first).symm
  · rw [AList.lookup_erase_ne same, tidy.entry]
    split_ifs with mine
    · subst mine
      rw [own]
      simp [Ne.symm same]
    · rfl

theorem Tidy.step (tidy : Tidy s) {a : MeteredAction} (careful : Careful captured s a)
    (stepped : s.step captured a = some s') : Tidy s' := by
  cases a with
  | fleet a =>
    simp only [Metered.step] at stepped
    split_ifs at stepped
    obtain ⟨f, taken, rfl⟩ := Option.map_eq_some_iff.mp stepped
    exact tidy.fleet careful taken
  | register i =>
    obtain ⟨r, here, taken⟩ := Option.bind_eq_some_iff.mp stepped
    simp only [readerStep] at taken
    split_ifs at taken with pc
    cases taken
    exact tidy.register here pc (careful r here)
  | openStream i fault =>
    obtain ⟨r, here, taken⟩ := Option.bind_eq_some_iff.mp stepped
    have sound := tidy.sound r (List.mem_of_getElem? here)
    simp only [readerStep] at taken
    split_ifs at taken with pc <;> cases taken
    · exact tidy.goes_on here ⟨fun _ => sound.held (by simp [pc]), nofun, sound.cpu, sound.memory⟩
        (by simp [Reader.entry, Reader.Registered, pc])
    · -- The stream is whole if the container runs.
      refine tidy.goes_on here ⟨fun _ => sound.held (by simp [pc]), fun _ whole => ?_, sound.cpu,
        sound.memory⟩ (by simp [Reader.entry, Reader.Registered, pc])
      rwa [Bool.not_eq_false', decide_eq_true_iff] at whole
  | sample i stats =>
    obtain ⟨r, here, taken⟩ := Option.bind_eq_some_iff.mp stepped
    have sound := tidy.sound r (List.mem_of_getElem? here)
    simp only [readerStep] at taken
    split_ifs at taken with pc
    cases taken
    exact tidy.goes_on here ⟨sound.held, sound.runs, by simp [Reader.latest],
      by simp [Reader.latest]⟩ rfl
  | close i =>
    obtain ⟨r, here, taken⟩ := Option.bind_eq_some_iff.mp stepped
    have sound := tidy.sound r (List.mem_of_getElem? here)
    simp only [readerStep] at taken
    split_ifs at taken with pc
    cases taken
    exact tidy.goes_on here ⟨fun _ => sound.held (by simp [pc]), nofun, sound.cpu, sound.memory⟩
      (by simp [Reader.entry, Reader.Registered, pc])
  | unregister i =>
    obtain ⟨r, here, taken⟩ := Option.bind_eq_some_iff.mp stepped
    simp only [readerStep] at taken
    split_ifs at taken with pc
    cases taken
    exact tidy.unregister here pc

theorem Tidy.serves (tidy : Tidy s) (quiet : s.Quiescent) (mem : r ∈ s.readers)
    (registered : r.Registered) : s.Serves r.capsuleID r := by
  rcases quiet.2 r mem with pc | ⟨pc, whole, alive⟩
  · simp [Reader.Registered, pc] at registered
  · have sound := tidy.sound r mem
    have held := sound.held (by simp [pc])
    exact ⟨rfl, pc, sound.runs pc whole, held.resolve_left alive⟩

def initial (f : Fleet) : Metered := ⟨f, [], ∅⟩

def busy : Stats := ⟨80, 512⟩

def metered : List MeteredAction :=
  Fleet.restored.map .fleet ++ [.register 0, .openStream 0 none, .sample 0 busy]

def undisturbed (s : Metered) : MeteredAction → Bool
  | .fleet _ => s.readers.isEmpty
  | .register _ => s.readers.all fun r => !decide r.Registered
  | _ => true

theorem careful_of_undisturbed (s : Metered) (a : MeteredAction) (ok : undisturbed s a = true) :
    Careful captured s a := by
  cases a with
  | fleet a =>
    intro f _ r mem
    rw [List.isEmpty_iff.mp ok] at mem
    cases mem
  | register i =>
    intro r _ other mem _
    simpa using List.all_eq_true.mp ok other mem
  | _ => trivial

def replaced : List MeteredAction :=
  metered ++ [.fleet (.beginUpdate 0 ⟨"web", "0", Machine.restartable⟩)]
    ++ List.replicate 8 (.fleet (.update 0 0 none false))
    ++ [.fleet (.goroutine Fleet.web0 (.watcherDone 0)), .register 1, .openStream 1 none,
      .sample 1 busy, .close 0, .unregister 0]

def forsaken : List MeteredAction :=
  [.fleet (.begin "web" "0" 0 (.ok Machine.restartable) none),
    .fleet (.asked Fleet.web0 0 .empty none)]
    ++ List.replicate 4 (.fleet (.goroutine Fleet.web0 (.starter 0 none)))
    ++ [.register 0, .fleet (.goroutine Fleet.web0 (.capture 0 none)),
      .fleet (.goroutine Fleet.web0 (.watcher 0 none)),
      .fleet (.goroutine Fleet.web0 (.watcher 0 (some "start"))),
      .fleet (.call Fleet.web0 0 none 0 0 0 1 ""), .fleet (.goroutine Fleet.web0 (.capture 0 none)),
      .openStream 0 none, .fleet (.goroutine Fleet.web0 (.watcher 0 none)),
      .fleet (.goroutine Fleet.web0 (.watcher 0 none))]

end Metered

end Falak.Runtime
