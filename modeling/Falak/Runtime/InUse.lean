import Falak.Runtime.FleetMoves

/-! When the flag of a snapshot says whether a container that was restored from it still runs. -/

namespace Falak.Runtime

open Snapshot (Record)

namespace Machine

def Keeps (m m' : Machine) : Prop :=
  ∀ i, (m'.launches i).starter = .restoring → (m.launches i).starter = .restoring

variable {cfg : Setup} {m m' : Machine} {k : Nat} {fault : Option String}

theorem Acts.keeps (acts : Acts m k m') : Keeps m m' := by
  intro i here
  by_cases same : i = k
  · subst same
    exact acts.restore here
  · -- The other launches are as before, or cancelled.
    rcases acts.others i same with same | cancelled
    · rwa [same] at here
    · rwa [cancelled] at here

theorem keeps_registered (cold : Bool) :
    Keeps m { m.cancelRunning.modify k (Launch.registered cfg · cold) with running := some k } := by
  have registered : Acts m k (m.cancelRunning.modify k (Launch.registered cfg · cold)) :=
    acts_cancelRunning.modify fun _ => ⟨rfl, nofun⟩
  exact registered.keeps

theorem keeps_stopStep {j : Nat} (taken : m.stopStep cfg j fault = some m') : Keeps m m' := by
  unfold stopStep at taken
  cases pc : m.stoppers j with
  | returned err => simp [pc] at taken
  | idle =>
    simp only [pc] at taken
    cases taken
    exact (acts_cancelRunning (k := j)).keeps
  | stopping =>
    simp only [pc] at taken
    split at taken <;> cases taken <;> exact fun _ here => here
  | removing | marking =>
    simp only [pc] at taken
    cases taken
    exact fun _ here => here

theorem keeps_step {a : Action} (later : ∀ k way, a ≠ .begin k way)
    (taken : m.step cfg a = some m') : Keeps m m' := by
  cases own : actor a with
  | some k => exact (acts_of_actor own taken).keeps
  | none =>
    cases a with
    | begin k way => exact absurd rfl (later k way)
    | crash exitCode => exact (acts_crash taken).keeps
    | stop j fault => exact keeps_stopStep taken
    | _ => cases own

theorem begin_spec {way : Way} (taken : m.begin k way = some m') :
    m'.slot = m.slot ∧ ∀ i, (m'.launches i).starter = .restoring →
      (m.launches i).starter = .restoring ∨ i = k ∧ way = .restore := by
  -- The way decides where the start begins.
  unfold begin at taken
  split at taken
  · cases taken
    refine ⟨rfl, fun i here => ?_⟩
    by_cases same : i = k
    · subst same
      simp only [launches_modify_self] at here
      cases way with
      | restore => exact .inr ⟨rfl, rfl⟩
      | unread | cold => cases here
    · rw [launches_modify_of_ne same] at here
      exact .inl here
  · cases taken

end Machine

namespace Fleet

variable {captured : ContainerStatus} {f f' : Fleet} {key : String × String}

def Pending (f : Fleet) (key : String × String) : Prop :=
  ∃ place, f.errands place = .marking ∧ (f.jobs place).key = key

def Relies (f : Fleet) (place : String × Nat) : Prop :=
  ((f.machines place.1).launches place.2).starter = .restoring ∨ f.errands place = .marking

variable (captured) in
def Careful (f : Fleet) : FleetAction → Prop
  | .call cID k fault _ _ _ _ _ =>
    match f.errands (cID, k) with
    | .marking => fault = none ∧ f.Live (f.jobs (cID, k)).key
    | .recording => f.Live (f.jobs (cID, k)).key → f.Pending (f.jobs (cID, k)).key
    | _ => True
  | .asked cID k _ received =>
    received ≠ none → f.Live (f.jobs (cID, k)).key → f.Pending (f.jobs (cID, k)).key
  | a => ∀ f', f.act captured a = some f' → ∀ key, f.Flagged key → f.Live key → f'.Live key

structure Settled (f : Fleet) : Prop where
  used : ∀ key, f.Flagged key → f.Live key
  restored : ∀ cID key, f.origins.lookup cID = some key → f.Flagged key ∨ f.Pending key
  known : ∀ place, f.Relies place → (f.store.records.lookup (f.jobs place).key).isSome = true

theorem Settled.keep (settled : Settled f)
    (flags : ∀ key, f'.Flagged key ↔ f.Flagged key)
    (stored : ∀ key, (f.store.records.lookup key).isSome = true →
      (f'.store.records.lookup key).isSome = true)
    (pending : ∀ key, f.Pending key → f'.Pending key)
    (origins : ∀ cID key, f'.origins.lookup cID = some key →
      f.origins.lookup cID = some key ∨ f'.Pending key)
    (relies : ∀ place, f'.Relies place → f.Relies place ∧ f'.jobs place = f.jobs place ∨
      (f.store.records.lookup (f'.jobs place).key).isSome = true)
    (kept : ∀ key, f.Flagged key → f.Live key → f'.Live key) : Settled f' := by
  refine ⟨fun key flagged => ?_, fun cID key origin => ?_, fun place here => stored _ ?_⟩
  · have before := (flags key).mp flagged
    exact kept key before (settled.used key before)
  · rw [flags]
    rcases origins cID key origin with before | marking
    · exact (settled.restored cID key before).imp_right (pending key)
    · exact .inr marking
  · rcases relies place here with ⟨before, same⟩ | known
    · rw [same]
      exact settled.known place before
    · exact known

section Set

variable {cID : String} {m : Machine} {place : String × Nat}

theorem relies_set (here : (f.set cID m).Relies place) :
    f.Relies place ∨ place.1 = cID ∧ (m.launches place.2).starter = .restoring := by
  rcases here with restoring | marking
  · by_cases same : place.1 = cID
    · rw [same, machines_set_self] at restoring
      exact .inr ⟨same, restoring⟩
    · rw [machines_set_of_ne same] at restoring
      exact .inl (.inl restoring)
  · exact .inl (.inr marking)

theorem relies_set_of_keeps (keeps : (f.machines cID).Keeps m) (here : (f.set cID m).Relies place) :
    f.Relies place := by
  rcases relies_set here with before | ⟨rfl, restoring⟩
  · exact before
  · exact .inl (keeps _ restoring)

theorem Settled.set (settled : Settled f) {updates : Nat → Updater}
    (keeps : (f.machines cID).Keeps m)
    (kept : ∀ key, f.Flagged key → f.Live key → (f.set cID m).Live key) :
    Settled { f.set cID m with updates := updates } :=
  settled.keep (fun _ => .rfl) (fun _ found => found) (fun _ pending => pending)
    (fun _ _ origin => .inl (origins_set origin))
    (fun _ here => .inl ⟨relies_set_of_keeps keeps here, rfl⟩) kept

theorem live_set (slot : m.slot = (f.machines cID).slot) (live : f.Live key) :
    (f.set cID m).Live key := by
  obtain ⟨name, origin, runs⟩ := live
  refine ⟨name, ?_⟩
  by_cases same : name = cID
  · subst same
    obtain ⟨c, there, -⟩ := id runs
    simp only [Fleet.set, Function.update_self, slot, there, Option.isNone_some, Bool.or_self,
      Bool.false_eq_true, if_false]
    exact ⟨origin, there ▸ runs⟩
  · rw [origins_set_of_ne same, machines_set_of_ne same]
    exact ⟨origin, runs⟩

end Set

variable {r : Record} {cID : String} {k : Nat} {m : Machine} {place : String × Nat} {job : Job}
  {a : FleetAction}

theorem Settled.write (settled : Settled f) (key : String × String) (unused : r.inUse = false)
    (records : f'.store.records = f.store.records.insert key r)
    (pending : ∀ key, f.Pending key → f'.Pending key)
    (origins : ∀ cID key, f'.origins.lookup cID = some key →
      f.origins.lookup cID = some key)
    (live : ∀ key, f.Live key → f'.Live key)
    (relies : ∀ place, f'.Relies place → f.Relies place ∧ f'.jobs place = f.jobs place ∨
      (f'.jobs place).key = key)
    (careful : f.Live key → f.Pending key) : Settled f' := by
  have others : ∀ other, other ≠ key →
      f'.store.records.lookup other = f.store.records.lookup other := by
    intro other apart
    rw [records, AList.lookup_insert_ne apart]
  have own : f'.store.records.lookup key = some r := by rw [records, AList.lookup_insert]
  refine ⟨fun other flagged => ?_, fun cID other origin => ?_, fun place here => ?_⟩
  · obtain ⟨r', found, inUse⟩ := flagged
    have apart : other ≠ key := by
      rintro rfl
      rw [own] at found
      cases found
      rw [unused] at inUse
      cases inUse
    rw [others other apart] at found
    exact live other (settled.used other ⟨r', found, inUse⟩)
  · by_cases same : other = key
    · subst same
      rcases settled.restored cID other (origins cID other origin) with flagged | marking
      · exact .inr (pending other (careful (settled.used other flagged)))
      · exact .inr (pending other marking)
    · rw [Flagged, others other same]
      exact (settled.restored cID other (origins cID other origin)).imp_right (pending other)
  · by_cases same : (f'.jobs place).key = key
    · rw [same, own]
      rfl
    · obtain ⟨before, jobs⟩ := (relies place here).resolve_right same
      rw [others _ same, jobs]
      exact settled.known place before

section Places

variable {place : String × Nat} {errand : Errand}

theorem pending_note (apart : f.errands place ≠ .marking) (pending : f.Pending key) :
    (f.note place errand).Pending key := by
  obtain ⟨other, marking, same⟩ := pending
  have elsewhere : other ≠ place := fun here => apart (here ▸ marking)
  exact ⟨other, (errands_note_of_ne elsewhere).trans marking, same⟩

theorem pending_assign {job : Job} (apart : f.errands place ≠ .marking) (pending : f.Pending key) :
    (f.assign place job).Pending key := by
  obtain ⟨other, marking, same⟩ := pending
  have elsewhere : other ≠ place := fun here => apart (here ▸ marking)
  exact ⟨other, marking, by rw [jobs_assign_of_ne elsewhere, same]⟩

theorem relies_note (apart : errand ≠ .marking) {other : String × Nat}
    (here : (f.note place errand).Relies other) : f.Relies other := by
  rcases here with restoring | marking
  · exact .inl restoring
  · by_cases same : other = place
    · subst same
      rw [errands_note_self] at marking
      exact absurd marking apart
    · rw [errands_note_of_ne same] at marking
      exact .inr marking

end Places

theorem Settled.proceed (settled : Settled f) (free : f.errands (cID, k) = .none)
    (keeps : (f.machines cID).Keeps m)
    (kept : ∀ key, f.Flagged key → f.Live key → (f.proceed cID k m).Live key) :
    Settled (f.proceed cID k m) := by
  have other : f.errands (cID, k) ≠ .marking := by simp [free]
  unfold Fleet.proceed at kept ⊢
  dsimp only at kept ⊢
  split_ifs at kept ⊢ with restored recorded
  · refine settled.keep (fun _ => .rfl) (fun _ found => found)
      (fun key => pending_note (f := f) other) ?_ ?_ kept
    · intro name key origin
      by_cases same : name = cID
      · subst same
        rw [AList.lookup_insert, Option.some.injEq] at origin
        exact .inr ⟨(name, k), errands_note_self, origin⟩
      · rw [AList.lookup_insert_ne same] at origin
        exact .inl origin
    · intro place here
      refine .inl ⟨?_, rfl⟩
      by_cases same : place = (cID, k)
      · subst same
        exact .inl restored.1
      · rcases here with restoring | marking
        · exact relies_set_of_keeps keeps (.inl restoring)
        · exact .inr ((errands_note_of_ne same).symm.trans marking)
  · refine settled.keep (fun _ => .rfl) (fun _ found => found)
      (fun key => pending_note (f := f) other) (fun _ _ origin => .inl (origins_set origin))
      (fun place here => .inl ⟨?_, rfl⟩) kept
    exact relies_set_of_keeps keeps (relies_note (by simp) here)
  · exact settled.set keeps kept

theorem live_proceed (past : ((f.machines cID).launches k).starter ≠ .restoring)
    (slot : m.slot = (f.machines cID).slot) (live : f.Live key) : (f.proceed cID k m).Live key := by
  unfold Fleet.proceed
  dsimp only
  split_ifs with restored
  · exact absurd restored.1 past
  · exact live_set slot live
  · exact live_set slot live

theorem not_relies (free : f.errands place = .none)
    (idle : ((f.machines place.1).launches place.2).starter = .idle) : ¬ f.Relies place := by
  rintro (restoring | marking)
  · rw [idle] at restoring
    cases restoring
  · rw [free] at marking
    cases marking

theorem relies_begun {way : Way} (begun : (f.machines cID).begin k way = some m)
    (here : (f.set cID m).Relies place) (apart : place ≠ (cID, k) ∨ way ≠ .restore) :
    f.Relies place := by
  rcases relies_set here with before | ⟨rfl, restoring⟩
  · exact before
  · rcases (Machine.begin_spec begun).2 _ restoring with before | ⟨own, comes⟩
    · exact .inl before
    · exact (apart.elim (fun other => other (Prod.ext rfl own)) fun other => other comes).elim

theorem Settled.found (settled : Settled f) (free : f.errands (cID, k) = .none)
    (stored : f.store.records.lookup job.key = some r)
    (begun : (f.machines cID).begin k .restore = some m) :
    Settled ((f.assign (cID, k) job).set cID m) := by
  have other : f.errands (cID, k) ≠ .marking := by simp [free]
  refine settled.keep (fun _ => .rfl) (fun _ found => found)
    (fun key => pending_assign (f := f) other)
    (fun _ _ origin => .inl (origins_set (f := f.assign _ _) origin)) ?_
    (fun key _ live => live_set (f := f.assign _ _) (Machine.begin_spec begun).1 live)
  intro place here
  by_cases same : place = (cID, k)
  · have own : ((f.assign (cID, k) job).set cID m).jobs place = job := by
      rw [same]
      exact jobs_assign_self
    rw [own, stored]
    exact .inr rfl
  · refine .inl ⟨relies_begun (f := f.assign _ _) begun here (.inl same), ?_⟩
    exact jobs_assign_of_ne same

theorem Settled.received (settled : Settled f) {disk : Disk} (asked : f.errands (cID, k) = .pulling)
    (unused : r.inUse = false) (begun : (f.machines cID).begin k .restore = some m)
    (careful : f.Live (f.jobs (cID, k)).key → f.Pending (f.jobs (cID, k)).key) :
    Settled (({ f with
      store.disk := disk
      store.records := f.store.records.insert (f.jobs (cID, k)).key r }.note
        (cID, k) .none).set cID m) := by
  have other : f.errands (cID, k) ≠ .marking := by simp [asked]
  refine settled.write _ unused rfl (fun key => pending_note (f := f) other)
    (fun _ _ origin => origins_set (f := f.note (cID, k) .none) origin)
    (fun key live => live_set (f := f.note (cID, k) .none) (Machine.begin_spec begun).1 live) ?_
    careful
  intro place here
  by_cases same : place = (cID, k)
  · subst same
    exact .inr rfl
  · have before := relies_begun (f := f.note (cID, k) .none) begun here (.inl same)
    exact .inl ⟨relies_note (by simp) before, rfl⟩

theorem Settled.registers (settled : Settled f)
    {updates : Nat → Updater} (free : f.errands (cID, k) = .none)
    (idle : ((f.machines cID).launches k).starter = .idle)
    (kept : ∀ key, f.Flagged key → f.Live key →
      (f.onContainerRunning captured cID k job).Live key) :
    Settled { f.onContainerRunning captured cID k job with updates := updates } := by
  have other : f.errands (cID, k) ≠ .marking := by simp [free]
  refine settled.keep (fun _ => .rfl) (fun _ found => found)
    (fun key => pending_assign (f := f) other)
    (fun _ _ origin => .inl (origins_set (f := f.assign _ _) origin)) ?_ kept
  intro place here
  have before : f.Relies place :=
    relies_set_of_keeps (f := f.assign _ _) (Machine.keeps_registered false) here
  refine .inl ⟨before, jobs_assign_of_ne ?_⟩
  rintro rfl
  exact not_relies free idle before

theorem Settled.mark (settled : Settled f) (marking : f.errands place = .marking)
    (live : f.Live (f.jobs place).key)
    (store : f'.store = f.store.update (f.jobs place).key ({ · with inUse := true }))
    (errands : f'.errands = Function.update f.errands place .touching)
    (machines : f'.machines = f.machines) (jobs : f'.jobs = f.jobs)
    (origins : f'.origins = f.origins) : Settled f' := by
  obtain ⟨r, found⟩ := Option.isSome_iff_exists.mp (settled.known place (.inr marking))
  have lookup : ∀ key, f'.store.records.lookup key =
      if key = (f.jobs place).key then some { r with inUse := true }
      else f.store.records.lookup key := by
    intro key
    rw [store, Snapshot.Store.lookup_update, found]
    rfl
  have own : f'.Flagged (f.jobs place).key := ⟨_, (lookup _).trans (if_pos rfl), rfl⟩
  have others : ∀ key, key ≠ (f.jobs place).key → (f'.Flagged key ↔ f.Flagged key) := by
    intro key apart
    rw [Flagged, lookup, if_neg apart]
    rfl
  refine ⟨fun key flagged => ?_, fun cID key origin => ?_, fun other here => ?_⟩
  · rw [Live, machines, origins]
    by_cases same : key = (f.jobs place).key
    · rw [same]
      exact live
    · exact settled.used key ((others key same).mp flagged)
  · rw [origins] at origin
    by_cases same : key = (f.jobs place).key
    · rw [same]
      exact .inl own
    · refine (settled.restored cID key origin).imp (others key same).mpr ?_
      rintro ⟨other, marks, rfl⟩
      have elsewhere : other ≠ place := fun here => same (by rw [here])
      exact ⟨other, by rw [errands, Function.update_of_ne elsewhere, marks], by rw [jobs]⟩
  · have before : f.Relies other := by
      rw [Relies, machines, errands] at here
      refine here.imp_right fun marks => ?_
      by_cases same : other = place
      · rw [same]
        exact marking
      · rwa [Function.update_of_ne same] at marks
    rw [lookup, jobs]
    split
    · rfl
    · exact settled.known other before

section Touch

variable {capsuleID tag : String} {fault : Option String} {now : Int}

theorem lookup_touch (f : Fleet) (capsuleID tag : String) (fault : Option String) (now : Int)
    (key : String × String) :
    ∃ change : Record → Record, (∀ r, (change r).inUse = r.inUse) ∧
      (f.tryStore (f.store.touchAccess fault capsuleID tag now)).store.records.lookup key
        = (f.store.records.lookup key).map change := by
  cases fault with
  | some err => exact ⟨id, fun _ => rfl, by rw [Option.map_id]; rfl⟩
  | none =>
    -- Only one record is changed, and its flag is not.
    have changed : (f.tryStore (f.store.touchAccess none capsuleID tag now)).store
        = f.store.update (capsuleID, tag) ({ · with lastAccessed := now }) := rfl
    rw [changed, Snapshot.Store.lookup_update]
    split
    · rename_i same
      exact ⟨({ · with lastAccessed := now }), fun _ => rfl, by rw [same]⟩
    · exact ⟨id, fun _ => rfl, by rw [Option.map_id]; rfl⟩

theorem flagged_touch (key : String × String) :
    (f.tryStore (f.store.touchAccess fault capsuleID tag now)).Flagged key ↔ f.Flagged key := by
  obtain ⟨change, same, lookup⟩ :=
    lookup_touch f capsuleID tag fault now key
  simp only [Flagged, lookup, Option.map_eq_some_iff]
  constructor
  · rintro ⟨-, ⟨r, found, rfl⟩, inUse⟩
    exact ⟨r, found, same r ▸ inUse⟩
  · rintro ⟨r, found, inUse⟩
    exact ⟨change r, ⟨r, found, rfl⟩, (same r).trans inUse⟩

theorem isSome_touch (key : String × String) (found : (f.store.records.lookup key).isSome = true) :
    ((f.tryStore (f.store.touchAccess fault capsuleID tag now)).store.records.lookup key).isSome
      = true := by
  obtain ⟨change, -, lookup⟩ :=
    lookup_touch f capsuleID tag fault now key
  rw [lookup, Option.isSome_map, found]

end Touch

theorem Settled.act (settled : Settled f) (careful : Careful captured f a)
    (stepped : f.act captured a = some f') : Settled f' := by
  cases move_of_act stepped with
  | unread _ _ begun =>
    refine settled.set (fun i here => ?_) (careful _ stepped)
    exact ((Machine.begin_spec begun).2 i here).resolve_right (by simp)
  | found _ free stored begun => exact settled.found free stored begun
  | @asks _ _ cID k _ _ _ free idle =>
    have other : f.errands (cID, k) ≠ .marking := by simp [free]
    refine settled.keep (fun _ => .rfl) (fun _ found => found)
      (fun key pending => pending_note (f := f.assign _ _) other (pending_assign other pending))
      (fun _ _ origin => .inl origin) (fun place here => .inl ?_) (careful _ stepped)
    have before : f.Relies place := relies_note (f := f.assign _ _) (by simp) here
    refine ⟨before, jobs_assign_of_ne ?_⟩
    rintro rfl
    exact not_relies free idle before
  | @absent cID k _ _ asked begun =>
    have other : f.errands (cID, k) ≠ .marking := by simp [asked]
    refine settled.keep (fun _ => .rfl) (fun _ found => found)
      (fun key => pending_note (f := f) other)
      (fun _ _ origin => .inl (origins_set (f := f.note (cID, k) .none) origin))
      (fun place here => .inl ⟨?_, rfl⟩)
      (fun key _ live => live_set (f := f.note (cID, k) .none) (Machine.begin_spec begun).1 live)
    have before := relies_begun (f := f.note (cID, k) .none) begun here (.inr (by simp))
    exact relies_note (by simp) before
  | received asked unused begun => exact settled.received asked unused begun (careful (by simp))
  | launch free _ later taken =>
    exact settled.proceed free (Machine.keeps_step later taken) (careful _ stepped)
  | goroutine later taken =>
    exact settled.set (Machine.keeps_step later taken) (careful _ stepped)
  | @marks cID _ k fault _ _ _ _ here =>
    simp only [Careful, here] at careful
    obtain ⟨rfl, live⟩ := careful
    exact settled.mark here live rfl rfl rfl rfl rfl
  | @touches cID _ k fault now _ _ _ here =>
    have other : f.errands (cID, k) ≠ .marking := by simp [here]
    exact settled.keep (fun key => flagged_touch key) (fun key found => isSome_touch key found)
      (fun key => pending_note (f := f) other) (fun _ _ origin => .inl origin)
      (fun place there => .inl ⟨relies_note (f := f) (by simp) there, rfl⟩) (fun _ _ live => live)
  | @records cID _ k fault _ _ _ _ _ here =>
    have other : f.errands (cID, k) ≠ .marking := by simp [here]
    have relies : ∀ place, (f.note (cID, k) .none).Relies place → f.Relies place :=
      fun place there => relies_note (by simp) there
    simp only [Careful, here] at careful
    cases fault with
    | some err =>
      exact settled.keep (fun _ => .rfl) (fun _ found => found)
        (fun key => pending_note (f := f) other) (fun _ _ origin => .inl origin)
        (fun place there => .inl ⟨relies place there, rfl⟩) (fun _ _ live => live)
    | none =>
      exact settled.write (f.jobs (cID, k)).key rfl rfl
        (fun key => pending_note (f := f) other) (fun _ _ origin => origin)
        (fun _ live => live) (fun place there => .inl ⟨relies place there, rfl⟩) careful
  | beginUpdate | goes =>
    exact settled.keep (fun _ => .rfl) (fun _ found => found) (fun _ pending => pending)
      (fun _ _ origin => .inl origin) (fun _ here => .inl ⟨here, rfl⟩) (careful _ stepped)
  | replaces =>
    have kept := careful _ stepped
    exact settled.set (fun _ here => here) kept
  | cancels =>
    have kept := careful _ stepped
    exact settled.set (Machine.acts_cancelRunning (k := 0)).keeps kept
  | registers free idle =>
    have kept := careful _ stepped
    exact settled.registers free idle kept

structure Kept (f : Fleet) : Prop where
  settled : Settled f
  visited : ∀ place, f.errands place ≠ .none → place ∈ f.places

theorem Kept.step (kept : Kept f) (careful : Careful captured f a)
    (stepped : f.step captured a = some f') : Kept f' := by
  obtain ⟨g, acted, rfl⟩ := Option.map_eq_some_iff.mp stepped
  have settled := kept.settled.act careful acted
  refine ⟨⟨settled.used, settled.restored, settled.known⟩, fun place errand => ?_⟩
  -- The places of the run are those of its steps.
  rcases (move_of_act acted).errands errand with before | here
  · refine List.mem_append_right _ ?_
    rw [(move_of_act acted).places]
    exact kept.visited place before
  · exact List.mem_append_left _ here

theorem Kept.accurate (kept : Kept f) (quiet : Quiescent f) (key : String × String) :
    f.Flagged key ↔ f.Live key := by
  constructor
  · exact kept.settled.used key
  · rintro ⟨cID, origin, -⟩
    rcases kept.settled.restored cID key origin with flagged | ⟨place, marking, -⟩
    · exact flagged
    · have rest := quiet place (kept.visited place (by simp [marking]))
      simp [atRest, marking] at rest

def webJob : Job := ⟨"web", Machine.restartable⟩

def stocked : Snapshot.Store :=
  ⟨[], .empty, AList.singleton webJob.key (webJob.record [] 0 0 0 1 "")⟩

def node : Fleet := initial (fun _ => webJob) stocked

def web0 : String := containerID "web" "0"

def web1 : String := containerID "web" "1"

def restored : List FleetAction :=
  [.begin "web" "0" 0 (.ok Machine.restartable) none, .goroutine web0 (.starter 0 none),
    .call web0 0 none 0 0 0 0 "", .call web0 0 none 0 0 0 0 "", .goroutine web0 (.starter 0 none)]

def stopped : List FleetAction :=
  restored ++ List.replicate 4 (.goroutine web0 (.stop 0 none))
    ++ [.goroutine web0 (.watcherDone 0)]

def recaptured : List FleetAction :=
  restored
    ++ [.begin "web" "1" 0 (.ok Machine.restartable) none,
      .goroutine web1 (.starter 0 (some "restore"))]
    ++ List.replicate 4 (.goroutine web1 (.starter 0 none))
    ++ [.goroutine web1 (.capture 0 none), .call web1 0 none 0 0 0 1 "",
      .goroutine web1 (.capture 0 none)]

theorem careful_registering {cold : Bool} {fault : Option String}
    (here : ((f.machines cID).launches k).starter = .registering cold) :
    Careful captured f (.goroutine cID (.starter k fault)) := by
  intro f' stepped key _ live
  simp only [act, goroutine, Machine.step, Machine.starterStep, here] at stepped
  split_ifs at stepped
  cases stepped
  refine live_proceed (by simp [here]) ?_ live
  change (f.machines cID).cancelRunning.slot = (f.machines cID).slot
  unfold Machine.cancelRunning
  split <;> rfl

def restores (f : Fleet) : FleetAction → Bool
  | .begin .. => f.store.rows.all fun r => !r.inUse
  | .goroutine cID (.starter k _) =>
    (f.store.rows.all fun r => !r.inUse) ||
      ((f.machines cID).launches k).starter = .registering false
  | .call cID k fault _ _ _ _ _ =>
    match f.errands (cID, k) with
    | .marking =>
      fault = none && f.origins.lookup cID = some (f.jobs (cID, k)).key
        && decide (f.machines cID).slot.Runs
    | .touching => true
    | .none | .pulling | .recording => false
  | _ => false

theorem careful_of_restores (f : Fleet) (a : FleetAction) (ok : restores f a = true) :
    Careful captured f a := by
  have vacuous (none : (f.store.rows.all fun r => !r.inUse) = true) (key : String × String) :
      ¬ f.Flagged key := by
    rintro ⟨r, found, inUse⟩
    have unused := List.all_eq_true.mp none r (Snapshot.Store.mem_rows.mpr ⟨key, found⟩)
    rw [inUse] at unused
    cases unused
  cases a with
  | begin => exact fun f' _ key flagged => absurd flagged (vacuous ok key)
  | goroutine cID a =>
    cases a with
    | starter k fault =>
      simp only [restores, Bool.or_eq_true, decide_eq_true_eq] at ok
      rcases ok with none | here
      · exact fun f' _ key flagged => absurd flagged (vacuous none key)
      · exact careful_registering here
    | _ => cases ok
  | call cID k fault now later zone size checksum =>
    cases errand : f.errands (cID, k) with
    | marking =>
      simp only [restores, errand, Bool.and_eq_true, decide_eq_true_eq] at ok
      simp only [Careful, errand]
      exact ⟨ok.1.1, cID, ok.1.2, ok.2⟩
    | touching => simp only [Careful, errand]
    | none | pulling | recording => simp [restores, errand] at ok
  | _ => cases ok

end Fleet

end Falak.Runtime
