import Falak.Capsule.Spec
import Falak.Capsule.StoreLaws
import Falak.Lib.Reach

/-! Whether a store that is opened again finds the capsules that the running store has cached. -/

set_option linter.dupNamespace false

namespace Falak.Capsule

def Capsule.atMillis (c : Capsule) : Capsule :=
  { c with
    createdAt := unixMilli c.createdAt * millisecond
    updatedAt := unixMilli c.updatedAt * millisecond }

namespace Store

variable (s : Store)

inductive Op
  | create (c : Capsule)
  /-- A capsule is handed over as a value of its own. -/
  | update (c : Capsule)
  | rewrite (c : Capsule)
  | delete (id : CapsuleID)

structure Action where
  now : Int
  fault : Option String
  op : Op

def after : Except String Store → Store
  | .ok s' => s'
  | .error _ => s

def step (a : Action) : Option Store :=
  some <|
    match a.op with
    | .create c => s.after (s.create a.now a.fault c)
    | .update c => s.after (s.update a.now a.fault c)
    | .rewrite c =>
      if (s.get c.id).isNone then s
      else
        (s.put { c with updatedAt := a.now }).after ((s.put c).update a.now a.fault c)
    | .delete id => s.after (s.delete a.fault id)

def Recoverable : Prop :=
  ∀ table ∈ s.db, ∀ id, (openStore table).get id = (s.get id).map Capsule.atMillis

def Keeps (a : Action) : Prop :=
  match a.op with
  | .update c => a.fault = none → ∀ old ∈ s.get c.id,
      unixMilli c.createdAt = unixMilli old.createdAt
  | .rewrite c => ∀ old ∈ s.get c.id,
      if a.fault = none then unixMilli c.createdAt = unixMilli old.createdAt
      else ({ c with updatedAt := a.now } : Capsule).atMillis = old.atMillis
  | _ => True

instance (s : Store) (a : Action) : Decidable (s.Keeps a) := by
  unfold Keeps
  split <;> infer_instance

variable {s s' : Store} {a : Action}

theorem millis_inj {x y : Int} : x * millisecond = y * millisecond ↔ x = y := by
  simp only [millisecond, microsecond]
  omega

theorem scanRow_row (c : Capsule) : scanRow c.id c.row = c.atMillis := rfl

theorem recoverable_iff : s.Recoverable ↔ s.Mirrors scanRow Capsule.atMillis := by
  unfold Recoverable Mirrors
  simp only [get_openStore]

variable {table : Table} {c old : Capsule}

theorem rowReads_iff (mirrors : s.Mirrors scanRow Capsule.atMillis) (opened : s.db = some table)
    (cached : s.get c.id = some old) :
    RowReads scanRow Capsule.atMillis s c ↔ unixMilli c.createdAt = unixMilli old.createdAt := by
  have row := mirrors table opened c.id
  rw [cached, Option.map_some, Option.map_eq_some_iff] at row
  obtain ⟨written, there, reads⟩ := row
  have time : written.createdAt = unixMilli old.createdAt :=
    millis_inj.mp (congrArg Capsule.createdAt reads)
  simp only [RowReads, opened, Option.mem_def, Option.some.injEq, forall_eq', there, time]
  constructor
  · intro same
    exact (millis_inj.mp (congrArg Capsule.createdAt same)).symm
  · intro same
    rw [← same]
    rfl

theorem recoverable_put_iff (recoverable : s.Recoverable) (opened : s.db = some table)
    (cached : s.get c.id = some old) : (s.put c).Recoverable ↔ c.atMillis = old.atMillis := by
  have row := recoverable table opened c.id
  rw [cached, Option.map_some] at row
  constructor
  · intro after
    have own := after table opened c.id
    rw [row, get_put, if_pos rfl] at own
    exact (Option.some.inj own).symm
  · intro same table' there id
    rw [get_put]
    split
    · rename_i here
      subst here
      rw [put_db, opened] at there
      cases there
      rw [row, Option.map_some, same]
    · exact recoverable table' there id

theorem step_db (stepped : s.step a = some s') : s'.db.isSome = s.db.isSome := by
  have kept {statement : Table → Except String Table} {db : Option Table}
      (ran : s.exec a.fault statement = .ok db) : db.isSome = s.db.isSome := by
    obtain ⟨absent, rfl⟩ | ⟨table, table', before, -, rfl⟩ := exec_ok ran
    · rw [absent]
    · rw [before]
      rfl
  obtain ⟨now, fault, op⟩ := a
  cases stepped
  cases op with
  | create c =>
    cases created : s.create now fault c with
    | error err => simp [created, after]
    | ok s' =>
      obtain ⟨-, db, ran, rfl⟩ := create_ok created
      simpa [created, after] using kept ran
  | update c =>
    cases updated : s.update now fault c with
    | error err => simp [updated, after]
    | ok s' =>
      obtain ⟨-, db, ran, rfl⟩ := update_ok updated
      simpa [updated, after] using kept ran
  | rewrite c =>
    simp only
    split
    · rfl
    · cases updated : (s.put c).update now fault c with
      | error err => simp [after]
      | ok s' =>
        obtain ⟨-, db, ran, rfl⟩ := update_ok updated
        simpa [after] using kept ran
  | delete id =>
    cases deleted : s.delete fault id with
    | error err => simp [deleted, after]
    | ok s' =>
      obtain ⟨-, db, ran, rfl⟩ := delete_ok deleted
      simpa [deleted, after] using kept ran

theorem recoverable_written_iff {s₁ : Store} {now : Int} {fault : Option String}
    (recoverable : s.Recoverable) (opened : s.db = some table) (cached : s.get c.id = some old)
    (sameDb : s₁.db = s.db) (others : ∀ id, id ≠ c.id → s₁.get id = s.get id)
    (updated : s₁.update now fault c = .ok s') :
    s'.Recoverable ↔ unixMilli c.createdAt = unixMilli old.createdAt := by
  rw [recoverable_iff] at recoverable ⊢
  rw [recoverable.update_iff sameDb others (by rw [cached]; rfl) updated]
  exact rowReads_iff (c := { c with updatedAt := now }) recoverable opened cached

theorem recoverable_step_iff (recoverable : s.Recoverable) (opened : s.db = some table)
    (stepped : s.step a = some s') : s'.Recoverable ↔ s.Keeps a := by
  obtain ⟨now, fault, op⟩ := a
  cases stepped
  cases op with
  | create c =>
    refine iff_of_true ?_ trivial
    cases created : s.create now fault c with
    | error err => simpa only [created, after] using recoverable
    | ok s' =>
      rw [recoverable_iff] at recoverable ⊢
      simpa only [created, after] using recoverable.create scanRow_row created
  | update c =>
    simp only [Keeps]
    cases cached : s.get c.id with
    | none => simpa [update, cached, after] using recoverable
    | some old =>
      have present : (s.get c.id).isSome = true := by rw [cached]; rfl
      obtain ⟨⟨fails, -⟩, err, refused⟩ | ⟨accepts, s', updated⟩ :=
        update_present_cases now fault present
      · simpa [refused, after, fails] using recoverable
      · have fine : fault = none := by simpa [opened] using accepts
        rw [updated, after,
          recoverable_written_iff recoverable opened cached rfl (fun _ _ => rfl) updated]
        simp [fine]
  | rewrite c =>
    simp only [Keeps]
    cases cached : s.get c.id with
    | none => simpa using recoverable
    | some old =>
      obtain ⟨⟨fails, -⟩, err, refused⟩ | ⟨accepts, s', updated⟩ :=
        update_present_cases (s := s.put c) now fault (c := c) (by simp)
      · simp only [refused, after, Option.isNone_some, Bool.false_eq_true, if_false,
          Option.mem_def, Option.some.injEq, forall_eq', fails]
        exact recoverable_put_iff recoverable opened cached
      · obtain rfl : fault = none := by simpa [opened] using accepts
        simp only [updated, after, Option.isNone_some, Bool.false_eq_true, if_false,
          Option.mem_def, Option.some.injEq, forall_eq', if_true]
        exact recoverable_written_iff recoverable opened cached (put_db s c)
          (fun id other => by simp [other]) updated
  | delete id =>
    refine iff_of_true ?_ trivial
    cases deleted : s.delete fault id with
    | error err => simpa only [deleted, after] using recoverable
    | ok s' =>
      rw [recoverable_iff] at recoverable ⊢
      simpa only [deleted, after] using recoverable.delete deleted

theorem recoverable_openStore (table : Table) : (openStore table).Recoverable := by
  have whole (x : Int) : unixMilli (x * millisecond) * millisecond = x * millisecond := by
    simp only [unixMilli, millisecond, microsecond]
    omega
  intro table' there id
  cases there
  rw [get_openStore, Option.map_map]
  refine congrArg (Option.map · _) (funext fun row => ?_)
  simp only [Function.comp_apply, Capsule.atMillis, scanRow, whole]

theorem Recoverable.list_perm (recoverable : s.Recoverable) (opened : s.db = some table) :
    (openStore table).list.Perm (s.list.map Capsule.atMillis) :=
  list_perm_map (fun _ => rfl) (recoverable table opened)

/--
A store that is opened again finds what is cached, in every run whose calls keep what is written.
-/
theorem database_copies_cache (table : Table) {s : Store}
    (reached : Reach step Keeps (openStore table) s) :
    (∃ table', s.db = some table' ∧
      (∀ id, (openStore table').get id = (s.get id).map Capsule.atMillis) ∧
      (openStore table').list.Perm (s.list.map Capsule.atMillis)) ∧
    ∀ a s', ¬ s.Keeps a → s.step a = some s' →
      ∃ table', s'.db = some table' ∧
        ∃ id, (openStore table').get id ≠ (s'.get id).map Capsule.atMillis := by
  obtain ⟨recoverable, opened⟩ := reached.invariant (fun s => s.Recoverable ∧ s.db.isSome = true)
    ⟨recoverable_openStore table, rfl⟩ fun s a s' before keeps stepped => by
      obtain ⟨table, opened⟩ := Option.isSome_iff_exists.mp before.2
      refine ⟨(recoverable_step_iff before.1 opened stepped).mpr keeps, ?_⟩
      rw [step_db stepped, before.2]
  obtain ⟨table', opened⟩ := Option.isSome_iff_exists.mp opened
  refine ⟨⟨table', opened, recoverable table' opened, recoverable.list_perm opened⟩, ?_⟩
  intro a s' breaks stepped
  obtain ⟨last, there⟩ : ∃ last, s'.db = some last := by
    rw [← Option.isSome_iff_exists, step_db stepped, opened]
    rfl
  refine ⟨last, there, ?_⟩
  by_contra found
  push Not at found
  refine breaks ((recoverable_step_iff recoverable opened stepped).mp fun table'' same id => ?_)
  rw [Option.mem_def, there] at same
  cases same
  exact found id

def announcedAt (createdAt : Int) (status : CapsuleStatus) : Capsule :=
  { id := "web"
    clusterID := "cluster"
    spec := bareSpec ⟨0, 0, 0⟩
    status := status
    replicas := []
    momentum := ⟨0, 0, 0⟩
    version := "1"
    createdAt := createdAt
    updatedAt := createdAt }

def copies {β : Type} (s : Store) (read : Capsule → β) : Option β × Option β :=
  ((s.get "web").map read,
    (s.db.bind fun table => (openStore table).get "web").map read)

/-- A capsule that is written over another one keeps the creation time of its row. -/
theorem reopened_store_differs :
    (∃ s, Reach step (fun _ _ => True) (openStore ∅) s ∧
      s.copies Capsule.createdAt = (some (60 * 10 ^ 9), some 0)) ∧
    ∃ s, Reach step (fun _ _ => True) (openStore ∅) s ∧
      s.copies Capsule.status = (some .running, some .created) := by
  constructor
  · exact Reach.exists_of_actions _ _
      [⟨0, none, .create (announcedAt 0 .created)⟩,
        ⟨1, none, .update (announcedAt (60 * 10 ^ 9) .created)⟩] _ (by decide +kernel)
  · exact Reach.exists_of_actions _ _
      [⟨0, none, .create (announcedAt 0 .created)⟩,
        ⟨1, some "disk full", .rewrite (announcedAt 0 .running)⟩] _ (by decide +kernel)

/-- A capsule that is moved in place is found moved, and a refused value leaves no trace. -/
theorem database_copies_cache_moved :
    ∃ s table, Reach step Keeps (openStore ∅) s ∧ s.db = some table ∧
      (s.get "web").map Capsule.status = some .running ∧
      (openStore table).get "web" = (s.get "web").map Capsule.atMillis := by
  obtain ⟨s, reached, ends⟩ := Reach.exists_of_accepted (fun s a => decide (s.Keeps a))
    (fun _ _ => of_decide_eq_true) step (openStore ∅)
    [⟨0, none, .create (announcedAt 0 .created)⟩, ⟨1, none, .rewrite (announcedAt 0 .running)⟩,
      ⟨2, some "disk full", .update (announcedAt (60 * 10 ^ 9) .stopped)⟩]
    (fun s => (s.get "web").map Capsule.status = some .running) (by decide +kernel)
  obtain ⟨⟨table, opened, found, -⟩, -⟩ := database_copies_cache ∅ reached
  exact ⟨s, table, reached, opened, ends, found "web"⟩

end Store

end Falak.Capsule
