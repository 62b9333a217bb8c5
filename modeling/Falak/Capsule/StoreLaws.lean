import Falak.Capsule.Store

/-! What the operations of a store require, and that rows and cache stay in step. -/

namespace Falak.Capsule.Store

variable {s s' : Store} {fault : Option String} {now : Int} {c : Capsule} {id : CapsuleID}

theorem exec_ok {statement : Table → Except String Table} {db : Option Table}
    (ran : s.exec fault statement = .ok db) :
    s.db = none ∧ db = none ∨
      ∃ table table', s.db = some table ∧ statement table = .ok table' ∧ db = some table' := by
  unfold exec at ran
  split at ran
  · rename_i absent
    cases ran
    exact .inl ⟨absent, rfl⟩
  · cases ran
  · rename_i table there
    cases done : statement table with
    | error err => simp [done, Except.map] at ran
    | ok table' =>
      simp only [done, Except.map, Except.ok.injEq] at ran
      exact .inr ⟨table, table', there, done, ran.symm⟩

theorem create_ok (created : s.create now fault c = .ok s') :
    s.get c.id = none ∧
      ∃ db, s.exec fault (insertDB { c with createdAt := now, updatedAt := now }) = .ok db ∧
        s' = { s with db := db }.put { c with createdAt := now, updatedAt := now } := by
  unfold create at created
  split at created
  · cases created
  · rename_i absent
    refine ⟨by simpa using absent, ?_⟩
    cases ran : s.exec fault (insertDB { c with createdAt := now, updatedAt := now }) with
    | error err => simp [ran] at created
    | ok db =>
      simp only [ran, Except.ok.injEq] at created
      exact ⟨db, rfl, created.symm⟩

theorem update_ok (updated : s.update now fault c = .ok s') :
    (s.get c.id).isSome = true ∧
      ∃ db, s.exec fault (updateDB { c with updatedAt := now }) = .ok db ∧
        s' = { s with db := db }.put { c with updatedAt := now } := by
  unfold update at updated
  split at updated
  · cases updated
  · rename_i present
    refine ⟨by simpa [Option.isSome_iff_ne_none] using present, ?_⟩
    cases ran : s.exec fault (updateDB { c with updatedAt := now }) with
    | error err => simp [ran] at updated
    | ok db =>
      simp only [ran, Except.ok.injEq] at updated
      exact ⟨db, rfl, updated.symm⟩

theorem delete_ok (deleted : s.delete fault id = .ok s') :
    (s.get id).isSome = true ∧
      ∃ db, s.exec fault (deleteDB id) = .ok db ∧
        s' = { s with db := db, capsules := s.capsules.erase id } := by
  unfold delete at deleted
  split at deleted
  · cases deleted
  · rename_i present
    refine ⟨by simpa [Option.isSome_iff_ne_none] using present, ?_⟩
    cases ran : s.exec fault (deleteDB id) with
    | error err => simp [ran] at deleted
    | ok db =>
      simp only [ran, Except.ok.injEq] at deleted
      exact ⟨db, rfl, deleted.symm⟩

section Mirrors

variable {β : Type} {f : CapsuleID → Row → β} {g : Capsule → β} {s s' : Store} {now : Int}
  {fault : Option String}

def Mirrors (f : CapsuleID → Row → β) (g : Capsule → β) (s : Store) : Prop :=
  ∀ table ∈ s.db, ∀ id, (table.lookup id).map (f id) = (s.get id).map g

theorem Mirrors.create {c : Capsule} (reads : ∀ c, f c.id c.row = g c) (mirrors : s.Mirrors f g)
    (created : s.create now fault c = .ok s') : s'.Mirrors f g := by
  -- A row is inserted for the capsule that is cached.
  obtain ⟨-, db, ran, rfl⟩ := create_ok created
  intro table' there id
  obtain ⟨-, rfl⟩ | ⟨table, inserted, before, done, rfl⟩ := exec_ok ran
  · cases there
  · cases there
    unfold insertDB at done
    split at done
    · cases done
    · cases done
      rw [get_put]
      split
      · rename_i same
        subst same
        rw [AList.lookup_insert]
        exact congrArg some (reads _)
      · rename_i other
        rw [AList.lookup_insert_ne other]
        exact mirrors table before id

def RowReads (f : CapsuleID → Row → β) (g : Capsule → β) (s : Store) (c : Capsule) : Prop :=
  ∀ table ∈ s.db, ∀ old ∈ table.lookup c.id, f c.id { c.row with createdAt := old.createdAt } = g c

theorem Mirrors.update_iff {s₁ : Store} {c : Capsule} (mirrors : s.Mirrors f g)
    (sameDb : s₁.db = s.db) (others : ∀ id, id ≠ c.id → s₁.get id = s.get id)
    (present : (s.get c.id).isSome = true) (updated : s₁.update now fault c = .ok s') :
    s'.Mirrors f g ↔ RowReads f g s { c with updatedAt := now } := by
  obtain ⟨-, db, ran, rfl⟩ := update_ok updated
  obtain ⟨absent, rfl⟩ | ⟨table, written, before, done, rfl⟩ := exec_ok ran
  · -- Without a table there is no row to disagree.
    rw [sameDb] at absent
    exact iff_of_true (by simp [Mirrors]) (by simp [RowReads, absent])
  · rw [sameDb] at before
    have row := mirrors table before c.id
    unfold updateDB at done
    cases found : table.lookup c.id with
    | none =>
      -- The capsule was cached, so it has a row.
      obtain ⟨cached, here⟩ := Option.isSome_iff_exists.mp present
      rw [found, here] at row
      cases row
    | some old =>
      simp only [found] at done
      cases done
      have only : RowReads f g s { c with updatedAt := now } ↔
          f c.id { ({ c with updatedAt := now } : Capsule).row with createdAt := old.createdAt }
            = g { c with updatedAt := now } := by
        simp [RowReads, before, found]
      rw [only]
      constructor
      · intro after
        have own := after _ rfl c.id
        rw [get_put, if_pos rfl, AList.lookup_insert] at own
        exact Option.some.inj own
      · intro reads table' there id
        cases there
        rw [get_put]
        split
        · rename_i same
          subst same
          rw [AList.lookup_insert]
          exact congrArg some reads
        · rename_i other
          rw [AList.lookup_insert_ne other, get_withDb, others id other]
          exact mirrors table before id

theorem Mirrors.delete {id : CapsuleID} (mirrors : s.Mirrors f g)
    (deleted : s.delete fault id = .ok s') : s'.Mirrors f g := by
  obtain ⟨-, db, ran, rfl⟩ := delete_ok deleted
  intro table' there other
  obtain ⟨-, rfl⟩ | ⟨table, erased, before, done, rfl⟩ := exec_ok ran
  · cases there
  · cases there
    cases done
    rw [get_erase]
    split
    · rename_i same
      subst same
      simp
    · rename_i different
      rw [AList.lookup_erase_ne different]
      exact mirrors table before other

end Mirrors

def Synced (s : Store) : Prop :=
  ∀ table ∈ s.db, ∀ id, (table.lookup id).map Row.status = (s.get id).map Capsule.status

theorem synced_new : new.Synced := by simp [Synced, new]

theorem synced_openStore (table : Table) : (openStore table).Synced := by
  intro table' there id
  cases there
  rw [get_openStore, Option.map_map]
  rfl

theorem Synced.create (synced : s.Synced) (created : s.create now fault c = .ok s') : s'.Synced :=
  Mirrors.create (fun _ => rfl) synced created

theorem Synced.update {s₁ : Store} (synced : s.Synced) (sameDb : s₁.db = s.db)
    (others : ∀ id, id ≠ c.id → s₁.get id = s.get id) (present : (s.get c.id).isSome = true)
    (updated : s₁.update now fault c = .ok s') : s'.Synced := by
  refine (Mirrors.update_iff synced sameDb others present updated).mpr ?_
  intro table _ old _
  rfl

theorem Synced.create_of_absent (synced : s.Synced) (now : Int) (absent : s.get c.id = none) :
    ∃ s', s.create now none c = .ok s' := by
  unfold Store.create
  rw [absent]
  cases db : s.db with
  | none => simp [exec, db]
  | some table =>
    have row := synced table db c.id
    rw [absent, Option.map_none, Option.map_eq_none_iff, AList.lookup_eq_none] at row
    simp [exec, db, insertDB, row, Except.map]

theorem Synced.delete (synced : s.Synced) (deleted : s.delete fault id = .ok s') : s'.Synced :=
  Mirrors.delete synced deleted

variable {s s' : Store} {now : Int} {fault : Option String} {c : Capsule}

theorem get_rewrite (stamped : c.updatedAt = now) (updated : (s.put c).update now fault c = .ok s')
    (id : CapsuleID) : s'.get id = if id = c.id then some c else s.get id := by
  obtain ⟨-, db, -, rfl⟩ := update_ok updated
  subst stamped
  rw [get_put, get_withDb, get_put]
  split <;> rfl

theorem Synced.rewrite (synced : s.Synced) (present : (s.get c.id).isSome = true)
    (updated : (s.put c).update now fault c = .ok s') : s'.Synced := by
  refine synced.update (put_db s c) (fun id other => ?_) present updated
  simp [other]

theorem update_of_present (now : Int) (present : (s.get c.id).isSome = true) :
    ∃ s', s.update now none c = .ok s' := by
  have there : (s.get c.id).isNone = false := by
    simpa [Option.isSome_iff_ne_none] using present
  unfold update
  rw [there]
  cases db : s.db with
  | none => simp [exec, db]
  | some table =>
    cases found : table.lookup c.id <;> simp [exec, db, updateDB, found, Except.map]

theorem update_present_cases (now : Int) (fault : Option String)
    (present : (s.get c.id).isSome = true) :
    (fault ≠ none ∧ s.db ≠ none) ∧ (∃ err, s.update now fault c = .error err) ∨
      ¬ (fault ≠ none ∧ s.db ≠ none) ∧ ∃ s', s.update now fault c = .ok s' := by
  have there : (s.get c.id).isNone = false := by
    simpa [Option.isSome_iff_ne_none] using present
  cases db : s.db with
  | none =>
    refine .inr ⟨fun both => both.2 rfl, ?_⟩
    simp [update, there, exec, db]
  | some table =>
    cases fault with
    | none => exact .inr ⟨fun both => both.1 rfl, update_of_present now present⟩
    | some err => exact .inl ⟨by simp, by simp [update, there, exec, db]⟩

theorem create_absent_cases (now : Int) (fault : Option String) (absent : s.get c.id = none) :
    (fault ≠ none ∧ s.db ≠ none ∨ ∃ table ∈ s.db, c.id ∈ table) ∧
        (∃ err, s.create now fault c = .error err) ∨
      ¬ (fault ≠ none ∧ s.db ≠ none ∨ ∃ table ∈ s.db, c.id ∈ table) ∧
        ∃ s', s.create now fault c = .ok s' := by
  cases db : s.db with
  | none =>
    refine .inr ⟨by simp, ?_⟩
    simp [create, absent, exec, db]
  | some table =>
    cases fault with
    | some err => exact .inl ⟨.inl (by simp), by simp [create, absent, exec, db]⟩
    | none =>
      by_cases taken : c.id ∈ table
      · refine .inl ⟨.inr ⟨table, rfl, taken⟩, ?_⟩
        simp [create, absent, exec, db, insertDB, taken, Except.map]
      · refine .inr ⟨by simp [taken], ?_⟩
        simp [create, absent, exec, db, insertDB, taken, Except.map]

theorem delete_present_cases (fault : Option String) (present : (s.get id).isSome = true) :
    (fault ≠ none ∧ s.db ≠ none) ∧ (∃ err, s.delete fault id = .error err) ∨
      ¬ (fault ≠ none ∧ s.db ≠ none) ∧ ∃ s', s.delete fault id = .ok s' := by
  have there : (s.get id).isNone = false := by
    simpa [Option.isSome_iff_ne_none] using present
  cases db : s.db with
  | none =>
    refine .inr ⟨fun both => both.2 rfl, ?_⟩
    simp [delete, there, exec, db]
  | some table =>
    cases fault with
    | none =>
      refine .inr ⟨fun both => both.1 rfl, ?_⟩
      simp [delete, there, exec, db, deleteDB, Except.map]
    | some err => exact .inl ⟨by simp, by simp [delete, there, exec, db]⟩

theorem rewrite_none (s : Store) (now : Int) (c : Capsule) :
    ∃ s', (s.put c).update now none c = .ok s' := update_of_present now (by simp)

end Falak.Capsule.Store
