import Mathlib.Logic.Function.Basic

/-! A memory of keys that are recorded once, and forgotten when a sweep finds them too old. -/

namespace Falak

variable {κ ε : Type}

abbrev Seen (κ : Type) := κ → Option Int

namespace Seen

def empty : Seen κ := fun _ => none

def record [DecidableEq κ] (seen : Seen κ) (k : κ) (now : Int) : Seen κ :=
  Function.update seen k (some now)

def sweep (seen : Seen κ) (maxAge now : Int) : Seen κ :=
  fun k => (seen k).filter fun since => !decide (now - since > maxAge)

structure Reading (ε κ : Type) where
  records : ε → Option (κ × Int)
  sweeps : ε → Option Int

def RecordedAt (r : Reading ε κ) (maxAge : Int) (log : List ε) (k : κ) (since : Int) : Prop :=
  ∃ before e after, log = before ++ e :: after ∧ r.records e = some (k, since) ∧
    ∀ e' ∈ after, ∀ now ∈ r.sweeps e', now - since ≤ maxAge

def Tracks (r : Reading ε κ) (maxAge : Int) (seen : Seen κ) (log : List ε) : Prop :=
  ∀ k since, seen k = some since ↔ RecordedAt r maxAge log k since

variable {r : Reading ε κ} {maxAge now : Int} {seen : Seen κ} {log : List ε} {e : ε} {k : κ}

theorem recordedAt_snoc {since : Int} :
    RecordedAt r maxAge (log ++ [e]) k since ↔
      r.records e = some (k, since) ∨
        RecordedAt r maxAge log k since ∧ ∀ now ∈ r.sweeps e, now - since ≤ maxAge := by
  constructor
  · rintro ⟨before, x, after, split, recorded, swept⟩
    rcases List.eq_nil_or_concat after with rfl | ⟨rest, last, rfl⟩
    · obtain ⟨rfl, same⟩ := List.append_inj' split rfl
      cases same
      exact .inl recorded
    · rw [List.concat_eq_append] at split swept
      rw [← List.cons_append, ← List.append_assoc] at split
      obtain ⟨rfl, same⟩ := List.append_inj' split rfl
      cases same
      refine .inr ⟨⟨before, x, rest, rfl, recorded, fun e' there => ?_⟩, ?_⟩
      · exact swept e' (List.mem_append_left _ there)
      · exact swept e (List.mem_append_right _ (List.mem_singleton_self e))
  · rintro (recorded | ⟨⟨before, x, after, rfl, recorded, swept⟩, last⟩)
    · exact ⟨log, e, [], rfl, recorded, by simp⟩
    · refine ⟨before, x, after ++ [e], by simp, recorded, fun e' there => ?_⟩
      rcases List.mem_append.mp there with early | late
      · exact swept e' early
      · rw [List.mem_singleton.mp late]
        exact last

theorem tracks_empty : Tracks r maxAge empty [] := by
  intro k since
  simp [empty, RecordedAt]

theorem Tracks.skip (tracks : Tracks r maxAge seen log) (records : r.records e = none)
    (sweeps : r.sweeps e = none) : Tracks r maxAge seen (log ++ [e]) := by
  intro k since
  rw [tracks, recordedAt_snoc]
  simp [records, sweeps]

theorem Tracks.record [DecidableEq κ] (tracks : Tracks r maxAge seen log) (free : seen k = none)
    (records : r.records e = some (k, now)) (sweeps : r.sweeps e = none) :
    Tracks r maxAge (seen.record k now) (log ++ [e]) := by
  intro other since
  rw [recordedAt_snoc, ← tracks other since, records, sweeps]
  by_cases same : other = k
  · subst same
    simp [Seen.record, free]
  · simp [Seen.record, same, Ne.symm same]

theorem Tracks.sweep (tracks : Tracks r maxAge seen log) (records : r.records e = none)
    (sweeps : r.sweeps e = some now) : Tracks r maxAge (seen.sweep maxAge now) (log ++ [e]) := by
  intro k since
  rw [recordedAt_snoc, ← tracks k since, records, sweeps]
  simp [Seen.sweep, Option.filter_eq_some_iff]

end Seen

end Falak
