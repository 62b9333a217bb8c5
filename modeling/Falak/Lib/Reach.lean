import Mathlib.Logic.Basic

/-! Runs of a partial stepping function, and the invariants that every run keeps. -/

namespace Falak

variable {σ α : Type}

inductive Reach (step : σ → α → Option σ) (allowed : σ → α → Prop) (start : σ) : σ → Prop
  | start : Reach step allowed start start
  | next {s s' : σ} {a : α} (before : Reach step allowed start s) (ok : allowed s a)
      (taken : step s a = some s') : Reach step allowed start s'

theorem of_guard {c : Prop} [Decidable c] {s s' : σ}
    (taken : (if c then some s else none) = some s') : c ∧ s = s' := by
  rwa [Option.ite_none_right_eq_some, Option.some.injEq] at taken

namespace Reach

variable {step : σ → α → Option σ} {allowed : σ → α → Prop} {start : σ} {s : σ}

theorem invariant (reached : Reach step allowed start s) (inv : σ → Prop) (initial : inv start)
    (keeps : ∀ s a s', inv s → allowed s a → step s a = some s' → inv s') : inv s := by
  induction reached with
  | start => exact initial
  | next before ok taken ih => exact keeps _ _ _ ih ok taken

theorem mono {allowed' : σ → α → Prop} (weaker : ∀ s a, allowed s a → allowed' s a)
    (reached : Reach step allowed start s) : Reach step allowed' start s := by
  induction reached with
  | start => exact .start
  | next _ ok taken ih => exact .next ih (weaker _ _ ok) taken

theorem trans {s' : σ} (first : Reach step allowed start s) (second : Reach step allowed s s') :
    Reach step allowed start s' := by
  induction second with
  | start => exact first
  | next _ ok taken ih => exact .next ih ok taken

theorem exists_of_descent {goal : σ → Prop} (inv : σ → Prop) (rank : σ → Nat)
    (closer : ∀ s, inv s → ¬ goal s → ∃ s', Reach step allowed s s' ∧ inv s' ∧ rank s' < rank s)
    (s : σ) (here : inv s) : ∃ s', Reach step allowed s s' ∧ inv s' ∧ goal s' := by
  induction far : rank s using Nat.strongRecOn generalizing s with
  | ind n ih =>
    by_cases done : goal s
    · exact ⟨s, .start, here, done⟩
    · obtain ⟨middle, first, kept, less⟩ := closer s here done
      obtain ⟨s', reached, there, done⟩ := ih (rank middle) (far ▸ less) middle kept rfl
      exact ⟨s', first.trans reached, there, done⟩

theorem exists_of_rank {goal : σ → Prop} (inv : σ → Prop) (rank : σ → Nat)
    (closer : ∀ s, inv s → ¬ goal s →
      ∃ a s', allowed s a ∧ step s a = some s' ∧ inv s' ∧ rank s' < rank s)
    (s : σ) (here : inv s) : ∃ s', Reach step allowed s s' ∧ goal s' := by
  obtain ⟨s', reached, -, done⟩ := exists_of_descent inv rank
    (fun s here away => by
      obtain ⟨a, s', ok, taken, kept, less⟩ := closer s here away
      exact ⟨s', .next .start ok taken, kept, less⟩) s here
  exact ⟨s', reached, done⟩

end Reach

inductive Trace (step : σ → α → Option σ) (allowed : σ → α → Prop) (start : σ) :
    List α → σ → Prop
  | start : Trace step allowed start [] start
  | next {s s' : σ} {actions : List α} {a : α} (before : Trace step allowed start actions s)
      (ok : allowed s a) (taken : step s a = some s') : Trace step allowed start (actions ++ [a]) s'

namespace Trace

variable {step : σ → α → Option σ} {allowed : σ → α → Prop} {start : σ}

theorem reach {actions : List α} {s : σ} (trace : Trace step allowed start actions s) :
    Reach step allowed start s := by
  induction trace with
  | start => exact .start
  | next _ ok taken ih => exact .next ih ok taken

/-- A view of the states turns a run into a run of the view. -/
theorem simulate {τ : Type} (step' : τ → α → Option τ) (allowed' : τ → α → Prop) (view : σ → τ)
    (seen : α → Bool)
    (follows : ∀ s a s', allowed s a → step s a = some s' →
      seen a = false ∧ view s' = view s ∨
        allowed' (view s) a ∧ step' (view s) a = some (view s'))
    {actions : List α} {s : σ} (trace : Trace step allowed start actions s) :
    ∃ actions', Trace step' allowed' (view start) actions' (view s) ∧
      actions'.filter seen = actions.filter seen := by
  induction trace with
  | start => exact ⟨[], .start, rfl⟩
  | @next s s' actions a before ok taken ih =>
    obtain ⟨actions', reached, same⟩ := ih
    rcases follows s a s' ok taken with ⟨unseen, still⟩ | ⟨ok', taken'⟩
    · exact ⟨actions', still ▸ reached, by simp [unseen, same]⟩
    · exact ⟨actions' ++ [a], .next reached ok' taken', by simp [same]⟩

end Trace

def run (step : σ → α → Option σ) (accepts : σ → α → Bool) : σ → List α → Option σ
  | s, [] => some s
  | s, a :: rest => if accepts s a then (step s a).bind (run step accepts · rest) else none

variable {allowed : σ → α → Prop}

theorem Trace.of_run {step : σ → α → Option σ} {start : σ} {accepts : σ → α → Bool}
    (safe : ∀ s a, accepts s a = true → allowed s a) (actions : List α) {before : List α} {s s' : σ}
    (trace : Trace step allowed start before s) (ran : run step accepts s actions = some s') :
    Trace step allowed start (before ++ actions) s' := by
  induction actions generalizing before s with
  | nil =>
    simp only [run, Option.some.injEq] at ran
    simpa [← ran] using trace
  | cons a rest ih =>
    simp only [run] at ran
    split at ran
    · rename_i accepted
      cases taken : step s a with
      | none => simp [taken] at ran
      | some middle =>
        simp only [taken, Option.bind_some] at ran
        simpa using ih (trace.next (safe s a accepted) taken) ran
    · cases ran

theorem Trace.exists_of_accepted (accepts : σ → α → Bool)
    (safe : ∀ s a, accepts s a = true → allowed s a) (step : σ → α → Option σ) (start : σ)
    (actions : List α) (P : σ → Prop) [DecidablePred P]
    (passed : (run step accepts start actions).any (P ·) = true) :
    ∃ s, Trace step allowed start actions s ∧ P s := by
  cases ran : run step accepts start actions with
  | none => simp [ran] at passed
  | some s => exact ⟨s, Trace.of_run safe actions .start ran, by simpa [ran] using passed⟩

theorem Reach.exists_of_accepted (accepts : σ → α → Bool)
    (safe : ∀ s a, accepts s a = true → allowed s a) (step : σ → α → Option σ) (start : σ)
    (actions : List α) (P : σ → Prop) [DecidablePred P]
    (passed : (run step accepts start actions).any (P ·) = true) :
    ∃ s, Reach step allowed start s ∧ P s := by
  obtain ⟨s, trace, holds⟩ := Trace.exists_of_accepted accepts safe step start actions P passed
  exact ⟨s, trace.reach, holds⟩

section Actions

variable (step : σ → α → Option σ) (start : σ) (actions : List α) (P : σ → Prop) [DecidablePred P]
  (passed : (run step (fun _ _ => true) start actions).any (P ·) = true)

include passed

theorem Trace.exists_of_actions : ∃ s, Trace step (fun _ _ => True) start actions s ∧ P s :=
  Trace.exists_of_accepted _ (fun _ _ _ => trivial) step start actions P passed

theorem Reach.exists_of_actions : ∃ s, Reach step (fun _ _ => True) start s ∧ P s :=
  Reach.exists_of_accepted _ (fun _ _ _ => trivial) step start actions P passed

end Actions

end Falak
