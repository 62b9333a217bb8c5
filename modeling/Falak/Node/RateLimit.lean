import Mathlib.Algebra.Order.Ring.Int
import Mathlib.Data.List.Induction
import Mathlib.Logic.Function.Basic

/-!
The rate limiter of the stream handlers.

A limiter forgets what is older than its window whenever it looks at a key, and a background loop
does so for all keys. What it answers depends on the whole history all the same.
-/

namespace Falak.RateLimit

structure Limiter where
  requests : String → Option (List Int) := fun _ => none
  maxReqs : Int
  window : Int

namespace Limiter

variable (l : Limiter) (now : Int)

/-- The requests that are later than the cutoff. -/
def recent (reqs : List Int) : List Int := reqs.filter (now - l.window < ·)

def allow (key : String) : Bool × Limiter :=
  let valid := l.recent now ((l.requests key).getD [])
  if l.maxReqs ≤ valid.length then
    (false, { l with requests := Function.update l.requests key (some valid) })
  else (true, { l with requests := Function.update l.requests key (some (valid ++ [now])) })

/-- A key without a recent request is deleted. -/
def cleanup : Limiter :=
  { l with
    requests := fun key =>
      (l.requests key).bind fun reqs =>
        if l.recent now reqs = [] then none else some (l.recent now reqs) }

end Limiter

inductive Call
  | allow (key : String) (now : Int)
  | cleanup (now : Int)
  deriving DecidableEq

namespace Call

def now : Call → Int
  | allow _ now => now
  | cleanup now => now

def asks (key : String) : Call → Bool
  | allow key' _ => key' = key
  | cleanup _ => false

end Call

structure Answer where
  key : String
  now : Int
  allowed : Bool
  deriving DecidableEq

def handle (s : Limiter × List Answer) : Call → Limiter × List Answer
  | .allow key now => ((s.1.allow now key).2, s.2 ++ [⟨key, now, (s.1.allow now key).1⟩])
  | .cleanup now => (s.1.cleanup now, s.2)

def serve (maxReqs window : Int) (calls : List Call) : Limiter × List Answer :=
  calls.foldl handle ({ maxReqs, window }, [])

/-- When the requests of a key were allowed. -/
def allowedAt (key : String) (answers : List Answer) : List Int :=
  (answers.filter fun a => a.key = key ∧ a.allowed).map (·.now)

/-- The calls are in the order of their times. -/
def InOrder (calls : List Call) : Prop := calls.Pairwise (·.now ≤ ·.now)

instance (calls : List Call) : Decidable (InOrder calls) :=
  inferInstanceAs (Decidable (List.Pairwise _ _))

variable {calls : List Call} {key : String} {t : Int}

theorem InOrder.of_append {calls' : List Call} (ordered : InOrder (calls ++ calls')) :
    InOrder calls :=
  (List.pairwise_append.mp ordered).1

theorem InOrder.le {call : Call} (ordered : InOrder (calls ++ [call])) :
    ∀ c ∈ calls, c.now ≤ call.now :=
  fun c earlier =>
    (List.pairwise_append.mp ordered).2.2 c earlier call (List.mem_singleton_self call)

theorem recent_recent {l : Limiter} {now : Int} (later : now ≤ t) (reqs : List Int) :
    (l.recent now reqs).filter (t - l.window < ·) = reqs.filter (t - l.window < ·) := by
  rw [Limiter.recent, List.filter_filter]
  refine List.filter_congr fun x _ => ?_
  rw [Bool.and_eq_left_iff_imp, decide_eq_true_iff, decide_eq_true_iff]
  omega

@[simp]
theorem asks_allow (key key' : String) (now : Int) :
    (Call.allow key' now).asks key = decide (key' = key) := rfl

@[simp]
theorem asks_cleanup (key : String) (now : Int) : (Call.cleanup now).asks key = false := rfl

theorem allowedAt_append (key : String) (answers : List Answer) (a : Answer) :
    allowedAt key (answers ++ [a])
      = allowedAt key answers ++ if a.key = key ∧ a.allowed then [a.now] else [] := by
  by_cases mine : a.key = key ∧ a.allowed = true <;> simp [allowedAt, mine]

variable {maxReqs window : Int}

theorem serve_append (calls : List Call) (call : Call) :
    serve maxReqs window (calls ++ [call]) = handle (serve maxReqs window calls) call := by
  rw [serve, List.foldl_append]
  rfl

variable (maxReqs window) in
theorem serve_settings (calls : List Call) :
    (serve maxReqs window calls).1.maxReqs = maxReqs ∧
      (serve maxReqs window calls).1.window = window := by
  induction calls using List.reverseRecOn with
  | nil => exact ⟨rfl, rfl⟩
  | append_singleton calls call ih =>
    rw [serve_append]
    cases call with
    | allow key now =>
      simp only [handle, Limiter.allow]
      split <;> exact ih
    | cleanup now => exact ih

theorem kept (key : String) (ordered : InOrder calls) (later : ∀ c ∈ calls, c.now ≤ t) :
    (((serve maxReqs window calls).1.requests key).getD []).filter (t - window < ·)
      = (allowedAt key (serve maxReqs window calls).2).filter (t - window < ·) := by
  induction calls using List.reverseRecOn with
  | nil => rfl
  | append_singleton calls call ih =>
    have last : call.now ≤ t := later call (by simp)
    have same := ih ordered.of_append fun c earlier => later c (by simp [earlier])
    have width := (serve_settings maxReqs window calls).2
    rw [serve_append]
    generalize serve maxReqs window calls = s at same width
    subst width
    have forgets : ∀ reqs, _ := recent_recent (l := s.1) last
    cases call with
    | allow key' now =>
      rw [Call.now] at forgets
      by_cases mine : key' = key
      · subst mine
        simp only [handle, Limiter.allow]
        split <;> simpa [allowedAt, forgets] using same
      · simp only [handle, Limiter.allow]
        split <;> simpa [allowedAt, mine, Ne.symm mine] using same
    | cleanup now =>
      refine Eq.trans ?_ same
      simp only [handle, Limiter.cleanup]
      cases s.1.requests key with
      | none => rfl
      | some reqs =>
        rw [Option.bind_some, Option.getD_some, ← forgets reqs, Call.now]
        split_ifs with stale
        · rw [stale, Option.getD_none]
        · rw [Option.getD_some]

variable (maxReqs window) in
theorem recent_eq (key : String) (ordered : InOrder calls) (later : ∀ c ∈ calls, c.now ≤ t) :
    (serve maxReqs window calls).1.recent t (((serve maxReqs window calls).1.requests key).getD [])
      = (allowedAt key (serve maxReqs window calls).2).filter (t - window < ·) := by
  rw [← kept key ordered later, Limiter.recent, (serve_settings maxReqs window calls).2]

theorem allow_eq_true (ordered : InOrder (calls ++ [.allow key t])) :
    ((serve maxReqs window calls).1.allow t key).1 = true ↔
      ((allowedAt key (serve maxReqs window calls).2).countP (t - window < ·) : Int) < maxReqs := by
  have seen := recent_eq maxReqs window key ordered.of_append ordered.le
  rw [Call.now] at seen
  rw [List.countP_eq_length_filter, ← seen]
  simp only [Limiter.allow, (serve_settings maxReqs window calls).1]
  split_ifs with full
  · simpa using full
  · simpa using lt_of_not_ge full

theorem answers_append (calls : List Call) (call : Call) :
    (serve maxReqs window (calls ++ [call])).2 = (serve maxReqs window calls).2 ++
      match call with
      | .allow key now => [⟨key, now, ((serve maxReqs window calls).1.allow now key).1⟩]
      | .cleanup _ => [] := by
  rw [serve_append]
  cases call <;> simp [handle]

theorem countP_allowedAt_le (nonnegative : 0 ≤ maxReqs) (key : String) (stretch : Int → Bool)
    (short : ∀ x t, stretch x → stretch t → t - window < x) (ordered : InOrder calls) :
    ((allowedAt key (serve maxReqs window calls).2).countP stretch : Int) ≤ maxReqs := by
  induction calls using List.reverseRecOn with
  | nil => simpa [serve, allowedAt] using nonnegative
  | append_singleton calls call ih =>
    have before := ih ordered.of_append
    rw [answers_append]
    cases call with
    | cleanup now => simpa using before
    | allow key' now =>
      rw [allowedAt_append, List.countP_append]
      split_ifs with mine
      · obtain ⟨same, passed⟩ := mine
        obtain rfl : key' = key := same
        have few := (allow_eq_true ordered).mp passed
        by_cases inside : stretch now = true
        · have recent : (allowedAt key' (serve maxReqs window calls).2).countP stretch
              ≤ (allowedAt key' (serve maxReqs window calls).2).countP (now - window < ·) :=
            List.countP_mono_left fun x _ there => by simpa using short x now there inside
          rw [List.countP_singleton, if_pos inside]
          omega
        · simpa [inside] using before
      · simpa using before

theorem answers_filter (key : String) (ordered : InOrder calls) :
    (serve maxReqs window (calls.filter (·.asks key))).2
      = (serve maxReqs window calls).2.filter (·.key = key) := by
  induction calls using List.reverseRecOn with
  | nil => rfl
  | append_singleton calls call ih =>
    have before := ih ordered.of_append
    rw [answers_append, List.filter_append, List.filter_append, ← before]
    cases call with
    | cleanup now => simp
    | allow key' now =>
      by_cases mine : key' = key
      · subst mine
        have alone : InOrder (calls.filter (·.asks key') ++ [.allow key' now]) := by
          simpa [InOrder] using List.Pairwise.filter (·.asks key') ordered
        have same : ((serve maxReqs window (calls.filter (·.asks key'))).1.allow now key').1
            = ((serve maxReqs window calls).1.allow now key').1 := by
          rw [Bool.eq_iff_iff, allow_eq_true alone,
            allow_eq_true ordered, before]
          simp only [allowedAt, List.filter_filter, Bool.and_comm]
          simp
        simp [answers_append, same]
      · simp [mine]

theorem isSome_cleanup_requests (key : String) (ordered : InOrder (calls ++ [.cleanup t])) :
    (((serve maxReqs window calls).1.cleanup t).requests key).isSome ↔
      ∃ x ∈ allowedAt key (serve maxReqs window calls).2, t - window < x := by
  have seen := recent_eq maxReqs window key ordered.of_append ordered.le
  rw [Call.now] at seen
  have recent : (∃ x ∈ allowedAt key (serve maxReqs window calls).2, t - window < x) ↔
      (allowedAt key (serve maxReqs window calls).2).filter (t - window < ·) ≠ [] := by
    simp
  rw [recent, ← seen]
  simp only [Limiter.cleanup]
  cases (serve maxReqs window calls).1.requests key with
  | none => simp [Limiter.recent]
  | some reqs =>
    rw [Option.bind_some, Option.getD_some]
    split_ifs with stale <;> simp [stale]

/-- A limiter is an exact sliding window. -/
theorem limiter_exact (nonnegative : 0 ≤ maxReqs) (ordered : InOrder calls) (key : String) :
    (∀ before t after, calls = before ++ .allow key t :: after →
      (((serve maxReqs window before).1.allow t key).1 = true ↔
        ((allowedAt key (serve maxReqs window before).2).countP (t - window < ·) : Int)
          < maxReqs)) ∧
    (∀ a, ((allowedAt key (serve maxReqs window calls).2).countP
        (fun x => a ≤ x ∧ x < a + window) : Int) ≤ maxReqs ∧
      ((allowedAt key (serve maxReqs window calls).2).countP
        (fun x => a < x ∧ x ≤ a + window) : Int) ≤ maxReqs) ∧
    (serve maxReqs window calls).2.filter (·.key = key)
      = (serve maxReqs window (calls.filter (·.asks key))).2 ∧
    (∀ before t after, calls = before ++ .cleanup t :: after →
      ((((serve maxReqs window before).1.cleanup t).requests key).isSome ↔
        ∃ x ∈ allowedAt key (serve maxReqs window before).2, t - window < x)) := by
  -- Each of the calls comes last of those up to it.
  have upto : ∀ before call after, calls = before ++ call :: after → InOrder (before ++ [call]) :=
    fun before call after split => by
      rw [split, List.append_cons] at ordered
      exact ordered.of_append
  refine ⟨fun before t after split => allow_eq_true (upto _ _ _ split),
    fun a => ⟨?_, ?_⟩, (answers_filter key ordered).symm,
    fun before t after split => isSome_cleanup_requests key (upto _ _ _ split)⟩
  all_goals
    refine countP_allowedAt_le nonnegative key _ (fun x t hx ht => ?_) ordered
    simp only [decide_eq_true_eq] at hx ht
    omega

def earlier : List Call := [.allow "a" 0, .allow "b" 3, .cleanup 4, .allow "a" 5]

/-- Of three requests within a window of ten the last is denied. -/
theorem limiter_exact_three :
    ((serve 2 10 earlier).1.allow 9 "a").1 = false ∧
    (((serve 2 10 earlier).1.allow 9 "a").1 = true ↔
      ((allowedAt "a" (serve 2 10 earlier).2).countP (9 - 10 < ·) : Int) < 2) :=
  have ordered : InOrder (earlier ++ [.allow "a" 9]) := by decide
  ⟨by decide +kernel, (limiter_exact (by decide) ordered "a").1 earlier 9 [] rfl⟩

end Falak.RateLimit
