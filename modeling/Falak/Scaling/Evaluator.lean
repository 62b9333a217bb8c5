import Falak.Scaling.Rule
import Mathlib.Data.List.Induction

/-!
The evaluation of scaling rules against metrics, with the cooldowns of rules that triggered.

The cooldowns of all capsules are in one map, under the capsule and the rule joined by a colon.
-/

namespace Falak.Scaling

open Falak.Capsule (CapsuleID TriggerMode ScalingAction)

variable {F : Type} [LinearOrder F]

def Operator.compare : Operator → F → F → Bool
  | .greaterThan, x, y => x > y
  | .lessThan, x, y => x < y
  | .equal, x, y => x = y
  | .greaterEq, x, y => x ≥ y
  | .lessEq, x, y => x ≤ y
  | .none, _, _ => false

def Condition.evaluate (c : Condition F) (metricValue : F) : Bool :=
  c.operator.compare metricValue c.value

abbrev Metrics (F : Type) := String → Option F

def Condition.holds (metrics : Metrics F) (c : Condition F) : Bool :=
  c.metric ≠ "schedule" && (metrics c.metric).any c.evaluate

/-- Whether no condition fails. A schedule is passed over. -/
def evaluateAll (conditions : List (Condition F)) (metrics : Metrics F) : Bool :=
  conditions.all fun c => c.metric = "schedule" || (metrics c.metric).any c.evaluate

def evaluateAny (conditions : List (Condition F)) (metrics : Metrics F) : Bool :=
  conditions.any (·.holds metrics)

def evaluateRule (rule : Rule F) (metrics : Metrics F) : Bool :=
  match rule.trigger with
  | .all => evaluateAll rule.conditions metrics
  | .any => evaluateAny rule.conditions metrics
  | .unknown _ => false

structure EvalResult where
  ruleName : String
  action : ScalingAction
  matched : Bool
  deriving DecidableEq

def Rule.result (r : Rule F) : EvalResult := ⟨r.name, r.action, true⟩

def ruleKey (capsuleID : CapsuleID) (ruleName : String) : String := capsuleID ++ ":" ++ ruleName

structure Evaluator where
  cooldowns : String → Option Int := fun _ => none

namespace Evaluator

def isInCooldown (e : Evaluator) (key : String) (cooldown now : Int) : Bool :=
  cooldown ≠ 0 && (e.cooldowns key).any fun lastTriggered => now < lastTriggered + cooldown

/-- The first of the rules that is not in cooldown and triggers. -/
def evaluate (e : Evaluator) (now : Int) (capsuleID : CapsuleID) (metrics : Metrics F) :
    List (Rule F) → Evaluator × Option EvalResult
  | [] => (e, none)
  | r :: rest =>
    if e.isInCooldown (ruleKey capsuleID r.name) r.cooldown now then
      e.evaluate now capsuleID metrics rest
    else if evaluateRule r metrics then
      (⟨Function.update e.cooldowns (ruleKey capsuleID r.name) (some now)⟩, some r.result)
    else e.evaluate now capsuleID metrics rest

def resetCooldown (e : Evaluator) (capsuleID : CapsuleID) (ruleName : String) : Evaluator :=
  ⟨Function.update e.cooldowns (ruleKey capsuleID ruleName) none⟩

def resetAllCooldowns (e : Evaluator) (capsuleID : CapsuleID) : Evaluator :=
  ⟨fun key => if (capsuleID ++ ":").toList <+: key.toList then none else e.cooldowns key⟩

theorem evaluate_eq (e : Evaluator) (now : Int) (capsuleID : CapsuleID) (metrics : Metrics F)
    (rules : List (Rule F)) :
    e.evaluate now capsuleID metrics rules =
      match rules.find? fun r => !e.isInCooldown (ruleKey capsuleID r.name) r.cooldown now &&
        evaluateRule r metrics with
      | none => (e, none)
      | some r =>
        (⟨Function.update e.cooldowns (ruleKey capsuleID r.name) (some now)⟩, some r.result) := by
  induction rules with
  | nil => rfl
  | cons r rest ih =>
    rw [evaluate, List.find?_cons]
    cases e.isInCooldown (ruleKey capsuleID r.name) r.cooldown now <;>
      cases evaluateRule r metrics <;> simp [ih]

end Evaluator

inductive EvalOp (F : Type)
  | evaluate (rules : List (Rule F)) (metrics : Metrics F)
  | resetCooldown (ruleName : String)
  | resetAllCooldowns

structure EvalCall (F : Type) where
  now : Int
  capsuleID : CapsuleID
  op : EvalOp F

namespace EvalCall

def names (c : EvalCall F) : List String :=
  match c.op with
  | .evaluate rules _ => rules.map Rule.name
  | .resetCooldown ruleName => [ruleName]
  | .resetAllCooldowns => []

def resets (c : EvalCall F) (capsuleID : CapsuleID) (ruleName : String) : Bool :=
  c.capsuleID = capsuleID &&
    match c.op with
    | .evaluate _ _ => false
    | .resetCooldown name => name = ruleName
    | .resetAllCooldowns => true

end EvalCall

abbrev History (F : Type) := List (EvalCall F × Option EvalResult)

def returns (capsuleID : CapsuleID) (ruleName : String) : History F → List Int
  | [] => []
  | (c, result) :: earlier =>
    if c.resets capsuleID ruleName then []
    else if c.capsuleID = capsuleID ∧ result.any (·.ruleName = ruleName) then
      c.now :: returns capsuleID ruleName earlier
    else returns capsuleID ruleName earlier

def coolingDown (history : History F) (c : EvalCall F) (r : Rule F) : Bool :=
  r.cooldown ≠ 0 &&
    (returns c.capsuleID r.name history).head?.any fun last => c.now < last + r.cooldown

def satisfied (r : Rule F) (metrics : Metrics F) : Bool :=
  r.conditions.any (·.holds metrics) && r.trigger.valid &&
    (r.trigger ≠ .all || evaluateAll r.conditions metrics)

structure Evaluations (F : Type) where
  evaluator : Evaluator := {}
  history : History F := []

namespace Evaluations

def call (e : Evaluator) (c : EvalCall F) : Evaluator × Option EvalResult :=
  match c.op with
  | .evaluate rules metrics => e.evaluate c.now c.capsuleID metrics rules
  | .resetCooldown ruleName => (e.resetCooldown c.capsuleID ruleName, none)
  | .resetAllCooldowns => (e.resetAllCooldowns c.capsuleID, none)

def step (s : Evaluations F) (c : EvalCall F) : Evaluations F :=
  ⟨(call s.evaluator c).1, (c, (call s.evaluator c).2) :: s.history⟩

def replay (calls : List (EvalCall F)) : Evaluations F := calls.foldl step {}

structure Careful (used : Set (CapsuleID × String)) (c : EvalCall F) : Prop where
  named : ∀ name ∈ c.names, (c.capsuleID, name) ∈ used
  apart : ∀ p ∈ used, p.1 ≠ c.capsuleID →
    ¬ (c.capsuleID ++ ":").toList <+: (ruleKey p.1 p.2).toList
  metered : ∀ rules metrics, c.op = .evaluate rules metrics →
    ∀ r ∈ rules, ∃ condition ∈ r.conditions, condition.metric ≠ "schedule"

variable {used : Set (CapsuleID × String)} {c : EvalCall F} {s : Evaluations F}

theorem toList_ruleKey (id : CapsuleID) (name : String) :
    (ruleKey id name).toList = (id ++ ":").toList ++ name.toList := by
  simp [ruleKey]

variable {name : String} {calls : List (EvalCall F)}

omit [LinearOrder F] in
theorem Careful.key_inj (careful : Careful used c) {p : CapsuleID × String} (listed : p ∈ used)
    (same : ruleKey p.1 p.2 = ruleKey c.capsuleID name) :
    p = (c.capsuleID, name) := by
  have own : p.1 = c.capsuleID := by
    by_contra other
    exact careful.apart p listed other (by rw [same, toList_ruleKey]; exact List.prefix_append _ _)
  have names := congrArg String.toList same
  rw [toList_ruleKey, toList_ruleKey, own, List.append_cancel_left_eq] at names
  exact Prod.ext own (String.toList_inj.mp names)

theorem evaluateRule_eq_satisfied {r : Rule F}
    (metered : ∃ condition ∈ r.conditions, condition.metric ≠ "schedule") (metrics : Metrics F) :
    evaluateRule r metrics = satisfied r metrics := by
  obtain ⟨name, trigger, conditions, action, cooldown⟩ := r
  cases trigger with
  | any => simp [evaluateRule, satisfied, evaluateAny, TriggerMode.valid]
  | unknown text => simp [evaluateRule, satisfied, TriggerMode.valid]
  | all =>
    simp only [evaluateRule, satisfied, TriggerMode.valid, Bool.and_true, ne_eq, decide_not,
      decide_true, Bool.not_true, Bool.false_or]
    cases every : evaluateAll conditions metrics with
    | false => simp
    | true =>
      obtain ⟨condition, listed, metric⟩ := metered
      have passed := List.all_eq_true.mp every condition listed
      have holds : condition.holds metrics = true := by simpa [Condition.holds, metric] using passed
      rw [List.any_eq_true.mpr ⟨condition, listed, holds⟩, Bool.and_true]

def Kept (used : Set (CapsuleID × String)) (s : Evaluations F) : Prop :=
  ∀ p ∈ used, s.evaluator.cooldowns (ruleKey p.1 p.2) = (returns p.1 p.2 s.history).head?

def chosen (history : History F) (c : EvalCall F) (rules : List (Rule F)) (metrics : Metrics F) :
    Option (Rule F) :=
  rules.find? fun r => !coolingDown history c r && satisfied r metrics

theorem Kept.chosen (kept : Kept used s) (careful : Careful used c) {rules : List (Rule F)}
    {metrics : Metrics F} (op : c.op = .evaluate rules metrics) :
    (rules.find? fun r => !s.evaluator.isInCooldown (ruleKey c.capsuleID r.name) r.cooldown c.now &&
      evaluateRule r metrics) = Evaluations.chosen s.history c rules metrics := by
  rw [Evaluations.chosen, ← List.head?_filter, ← List.head?_filter]
  refine congrArg List.head? (List.filter_congr fun r listed => ?_)
  have inUse := careful.named r.name (by
    simp only [EvalCall.names, op]
    exact List.mem_map_of_mem listed)
  rw [Evaluator.isInCooldown, kept _ inUse,
    evaluateRule_eq_satisfied (careful.metered _ _ op r listed), coolingDown]

def answer (history : History F) (c : EvalCall F) : Option EvalResult :=
  match c.op with
  | .evaluate rules metrics => (chosen history c rules metrics).map Rule.result
  | _ => none

theorem Kept.answer (kept : Kept used s) (careful : Careful used c) :
    (call s.evaluator c).2 = Evaluations.answer s.history c := by
  cases op : c.op with
  | evaluate rules metrics =>
    simp only [call, Evaluations.answer, op, Evaluator.evaluate_eq, kept.chosen careful op]
    cases Evaluations.chosen s.history c rules metrics <;> rfl
  | resetCooldown | resetAllCooldowns => simp [call, Evaluations.answer, op]

theorem Kept.step (kept : Kept used s) (careful : Careful used c) : Kept used (s.step c) := by
  intro p listed
  have before := kept p listed
  simp only [Evaluations.step, returns]
  cases op : c.op with
  | evaluate rules metrics =>
    have kind : c.resets p.1 p.2 = false := by simp [EvalCall.resets, op]
    simp only [call, op, Evaluator.evaluate_eq, kept.chosen careful op, kind]
    cases Evaluations.chosen s.history c rules metrics with
    | none => simpa using before
    | some r =>
      by_cases same : ruleKey p.1 p.2 = ruleKey c.capsuleID r.name
      · obtain rfl := careful.key_inj listed same
        simp [Rule.result]
      · have other : ¬ (c.capsuleID = p.1 ∧ r.name = p.2) := fun ⟨id, name⟩ =>
          same (by rw [id, name])
        simpa [Function.update_of_ne same, Rule.result, other] using before
  | resetCooldown name =>
    by_cases same : ruleKey p.1 p.2 = ruleKey c.capsuleID name
    · obtain rfl := careful.key_inj listed same
      simp [call, op, Evaluator.resetCooldown, EvalCall.resets]
    · have other : ¬ (c.capsuleID = p.1 ∧ name = p.2) := fun ⟨id, name⟩ => same (by rw [id, name])
      simpa [call, op, Evaluator.resetCooldown, Function.update_of_ne same, EvalCall.resets, other]
        using before
  | resetAllCooldowns =>
    have fits : (c.capsuleID ++ ":").toList <+: (ruleKey p.1 p.2).toList ↔ c.capsuleID = p.1 := by
      refine ⟨fun inside => ?_, fun same => ?_⟩
      · by_contra other
        exact careful.apart p listed (Ne.symm other) inside
      · rw [same, toList_ruleKey]
        exact List.prefix_append _ _
    simp only [call, op, Evaluator.resetAllCooldowns, fits, EvalCall.resets]
    by_cases same : c.capsuleID = p.1 <;> simp [same, before]

theorem replay_append (calls : List (EvalCall F)) (c : EvalCall F) :
    replay (calls ++ [c]) = (replay calls).step c := by
  simp [replay]

theorem kept_replay (careful : ∀ c ∈ calls, Careful used c) : Kept used (replay calls) := by
  induction calls using List.reverseRecOn with
  | nil => exact fun p listed => rfl
  | append_singleton calls c ih =>
    rw [List.forall_mem_append] at careful
    rw [replay_append]
    exact (ih careful.1).step (careful.2 c (List.mem_singleton_self c))

theorem history_replay (calls : List (EvalCall F)) :
    (replay calls).history.map Prod.fst = calls.reverse := by
  induction calls using List.reverseRecOn with
  | nil => rfl
  | append_singleton calls c ih => simp [replay_append, step, ih]

omit [LinearOrder F] in
theorem exists_of_mem_returns {h : History F} {id : CapsuleID} {t : Int}
    (returned : t ∈ returns id name h) : ∃ c ∈ h.map Prod.fst, c.now = t := by
  induction h with
  | nil => cases returned
  | cons record earlier ih =>
    simp only [returns] at returned
    simp only [List.map_cons, List.mem_cons, exists_eq_or_imp]
    split_ifs at returned
    · cases returned
    · exact (List.mem_cons.mp returned).imp Eq.symm ih
    · exact .inr (ih returned)

omit [LinearOrder F] in
theorem le_head_returns {h : History F} {id : CapsuleID} {name : String} {t last : Int}
    (sorted : (h.map Prod.fst).Pairwise fun a b => b.now ≤ a.now)
    (returned : t ∈ returns id name h) (latest : last ∈ (returns id name h).head?) : t ≤ last := by
  induction h with
  | nil => cases returned
  | cons record earlier ih =>
    rw [List.map_cons, List.pairwise_cons] at sorted
    simp only [returns] at returned latest
    split_ifs at returned latest
    · cases returned
    · cases latest
      rcases List.mem_cons.mp returned with rfl | returned
      · exact le_rfl
      · obtain ⟨c', made, rfl⟩ := exists_of_mem_returns returned
        exact sorted.1 c' made
    · exact ih sorted.2 returned latest

omit [LinearOrder F] in
theorem returns_filter (id : CapsuleID) (name : String) (h : History F) :
    returns id name (h.filter (·.1.capsuleID = id)) = returns id name h := by
  induction h with
  | nil => rfl
  | cons record earlier ih =>
    by_cases own : record.1.capsuleID = id
    · simp [returns, own, ih]
    · simp [returns, own, ih, EvalCall.resets]

theorem answer_filter (h : History F) (c : EvalCall F) :
    answer (h.filter (·.1.capsuleID = c.capsuleID)) c = answer h c := by
  simp only [answer, chosen, coolingDown, returns_filter]

theorem history_filter (careful : ∀ c ∈ calls, Careful used c) (id : CapsuleID) :
    (replay calls).history.filter (·.1.capsuleID = id)
      = (replay (calls.filter (·.capsuleID = id))).history := by
  induction calls using List.reverseRecOn with
  | nil => rfl
  | append_singleton calls c ih =>
    rw [List.forall_mem_append] at careful
    have here := careful.2 c (List.mem_singleton_self c)
    have alone : Kept used (replay (calls.filter (·.capsuleID = id))) :=
      kept_replay fun c listed => careful.1 c (List.mem_of_mem_filter listed)
    rw [replay_append, List.filter_append]
    by_cases own : c.capsuleID = id
    · subst own
      simp [replay_append, step, (kept_replay careful.1).answer here, alone.answer here,
        ← ih careful.1, answer_filter]
    · simpa [step, own] using ih careful.1

/--
Careful calls at nondecreasing times return the first rule that is not cooling down and is
satisfied, return a rule again only after its cooldown, and return for each capsule what they would
return without the other capsules.
-/
theorem triggers_exact {calls : List (EvalCall F)} (careful : ∀ c ∈ calls, Careful used c)
    (timely : calls.Pairwise fun a b => a.now ≤ b.now) :
    (∀ before c after, calls = before ++ c :: after → ∀ rules metrics,
      c.op = .evaluate rules metrics →
      (call (replay before).evaluator c).2
          = (chosen (replay before).history c rules metrics).map Rule.result ∧
        ∀ r ∈ chosen (replay before).history c rules metrics,
          ∀ t ∈ returns c.capsuleID r.name (replay before).history, t + r.cooldown ≤ c.now) ∧
    ∀ id, (replay calls).history.filter (·.1.capsuleID = id)
      = (replay (calls.filter (·.capsuleID = id))).history := by
  refine ⟨?_, history_filter careful⟩
  rintro before c after rfl rules metrics op
  rw [List.forall_mem_append, List.forall_mem_cons] at careful
  rw [List.pairwise_append] at timely
  refine ⟨by rw [(kept_replay careful.1).answer careful.2.1, answer, op], fun r first t made => ?_⟩
  have sorted : ((replay before).history.map Prod.fst).Pairwise fun a b => b.now ≤ a.now := by
    rw [history_replay, List.pairwise_reverse]
    exact timely.1
  have ready := List.find?_some first
  simp only [coolingDown, Bool.and_eq_true, Bool.not_eq_true', Bool.and_eq_false_iff] at ready
  rcases ready.1 with zero | elapsed
  · obtain ⟨c', listed, rfl⟩ := exists_of_mem_returns made
    rw [history_replay, List.mem_reverse] at listed
    have := timely.2.2 c' listed c List.mem_cons_self
    simp only [ne_eq, decide_not, Bool.not_eq_false', decide_eq_true_eq] at zero
    omega
  · have some := List.head?_eq_some_head (List.ne_nil_of_mem made)
    have le := le_head_returns sorted made some
    rw [some] at elapsed
    simp only [Option.any_some, decide_eq_false_iff_not] at elapsed
    omega

def evaluation (now : Int) (id name metric : String) : EvalCall Int :=
  ⟨now, id, .evaluate
    [⟨name, .all, [⟨metric, .greaterThan, 70, "%", "above 70%"⟩], .scaleUp, 60 * second⟩]
    fun name => if name = "cpu" then some 90 else none⟩

theorem triggers_exact_again :
    (replay [evaluation 0 "web" "busy" "cpu",
        evaluation (60 * second) "web" "busy" "cpu"]).history.filter (·.1.capsuleID = "web")
      = (replay ([evaluation 0 "web" "busy" "cpu",
        evaluation (60 * second) "web" "busy" "cpu"].filter (·.capsuleID = "web"))).history := by
  have careful (now : Int) : Careful {("web", "busy")} (evaluation now "web" "busy" "cpu") := by
    refine ⟨by simp [evaluation, EvalCall.names], by simp [evaluation], ?_⟩
    rintro rules metrics ⟨⟩
    simp
  have every : ∀ c ∈ [evaluation 0 "web" "busy" "cpu", evaluation (60 * second) "web" "busy" "cpu"],
      Careful {("web", "busy")} c := by simp [careful]
  exact (triggers_exact every (by decide +kernel)).2 "web"

/--
A rule that has only a schedule triggers, a rule is held back by that of another capsule, and the
reset of one capsule lets the rule of another trigger twice within its cooldown.
-/
theorem triggers_inexact :
    let up : String → Option EvalResult := fun name => some ⟨name, .scaleUp, true⟩
    (call {} (evaluation 0 "web" "busy" "schedule")).2 = up "busy" ∧
    (call (replay [evaluation 0 "a" "b:c" "cpu"]).evaluator (evaluation 1 "a:b" "c" "cpu")).2
      = none ∧
    (replay [evaluation 0 "a:b" "c" "cpu", ⟨1, "a", .resetAllCooldowns⟩,
      evaluation 2 "a:b" "c" "cpu"]).history.map Prod.snd = [up "c", none, up "c"] := by
  decide +kernel

end Evaluations

end Falak.Scaling
