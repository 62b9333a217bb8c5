import Falak.Scaling.Evaluator
import Mathlib.Tactic.Linarith

/-! What the literals of scaling conditions denote, and what they are compared as. -/

namespace Falak.Scaling

def secondsIn : String → Option Rat
  | "m" => some 60
  | "s" => some 1
  | "ms" => some (1 / 1000)
  | _ => none

def Denotes (parseFloat : String → Option Rat) (literal : String) (seconds : Rat) : Prop :=
  ∃ number unit value factor, literal = number ++ unit ∧ parseFloat number = some value ∧
    secondsIn unit = some factor ∧ seconds = value * factor

def Reads (parseFloat : String → Option Rat) (raw : String) (c : Condition Rat) (seconds : Rat) :
    Prop :=
  parseCondition parseFloat raw = .ok c ∧ c.operator ≠ .none ∧
    ∃ metric op literal, tokenize (trimSpace raw) = [metric, op, literal] ∧
      Denotes parseFloat literal seconds

theorem Operator.compare_eq_iff {F : Type} [LinearOrder F] {o : Operator} (some : o ≠ .none)
    {a b : F} : (∀ x, o.compare x a = o.compare x b) ↔ a = b := by
  refine ⟨fun same => ?_, fun equal x => by rw [equal]⟩
  have first := same a
  have second := same b
  cases o <;> simp [Operator.compare] at first second some
  · exact le_antisymm first second
  · exact le_antisymm second first
  · exact first
  · exact le_antisymm second first
  · exact le_antisymm first second

section Parse

variable {parseFloat : String → Option Rat}

theorem of_parseCondition {raw : String} {c : Condition Rat}
    (parsed : parseCondition parseFloat raw = .ok c) (compares : c.operator ≠ .none)
    {metric op literal : String} (words : tokenize (trimSpace raw) = [metric, op, literal]) :
    parseValue parseFloat literal = .ok (c.value, c.unit) := by
  simp only [parseCondition, words] at parsed
  split at parsed
  · -- A schedule has no operator.
    cases parsed
    exact absurd rfl compares
  · cases operator : parseOperator op with
    | error err => simp [operator, bind, Except.bind, Except.mapError] at parsed
    | ok o =>
      cases value : parseValue parseFloat literal with
      | error err => simp [operator, value, bind, Except.bind, Except.mapError] at parsed
      | ok v =>
        simp only [operator, value, bind, Except.bind, Except.mapError] at parsed
        cases parsed
        rfl

variable (letters : ∀ number value, parseFloat number = some value →
  ['m'].isSuffixOf number.toList = false)

include letters

theorem parseValue_append {number unit : String} {value factor : Rat}
    (read : parseFloat number = some value) (known : secondsIn unit = some factor) :
    parseValue parseFloat (number ++ unit) = .ok (value, unit) := by
  have found : ["%", "ms", "m", "s"].find?
      (fun unit' => unit'.toList.isSuffixOf (number ++ unit).toList) = some unit := by
    unfold secondsIn at known
    split at known <;> simp_all [List.isSuffixOf]
  rw [parseValue, found]
  simp [parseNumber, read, Except.map]

theorem Reads.quantity {raw : String} {c : Condition Rat} {seconds : Rat}
    (reads : Reads parseFloat raw c seconds) :
    ∃ factor, secondsIn c.unit = some factor ∧ seconds = c.value * factor := by
  obtain ⟨parsed, compares, metric, op, literal, words, denotes⟩ := reads
  obtain ⟨number, unit, value, factor, rfl, read, known, rfl⟩ := denotes
  have split := of_parseCondition parsed compares words
  rw [parseValue_append letters read known, Except.ok.injEq, Prod.mk.injEq] at split
  exact ⟨factor, split.2 ▸ known, by rw [split.1]⟩

omit letters in
theorem value_eq_iff {unit unit' : String} {factor factor' value value' : Rat}
    (known : secondsIn unit = some factor) (known' : secondsIn unit' = some factor')
    (same : value * factor = value' * factor') : value = value' ↔ unit = unit' ∨ value = 0 := by
  unfold secondsIn at known known'
  split at known <;> split at known' <;> cases known <;> cases known' <;>
    simp only [true_or, iff_true, String.reduceEq, false_or] <;>
    first | linarith | exact ⟨fun equal => by linarith, fun zero => by linarith⟩

/--
A condition compares a metric in seconds with the duration that its literal denotes, exactly when
the unit is the second or the value is zero; and it evaluates like another one of the same operator
and duration, exactly when the units are the same or the value is zero.
-/
theorem units_respected_iff {raw raw' : String} {c c' : Condition Rat} {seconds : Rat}
    (reads : Reads parseFloat raw c seconds) (reads' : Reads parseFloat raw' c' seconds)
    (operators : c.operator = c'.operator) :
    ((∀ x, c.evaluate x = c.operator.compare x seconds) ↔ c.unit = "s" ∨ c.value = 0) ∧
      ((∀ x, c.evaluate x = c'.evaluate x) ↔ c.unit = c'.unit ∨ c.value = 0) := by
  obtain ⟨factor, known, quantity⟩ := reads.quantity letters
  obtain ⟨factor', known', quantity'⟩ := reads'.quantity letters
  have compares := reads.2.1
  simp only [Condition.evaluate, ← operators, Operator.compare_eq_iff compares]
  exact ⟨value_eq_iff known (show secondsIn "s" = some 1 from rfl) (by linarith),
    value_eq_iff known known' (quantity.symm.trans quantity')⟩

end Parse

def parseFive (s : String) : Option Rat :=
  if s = "5" then some 5 else none

theorem parseFive_letters (number : String) (value : Rat) (read : parseFive number = some value) :
    ['m'].isSuffixOf number.toList = false := by
  unfold parseFive at read
  split_ifs at read with five
  subst five
  decide

theorem seconds_respected :
    (⟨"idle", .greaterThan, 5, "s", "idle > 5s"⟩ : Condition Rat).evaluate 7
      = Operator.compare .greaterThan 7 (5 : Rat) := by
  have reads : Reads parseFive "idle > 5s" ⟨"idle", .greaterThan, 5, "s", "idle > 5s"⟩ 5 :=
    ⟨by decide +kernel, by decide, "idle", ">", "5s", by decide +kernel, "5", "s", 5, 1,
      by decide, rfl, rfl, by norm_num⟩
  exact (units_respected_iff parseFive_letters reads reads rfl).1.mpr (.inl rfl) 7

/-- Ten seconds of idleness are more than five minutes. -/
theorem minutes_as_seconds :
    (parseCondition parseFive "idle > 5m").toOption.map (·.evaluate 10) = some true ∧
      Denotes parseFive "5m" 300 :=
  ⟨by decide +kernel, "5", "m", 5, 60, by decide, rfl, rfl, by norm_num⟩

end Falak.Scaling
