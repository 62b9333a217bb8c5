import Falak.Capsule.Spec
import Falak.Lib.Scan

/-!
Scaling rules with parsed conditions.

Numbers are those of the library: a type with a zero, and a function that reads a text.
-/

namespace Falak.Scaling

open Falak.Capsule (ScalingRule TriggerMode ScalingAction quoted)

inductive Operator
  | none
  | greaterThan
  | lessThan
  | equal
  | greaterEq
  | lessEq
  deriving DecidableEq, Repr

structure Condition (F : Type) where
  metric : String
  operator : Operator
  value : F
  unit : String
  raw : String
  deriving DecidableEq

structure Rule (F : Type) where
  name : String
  trigger : TriggerMode
  conditions : List (Condition F)
  action : ScalingAction
  cooldown : Int
  deriving DecidableEq

def isSpace (c : Char) : Bool := isScanSpace c || c == '\n'

def trimSpace (s : String) : String :=
  .ofList ((s.toList.dropWhile isSpace).reverse.dropWhile isSpace).reverse

def tokenize (s : String) : List String :=
  ((s.toList.splitOnP isSpace).filter fun part => !part.isEmpty).map String.ofList

def parseOperator (s : String) : Except String Operator :=
  match s with
  | ">" => .ok .greaterThan
  | "<" => .ok .lessThan
  | "==" => .ok .equal
  | ">=" => .ok .greaterEq
  | "<=" => .ok .lessEq
  | _ => .error ("unknown operator " ++ quoted s)

section Parse

variable {F : Type} (parseFloat : String → Option F)

def parseNumber (s : String) : Except String F :=
  match parseFloat s with
  | none => .error ("invalid number " ++ quoted s)
  | some value => .ok value

def parseValue (s : String) : Except String (F × String) :=
  match ["%", "ms", "m", "s"].find? fun unit => unit.toList.isSuffixOf s.toList with
  | some unit =>
    let numStr := String.ofList (s.toList.take (s.toList.length - unit.toList.length))
    (parseNumber parseFloat numStr).map (·, unit)
  | none => (parseNumber parseFloat s).map (·, "")

variable [Zero F]

def parseCondition (raw : String) : Except String (Condition F) :=
  let raw := trimSpace raw
  let invalid (err : String) := "invalid condition " ++ quoted raw ++ ": " ++ err
  if "schedule:".toList.isPrefixOf raw.toList then .ok ⟨"schedule", .none, 0, "", raw⟩
  else
    match tokenize raw with
    | [metric, op, value] => do
      let op ← (parseOperator op).mapError invalid
      let (value, unit) ← (parseValue parseFloat value).mapError invalid
      .ok ⟨metric, op, value, unit, raw⟩
    | _ => .error (invalid "expected 'metric operator value'")

def fromSpec (spec : ScalingRule) : Except String (Rule F) := do
  let conditions ← (spec.conditions.mapM (parseCondition parseFloat)).mapError
    fun err => "rule " ++ quoted spec.name ++ ": " ++ err
  .ok
    { name := spec.name
      trigger := spec.trigger
      conditions := conditions
      action := spec.action
      cooldown := spec.cooldown }

def fromSpecList (specs : List ScalingRule) : Except String (List (Rule F)) :=
  specs.mapM (fromSpec parseFloat)

variable {parseFloat}

theorem length_of_fromSpecList {specs : List ScalingRule} {rules : List (Rule F)}
    (parsed : fromSpecList parseFloat specs = .ok rules) : rules.length = specs.length := by
  induction specs generalizing rules with
  | nil =>
    cases parsed
    rfl
  | cons spec rest ih =>
    simp only [fromSpecList, List.mapM_cons, bind, Except.bind] at parsed
    split at parsed
    · cases parsed
    · split at parsed
      · cases parsed
      · rename_i converted
        cases parsed
        exact congrArg Nat.succ (ih converted)

theorem fromSpecList_eq_nil {specs : List ScalingRule} :
    fromSpecList parseFloat specs = .ok [] ↔ specs = [] := by
  constructor
  · intro parsed
    exact List.length_eq_zero_iff.mp (length_of_fromSpecList parsed).symm
  · rintro rfl
    rfl

end Parse

example : (Falak.Capsule.validateScalingRule ⟨"busy", .all, ["cpu high"], .scaleUp, 0⟩ 0,
    (fromSpec (fun _ => some (0 : Int)) ⟨"busy", .all, ["cpu high"], .scaleUp, 0⟩).toOption)
      = (none, none) := by decide +kernel

end Falak.Scaling
