import Mathlib.Logic.Basic

/-! Checks one after the other, where the first one that fails decides the error. -/

namespace Falak

variable {E F A B : Type}

def ensure (condition : Bool) (otherwise : E) : Except E Unit :=
  if condition then .ok () else .error otherwise

def require (value : Option A) (otherwise : E) : Except E A :=
  match value with
  | some x => .ok x
  | none => .error otherwise

def passed : Except E Bool → Bool
  | .ok answer => answer
  | .error _ => false

@[simp] theorem ensure_ok_iff {condition : Bool} {otherwise : E} {done : Unit} :
    ensure condition otherwise = .ok done ↔ condition = true := by
  cases condition <;> simp [ensure]

@[simp] theorem require_ok_iff {value : Option A} {otherwise : E} {x : A} :
    require value otherwise = .ok x ↔ value = some x := by
  cases value <;> simp [require]

@[simp] theorem mapError_ok_iff {action : Except E A} {rename : E → F} {x : A} :
    action.mapError rename = .ok x ↔ action = .ok x := by
  cases action with
  | error err => exact iff_of_false nofun nofun
  | ok y =>
    show Except.ok y = .ok x ↔ Except.ok y = .ok x
    rw [Except.ok.injEq, Except.ok.injEq]

@[simp] theorem bind_ok_iff {first : Except E A} {second : A → Except E B} {y : B} :
    (first >>= second) = .ok y ↔ ∃ x, first = .ok x ∧ second x = .ok y := by
  cases first <;> simp [bind, Except.bind]

@[simp] theorem pure_ok_iff {x y : A} : (pure x : Except E A) = .ok y ↔ x = y := by
  simp [pure, Except.pure]

end Falak
