import Falak.Scaling.Rule

/-! The scaling monitor: the rules of every capsule that is registered with it. -/

namespace Falak.Scaling

open Falak.Capsule (CapsuleID)

structure Monitor (F : Type) where
  capsules : CapsuleID → Option (List (Rule F))

namespace Monitor

variable {F : Type}

def new : Monitor F := ⟨fun _ => none⟩

def register (m : Monitor F) (id : CapsuleID) (rules : List (Rule F)) : Monitor F :=
  ⟨Function.update m.capsules id (some rules)⟩

def unregister (m : Monitor F) (id : CapsuleID) : Monitor F :=
  ⟨Function.update m.capsules id none⟩

end Monitor

end Falak.Scaling
