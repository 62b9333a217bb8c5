import Mathlib.Data.List.Nodup
import Mathlib.Data.String.Basic

/-! Enumerations that travel as texts: some texts name a value, and every other one is kept. -/

namespace Falak

class Named (α : Type) where
  text : α → String
  known : List α
  unknown : String → α
  text_unknown : ∀ s, text (unknown s) = s
  distinct : (known.map text).Nodup

namespace Named

variable {α : Type} [Named α]

def ofText (s : String) : α := ((known (α := α)).find? fun a => text a = s).getD (unknown s)

theorem ofText_text {a : α} (known : a ∈ known) : ofText (text a) = a := by
  unfold ofText
  cases found : (Named.known (α := α)).find? fun b => text b = text a with
  | none =>
    have := List.find?_eq_none.mp found a known
    simp at this
  | some b =>
    have same : text b = text a := by simpa using List.find?_some found
    exact List.inj_on_of_nodup_map distinct (List.mem_of_find?_eq_some found) known same

@[simp] theorem text_ofText (s : String) : text (ofText s : α) = s := by
  unfold ofText
  cases found : (known (α := α)).find? fun a => text a = s with
  | none => exact text_unknown s
  | some a => simpa using List.find?_some found

end Named

end Falak
