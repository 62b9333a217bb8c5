import Mathlib.Data.List.Induction
import Mathlib.Data.List.Nodup
import Mathlib.Order.Defs.PartialOrder

/-! Tables in which an entry takes the place of an earlier one with the same key. -/

namespace Falak.Overwrite

variable {α β κ : Type} [DecidableEq κ] (key : α → κ)

def write (a : α) : List α → List α
  | [] => [a]
  | b :: rest => if key b = key a then a :: rest else b :: write a rest

def written (entries : List α) : List α := entries.foldl (fun table a => write key a table) []

variable {key} {a b : α} {table entries : List α}

theorem mem_of_mem_write (member : b ∈ write key a table) : b = a ∨ b ∈ table := by
  induction table with
  | nil => exact .inl (List.mem_singleton.mp member)
  | cons first rest ih =>
    unfold write at member
    split at member
    · exact (List.mem_cons.mp member).imp_right (List.mem_cons_of_mem _)
    · rcases List.mem_cons.mp member with rfl | later
      · exact .inr List.mem_cons_self
      · exact (ih later).imp_right (List.mem_cons_of_mem _)

theorem map_key_write :
    (write key a table).map key =
      if key a ∈ table.map key then table.map key else table.map key ++ [key a] := by
  induction table with
  | nil => rfl
  | cons first rest ih =>
    by_cases same : key first = key a
    · simp [write, same]
    · by_cases later : key a ∈ rest.map key
      · simp only [if_pos later] at ih
        simp [write, same, ih, later]
      · simp only [if_neg later] at ih
        simp [write, same, Ne.symm same, ih, later]

theorem nodup_map_key_write (distinct : (table.map key).Nodup) :
    ((write key a table).map key).Nodup := by
  rw [map_key_write]
  split_ifs with known
  · exact distinct
  · rw [List.nodup_append]
    refine ⟨distinct, List.nodup_singleton _, fun k listed k' last => ?_⟩
    rw [List.mem_singleton.mp last]
    exact ne_of_mem_of_not_mem listed known

theorem mem_write_self : a ∈ write key a table := by
  induction table with
  | nil => exact List.mem_singleton_self a
  | cons first rest ih =>
    unfold write
    split
    · exact List.mem_cons_self
    · exact List.mem_cons_of_mem _ ih

theorem eq_of_mem_write (distinct : (table.map key).Nodup) (member : b ∈ write key a table)
    (same : key b = key a) : b = a :=
  List.inj_on_of_nodup_map (nodup_map_key_write distinct) member mem_write_self same

theorem map_write {key' : β → κ} {f : α → β} (kept : ∀ a, key' (f a) = key a) :
    (write key a table).map f = write key' (f a) (table.map f) := by
  induction table with
  | nil => rfl
  | cons first rest ih =>
    by_cases same : key first = key a
    · simp [write, kept, same]
    · simp [write, kept, same, ih]

theorem written_snoc : written key (entries ++ [a]) = write key a (written key entries) := by
  simp [written]

theorem written_filterMap_snoc {δ : Type} {accept : δ → Option α} {deliveries : List δ} {d : δ} :
    written key ((deliveries ++ [d]).filterMap accept) =
      match accept d with
      | none => written key (deliveries.filterMap accept)
      | some a => write key a (written key (deliveries.filterMap accept)) := by
  cases accepted : accept d with
  | none => simp [accepted]
  | some a => simp [accepted, written_snoc]

theorem nodup_written : ((written key entries).map key).Nodup := by
  induction entries using List.reverseRecOn with
  | nil => exact List.nodup_nil
  | append_singleton entries a ih =>
    rw [written_snoc]
    exact nodup_map_key_write ih

theorem mem_of_mem_written (member : a ∈ written key entries) : a ∈ entries := by
  induction entries using List.reverseRecOn with
  | nil => cases member
  | append_singleton entries b ih =>
    rw [written_snoc] at member
    rcases mem_of_mem_write member with rfl | before
    · exact List.mem_append_right _ (List.mem_singleton_self _)
    · exact List.mem_append_left _ (ih before)

section Newest

variable {δ τ : Type} [PartialOrder τ] (stamp : α → τ)

def Newest (key : α → κ) (stamp : α → τ) (entries : List α) (a : α) : Prop :=
  ∀ b ∈ entries, key b = key a → stamp b ≤ stamp a

def InOrder (key : α → κ) (stamp : α → τ) (entries : List α) : Prop :=
  entries.Pairwise fun a b => key a = key b → stamp a ≤ stamp b

def OneStamp (key : α → κ) (stamp : α → τ) (entries : List α) : Prop :=
  ∀ a ∈ entries, ∀ b ∈ entries, key b = key a → stamp b = stamp a

theorem newest_of_inOrder (ordered : InOrder key stamp entries) :
    ∀ a ∈ written key entries, Newest key stamp entries a := by
  induction entries using List.reverseRecOn with
  | nil => exact List.forall_mem_nil _
  | append_singleton entries c ih =>
    obtain ⟨earlier, -, last⟩ := List.pairwise_append.mp ordered
    intro a member b listed same
    rw [written_snoc] at member
    by_cases here : key a = key c
    · rw [eq_of_mem_write nodup_written member here] at same ⊢
      rcases List.mem_append.mp listed with before | final
      · exact last b before c (List.mem_singleton_self _) same
      · rw [List.mem_singleton.mp final]
    · have before := (mem_of_mem_write member).resolve_left fun same => here (by rw [same])
      refine ih earlier a before b ?_ same
      refine (List.mem_append.mp listed).resolve_right fun final => here ?_
      rw [← same, List.mem_singleton.mp final]

theorem all_orders_iff (good : α → Prop) (accept : δ → Option α) (deliveries : List δ) :
    (∀ order : List δ, order.Perm deliveries → ∀ a ∈ written key (order.filterMap accept),
      good a ∧ Newest key stamp (order.filterMap accept) a) ↔
      (∀ a ∈ deliveries.filterMap accept, good a) ∧
        OneStamp key stamp (deliveries.filterMap accept) := by
  constructor
  · intro always
    have last : ∀ a ∈ deliveries.filterMap accept,
        good a ∧ Newest key stamp (deliveries.filterMap accept) a := by
      intro a member
      obtain ⟨d, listed, accepted⟩ := List.mem_filterMap.mp member
      obtain ⟨before, after, rfl⟩ := List.append_of_mem listed
      -- The delivery of the entry is moved to the end.
      have moved : (before ++ after ++ [d]).Perm (before ++ d :: after) := by
        rw [List.append_assoc]
        exact (List.perm_append_singleton d after).append_left before
      obtain ⟨fine, newest⟩ := always _ moved a (by
        rw [List.filterMap_append, List.filterMap_cons_some accepted, List.filterMap_nil,
          written_snoc]
        exact mem_write_self)
      exact ⟨fine, fun b there => newest b ((moved.filterMap accept).symm.subset there)⟩
    refine ⟨fun a member => (last a member).1, fun a member b there same => ?_⟩
    exact le_antisymm ((last a member).2 b there same) ((last b there).2 a member same.symm)
  · rintro ⟨fine, level⟩ order moved a member
    have among : ∀ b ∈ order.filterMap accept, b ∈ deliveries.filterMap accept :=
      fun b there => (moved.filterMap accept).subset there
    have here := among a (mem_of_mem_written member)
    exact ⟨fine a here, fun b there same => le_of_eq (level a here b (among b there) same)⟩

end Newest

end Falak.Overwrite
