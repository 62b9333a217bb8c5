import Falak.Node.CapsuleHandler
import Mathlib.Data.Finset.Card

/-! The replica slots of a capsule: how they are named, counted and filled one after the other. -/

namespace Falak.Node

open Falak.Capsule
open Falak.Election (replicaSlotID)

def replicaBound (r : ReplicaConfig) : Int := if r.exact > 0 then r.exact else r.max

def firstSlots (count : Int) : List String :=
  (List.range count.toNat).map fun i : Nat => replicaSlotID i

def recordedSlots (c : Capsule) : List String := c.replicas.map ReplicaState.replicaID

variable {c : Capsule}

theorem initialReplicaCount_le {r : ReplicaConfig}
    (accepted : validateReplicas (defaultReplicas r) = none) :
    initialReplicaCount (defaultReplicas r) ≤ replicaBound (defaultReplicas r) := by
  have filled : (defaultReplicas r).exact = 0 → (defaultReplicas r).min = 0 →
      (defaultReplicas r).max ≠ 0 := by
    unfold defaultReplicas
    split
    · intro _ zero
      cases zero
    · intro exact min max
      simp_all
  unfold validateReplicas at accepted
  unfold initialReplicaCount replicaBound
  split at accepted
  · cases accepted
  · split at accepted
    · cases accepted
    · split at accepted
      · split at accepted
        · cases accepted
        · split at accepted
          · cases accepted
          · split <;> [omega; (split <;> omega)]
      · split <;> omega

theorem mem_firstSlots {slot : String} {count : Int} :
    slot ∈ firstSlots count ↔ ∃ i : Nat, (i : Int) < count ∧ replicaSlotID i = slot := by
  simp only [firstSlots, List.mem_map, List.mem_range]
  refine exists_congr fun i => and_congr_left fun _ => ?_
  omega

theorem slot_mem_firstSlots {i : Nat} {count : Int} :
    replicaSlotID i ∈ firstSlots count ↔ (i : Int) < count := by
  rw [mem_firstSlots]
  constructor
  · rintro ⟨j, below, same⟩
    rwa [← eq_of_toString_eq same]
  · exact fun below => ⟨i, below, rfl⟩

theorem firstSlots_subset {small large : Int} (le : small ≤ large) :
    firstSlots small ⊆ firstSlots large := by
  intro slot first
  obtain ⟨i, below, rfl⟩ := mem_firstSlots.mp first
  exact slot_mem_firstSlots.mpr (by omega)

theorem card_firstSlots (count : Int) : (firstSlots count).toFinset.card = count.toNat := by
  have distinct : (firstSlots count).Nodup :=
    List.nodup_range.map fun _ _ same => eq_of_toString_eq same
  rw [List.toFinset_card_of_nodup distinct, firstSlots, List.length_map, List.length_range]

theorem highestSlot_lt {replicas : List ReplicaState} {count : Nat} (fits : count < 2 ^ 31)
    (first : ∀ r ∈ replicas, r.replicaID ∈ firstSlots count) :
    -1 ≤ highestSlot replicas ∧ highestSlot replicas < count := by
  have loop : ∀ highest : Int, -1 ≤ highest → highest < count →
      -1 ≤ replicas.foldl (fun h r => max h (parseReplicaSlot r.replicaID)) highest ∧
        replicas.foldl (fun h r => max h (parseReplicaSlot r.replicaID)) highest < count := by
    induction replicas with
    | nil => exact fun _ low high => ⟨low, high⟩
    | cons r rest ih =>
      intro highest low high
      obtain ⟨i, below, named⟩ := mem_firstSlots.mp (first r List.mem_cons_self)
      have parsed : parseReplicaSlot r.replicaID = i := by
        rw [← named, parseReplicaSlot, replicaSlotID,
          show toString (i : Int) = toString i from rfl, scanInt_repr (by omega), Option.getD_some]
      rw [List.foldl_cons, parsed]
      exact ih (fun r member => first r (List.mem_cons_of_mem _ member)) _ (by omega) (by omega)
  exact loop (-1) le_rfl (by omega)

theorem nextReplicaSlot_le {count : Nat} (fits : count < 2 ^ 31)
    (first : recordedSlots c ⊆ firstSlots count) :
    ∃ i : Nat, i ≤ count ∧ nextReplicaSlot c = replicaSlotID i := by
  obtain ⟨low, high⟩ := highestSlot_lt fits fun r member =>
    first (List.mem_map_of_mem (f := ReplicaState.replicaID) member)
  refine ⟨(highestSlot c.replicas + 1).toNat, by omega, ?_⟩
  -- An index that fits 32 bits is written as it is.
  have whole : int32 (highestSlot c.replicas + 1) = (highestSlot c.replicas + 1).toNat := by
    rw [int32, Int.bmod_eq_of_le (by omega) (by omega)]
    omega
  rw [nextReplicaSlot, whole]

inductive Filled (bound : Int) (slots beyond : List String) : Prop
  | within (count : Nat) (fits : count ≤ bound)
      (first : ∀ slot, slot ∈ slots ↔ slot ∈ firstSlots count) (none : beyond = [])
  | exceeded (first : firstSlots (bound + 1) ⊆ slots) (some : beyond ≠ [])

variable {bound : Int} {slots beyond : List String}

theorem Filled.card_le_iff (filled : Filled bound slots beyond) :
    (slots.toFinset.card : Int) ≤ bound ↔ beyond = [] := by
  cases filled with
  | within count fits first none =>
    have same : slots.toFinset = (firstSlots count).toFinset := by
      ext slot
      rw [List.mem_toFinset, List.mem_toFinset, first]
    rw [same, card_firstSlots]
    exact iff_of_true (by omega) none
  | exceeded first some =>
    have more : (firstSlots (bound + 1)).toFinset.card ≤ slots.toFinset.card :=
      Finset.card_le_card fun slot member =>
        List.mem_toFinset.mpr (first (List.mem_toFinset.mp member))
    rw [card_firstSlots] at more
    exact iff_of_false (by omega) some

theorem Filled.initial (filled : Filled bound slots beyond) {initial : Int}
    (fits : initial ≤ bound) : Filled bound (slots ++ firstSlots initial) beyond := by
  cases filled with
  | within count below first none =>
    refine .within (max count initial.toNat) (by omega) (fun slot => ?_) none
    rw [List.mem_append, first]
    constructor
    · rintro (already | fresh)
      · exact firstSlots_subset (by omega) already
      · exact firstSlots_subset (by omega) fresh
    · intro member
      obtain ⟨i, small, rfl⟩ := mem_firstSlots.mp member
      rw [slot_mem_firstSlots, slot_mem_firstSlots]
      omega
  | exceeded first some => exact .exceeded (List.subset_append_of_subset_left _ first) some

theorem mem_append_next {count i : Nat} (first : ∀ slot, slot ∈ slots ↔ slot ∈ firstSlots count)
    (next : i ≤ count) (slot : String) :
    slot ∈ slots ++ [replicaSlotID i] ↔ slot ∈ firstSlots (max count (i + 1) : Nat) := by
  rw [List.mem_append, first, List.mem_singleton]
  constructor
  · rintro (already | rfl)
    · exact firstSlots_subset (by omega) already
    · exact slot_mem_firstSlots.mpr (by omega)
  · intro member
    obtain ⟨j, small, rfl⟩ := mem_firstSlots.mp member
    rw [slot_mem_firstSlots]
    rcases Nat.lt_or_ge j count with below | above
    · exact .inl (by omega)
    · obtain rfl : j = i := by omega
      exact .inr rfl

theorem Filled.scaleUp (filled : Filled bound slots beyond) (narrow : bound < 2 ^ 31)
    (recorded : recordedSlots c ⊆ slots) :
    Filled bound (slots ++ [nextReplicaSlot c])
      (beyond ++ if nextReplicaSlot c ∉ firstSlots bound then [nextReplicaSlot c] else []) := by
  cases filled with
  | within count fits first none =>
    obtain ⟨i, next, named⟩ := nextReplicaSlot_le (by omega) fun slot member =>
      (first slot).mp (recorded member)
    rw [named, none, List.nil_append]
    by_cases inside : (i : Int) < bound
    · rw [if_neg (not_not.mpr (slot_mem_firstSlots.mpr inside))]
      exact .within (max count (i + 1)) (by omega) (mem_append_next first next) rfl
    · rw [if_pos (slot_mem_firstSlots.not.mpr inside)]
      refine .exceeded (fun slot member => ?_) (List.cons_ne_nil _ _)
      exact (mem_append_next first next slot).mpr (firstSlots_subset (by omega) member)
  | exceeded first some =>
    exact .exceeded (List.subset_append_of_subset_left _ first)
      (List.append_ne_nil_of_left_ne_nil some _)

end Falak.Node
