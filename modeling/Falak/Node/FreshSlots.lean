import Falak.Capsule.Consistency
import Falak.Node.Slots

/-! The replica slots that scale-ups ask for, beside those that are assigned by any name. -/

namespace Falak.Node

open Falak.Capsule
open Falak.Election (replicaSlotID)

structure Placement where
  now : Int
  fault : Option String
  replicaID : Option String
  nodeID : String

structure Placements where
  manager : Manager
  assigned : List ReplicaState := []
  asked : List Capsule := []

def Placements.place (id : CapsuleID) (s : Placements) (p : Placement) : Option Placements :=
  (s.manager.get id).map fun c =>
    let slot := p.replicaID.getD (nextReplicaSlot c)
    { manager := (s.manager.assignReplica p.now p.fault id slot p.nodeID).manager
      assigned := ⟨slot, p.nodeID, .assigned, p.now⟩ :: s.assigned
      asked := if p.replicaID.isNone then c :: s.asked else s.asked }

def entryOf (slot : String) (replicas : List ReplicaState) : Option ReplicaState :=
  replicas.find? fun r => r.replicaID = slot

theorem entryOf_assignReplica (slot replicaID nodeID : String) (now : Int)
    (replicas : List ReplicaState) :
    entryOf slot (assignReplica replicaID nodeID now replicas)
      = if replicaID = slot then some ⟨replicaID, nodeID, .assigned, now⟩
        else entryOf slot replicas := by
  induction replicas with
  | nil => by_cases named : replicaID = slot <;> simp [assignReplica, entryOf, named]
  | cons r rest ih =>
    by_cases same : r.replicaID = replicaID
    · by_cases named : replicaID = slot <;> simp [assignReplica, entryOf, same, named]
    · by_cases here : r.replicaID = slot
      · have other : replicaID ≠ slot := fun equal => same (here.trans equal.symm)
        rw [assignReplica, if_neg same, if_neg other]
        simp [entryOf, here]
      · simpa [assignReplica, entryOf, same, here] using ih

theorem nodup_assignReplica {replicas : List ReplicaState} (replicaID nodeID : String) (now : Int)
    (distinct : (replicas.map ReplicaState.replicaID).Nodup) :
    ((assignReplica replicaID nodeID now replicas).map ReplicaState.replicaID).Nodup := by
  rw [map_assignReplica]
  split
  · exact distinct
  · rename_i fresh
    exact List.nodup_append_comm.mp (List.nodup_cons.mpr ⟨fresh, distinct⟩)

theorem le_highestSlot (replicas : List ReplicaState) :
    -1 ≤ highestSlot replicas ∧
      ∀ r ∈ replicas, parseReplicaSlot r.replicaID ≤ highestSlot replicas := by
  have loop : ∀ highest : Int,
      highest ≤ replicas.foldl (fun h r => max h (parseReplicaSlot r.replicaID)) highest ∧
      ∀ r ∈ replicas, parseReplicaSlot r.replicaID ≤
        replicas.foldl (fun h r => max h (parseReplicaSlot r.replicaID)) highest := by
    induction replicas with
    | nil => simp
    | cons r rest ih =>
      intro highest
      obtain ⟨raised, others⟩ := ih (max highest (parseReplicaSlot r.replicaID))
      rw [List.foldl_cons, List.forall_mem_cons]
      exact ⟨(le_max_left _ _).trans raised, (le_max_right _ _).trans raised, others⟩
  exact loop (-1)

theorem nextReplicaSlot_fresh {c : Capsule} (fits : highestSlot c.replicas + 1 < 2 ^ 31) :
    nextReplicaSlot c ∉ recordedSlots c := by
  intro recorded
  obtain ⟨r, listed, named⟩ := List.mem_map.mp recorded
  obtain ⟨low, below⟩ := le_highestSlot c.replicas
  obtain ⟨n, next⟩ := Int.eq_ofNat_of_zero_le (show 0 ≤ highestSlot c.replicas + 1 by omega)
  have whole : nextReplicaSlot c = toString n := by
    rw [nextReplicaSlot, next, int32, Int.bmod_eq_of_le (by omega) (by omega)]
    rfl
  have read := below r listed
  rw [named, whole, parseReplicaSlot, scanInt_repr (by omega), Option.getD_some] at read
  omega

namespace Placements

variable {id : CapsuleID} {c₀ : Capsule}

def Kept (id : CapsuleID) (c₀ : Capsule) (s : Placements) : Prop :=
  ∃ c, s.manager.get id = some c ∧ (recordedSlots c).Nodup ∧
    ∀ slot, entryOf slot c.replicas = (entryOf slot s.assigned).or (entryOf slot c₀.replicas)

theorem Kept.place {s s' : Placements} {p : Placement} (kept : Kept id c₀ s)
    (taken : s.place id p = some s') : Kept id c₀ s' := by
  obtain ⟨c, found, distinct, entries⟩ := kept
  simp only [Placements.place, found, Option.map_some] at taken
  cases taken
  have assigned := (s.manager.assignReplica_spec p.now p.fault id
    (p.replicaID.getD (nextReplicaSlot c)) p.nodeID).2 id
  rw [if_pos rfl, found, Option.map_some] at assigned
  refine ⟨_, assigned, nodup_assignReplica _ _ _ distinct, fun slot => ?_⟩
  rw [entryOf_assignReplica, entries]
  simp only [entryOf, List.find?_cons]
  split <;> simp_all

def hosted (slots : List String) : Capsule :=
  { Manager.webCapsule .running with
    replicas := slots.map fun slot => ⟨slot, "node-a", .running, 0⟩ }

def hosting (slots : List String) : Manager := .new (Store.new.put (hosted slots))

end Placements

end Falak.Node
