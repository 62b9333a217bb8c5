import Falak.Capsule.Consistency
import Falak.Node.CapsuleHandler

/-! What an announcement of a capsule that is already known does to its placed replicas. -/

namespace Falak.Node

open Falak.Capsule
open Falak.Election (replicaSlotID)

def Assigned (c : Capsule) (slot node : String) : Prop :=
  node ≠ "" ∧ ∃ r ∈ c.replicas, r.replicaID = slot ∧ r.nodeID = node

structure LeavesAlone (old : Capsule) (failed : String → Prop) (after : Manager × List Effect) :
    Prop where
  kept : ∀ slot node, Assigned old slot node →
    ∃ c, after.1.get old.id = some c ∧ Assigned c slot node
  quiet : ∀ req ∈ requests after.2, req.capsuleID = old.id →
    ∀ node, Assigned old req.replicaID node → failed node

structure Mirrors (old : Capsule) (failed : String → Prop) (announced : Capsule) : Prop where
  recorded : ∀ slot node, Assigned old slot node → Assigned announced slot node
  free : ∀ i : Nat, i < initialReplicaCount announced.spec.replicas →
    ∀ node, Assigned old (replicaSlotID i) node → failed node

theorem assigned_protoToCapsule {c : Capsule} {slot node : String}
    (assigned : Assigned c slot node) :
    Assigned (Wire.protoToCapsule (Wire.capsuleToProto c)) slot node := by
  obtain ⟨named, r, recorded, slots, nodes⟩ := assigned
  refine ⟨named, Wire.protoToReplica ⟨r.replicaID, r.nodeID, Named.text r.status,
    some (.new r.startedAt)⟩, ?_, slots, nodes⟩
  exact List.mem_map_of_mem (List.mem_map_of_mem recorded)

theorem leavesAlone_ignored {m : Manager} {old : Capsule} (failed : String → Prop)
    (known : m.get old.id = some old) : LeavesAlone old failed (m, []) where
  kept _ _ assigned := ⟨old, known, assigned⟩
  quiet _ requested := by simp [requests] at requested

theorem leavesAlone_received {m : Manager} {old c : Capsule} (failed : String → Prop)
    (announcers : Announcers) (now : Int) (same : c.id = old.id)
    (stored : m.get old.id = some { c with updatedAt := now }) :
    LeavesAlone old failed
        (m, onManagerEvent announcers ⟨.received, c.id, { c with updatedAt := now }, now⟩) ↔
      Mirrors old failed c := by
  have asked := requests_onManagerEvent announcers
    ⟨.received, c.id, { c with updatedAt := now }, now⟩ (.inr rfl)
  constructor
  · intro alone
    refine ⟨fun slot node assigned => ?_, fun i first node assigned => ?_⟩
    · obtain ⟨c', found, recorded⟩ := alone.kept slot node assigned
      rw [stored] at found
      cases found
      exact recorded
    · refine alone.quiet (initialRequest { c with updatedAt := now } i) ?_ same node assigned
      rw [asked]
      exact mem_requests_initial.mpr ⟨i, first, rfl⟩
  · intro mirrors
    refine ⟨fun slot node assigned => ⟨_, stored, mirrors.recorded slot node assigned⟩, ?_⟩
    intro req requested _ node assigned
    rw [asked] at requested
    obtain ⟨i, first, rfl⟩ := mem_requests_initial.mp requested
    exact mirrors.free i first node assigned

/-- An announcement of a known capsule leaves placed replicas alone only if it mirrors them. -/
theorem reannouncement_leaves_alone (announcers : Announcers) {m : Manager} (now : Int)
    (fault : Option String) (clusterPath : String) (failed : String → Prop) {pb : Wire.CapsulePb}
    {old : Capsule} (known : m.get pb.id = some old) :
    LeavesAlone old failed
        (onOrbitMessage announcers m now fault clusterPath (.ok (.announcement (some pb)))) ↔
      announcers clusterPath = none ∨ (fault ≠ none ∧ m.store.db ≠ none) ∨
        Mirrors old failed (Wire.protoToCapsule pb) := by
  have named : old.id = pb.id := Store.id_of_get known
  have here : m.get old.id = some old := named ▸ known
  unfold onOrbitMessage
  cases announcer : announcers clusterPath with
  | none => simpa using leavesAlone_ignored failed here
  | some outcome =>
    have present : (m.store.get (Wire.protoToCapsule pb).id).isSome = true := by
      rw [show m.store.get (Wire.protoToCapsule pb).id = some old from known]
      rfl
    simp only [reduceCtorEq, false_or, orbitCall, Manager.receive]
    rw [show m.get (Wire.protoToCapsule pb).id = some old from known]
    rcases Store.update_present_cases now fault present with
      ⟨rejected, err, failed'⟩ | ⟨accepted, store, updated⟩
    · simp only [failed', Manager.refuse, List.flatMap_nil]
      exact iff_of_true (leavesAlone_ignored failed here) (.inl rejected)
    · simp only [updated, List.flatMap_cons, List.flatMap_nil, List.append_nil]
      obtain ⟨-, db, -, rfl⟩ := Store.update_ok updated
      rw [leavesAlone_received failed announcers now (named.symm)]
      · simp [accepted]
      · rw [Manager.get, Store.get_put]
        exact if_pos named

def placedCapsule : Capsule :=
  { Manager.webCapsule .running with
    replicas := [⟨"0", "node-b", .assigned, 0⟩, ⟨"1", "node-c", .assigned, 0⟩] }

def placed : Manager := .new (Store.new.put placedCapsule)

/-- An announcement without replicas drops the record and has the first slot elected again. -/
theorem reannouncement_drops_replicas :
    (placed.get "web").map Capsule.replicas = some placedCapsule.replicas ∧
      let after := onOrbitMessage (fun _ => some (.ok ())) placed 0 none "cluster"
        (.ok (.announcement (some (Wire.capsuleToProto (Manager.webCapsule .announced)))))
      (after.1.get "web").map Capsule.replicas = some [] ∧
        requests after.2 = [⟨"web", "0", .initial, "cluster", "", 50⟩] := by
  decide +kernel

/-- An announcement that records both replicas is harmless once the node of the first has failed. -/
theorem reannouncement_leaves_alone_mirrored :
    LeavesAlone placedCapsule (· = "node-b")
      (onOrbitMessage (fun _ => some (.ok ())) placed 0 none "cluster"
        (.ok (.announcement (some (Wire.capsuleToProto placedCapsule))))) := by
  have known : placed.get (Wire.capsuleToProto placedCapsule).id = some placedCapsule := by
    simp [placed, Manager.get, Manager.new, Wire.capsuleToProto]
  have single : initialReplicaCount
      (Wire.protoToCapsule (Wire.capsuleToProto placedCapsule)).spec.replicas = 1 := by
    decide +kernel
  refine (reannouncement_leaves_alone _ 0 none "cluster" _ known).mpr
    (.inr (.inr ⟨fun slot node => assigned_protoToCapsule, fun i first node assigned => ?_⟩))
  obtain rfl : i = 0 := by omega
  obtain ⟨-, r, recorded, slots, nodes⟩ := assigned
  rcases List.mem_cons.mp recorded with rfl | second
  · exact nodes.symm
  · rw [List.mem_singleton.mp second] at slots
    exact absurd slots (by decide +kernel)

end Falak.Node
