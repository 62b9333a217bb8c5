import Falak.Node.ElectionHandler

/-! A new capsule, from its creation to the first elections on every node. -/

namespace Falak.Node

open Falak.Capsule (CapsuleID CapsuleSpec CapsuleStatus)
open Falak.Capsule.Manager (createStored Stored)

def creationEffects (announcers : Announcers) (m : Capsule.Manager) (now : Int)
    (fault : Option String) (id : CapsuleID) (clusterID : String) (spec : CapsuleSpec) :
    List Effect :=
  (m.createStored now fault id clusterID spec).events.flatMap (onManagerEvent announcers)

structure Answers where
  create : Option String
  announce : Option String
  start : Option String

def launch (announcers : Announcers) (n : Managers) (now : Int) (answers : Answers)
    (around : Election.Surroundings) (id : CapsuleID) (clusterID : String) (spec : CapsuleSpec)
    (early : Nat) : List (Except String Unit) :=
  let stored := (n.capsules.createStored now answers.create id clusterID spec).manager
  let reqs := requests
    (creationEffects announcers n.capsules now answers.create id clusterID spec)
  let before := dispatchAll ⟨n.elections, stored⟩ now answers.start around (reqs.take early)
  let announced := (before.1.capsules.announce now answers.announce id).manager
  let after := dispatchAll ⟨before.1.elections, announced⟩ now answers.start around
    (reqs.drop early)
  before.2 ++ after.2

structure Receiver where
  capsules : Capsule.Manager
  now : Int
  fault : Option String

def Receiver.received (r : Receiver) (pb : Wire.CapsulePb) : Capsule.Manager :=
  (orbitCall r.capsules r.now r.fault (.announcement (some pb))).manager

/-- A capsule can be elected, executed and run on a node. -/
def Electable (m : Capsule.Manager) (now : Int) (fault : Option String) (id : CapsuleID) : Prop :=
  let electing := m.startElection now fault id
  let assigned := electing.manager.winElection now fault id
  let executing := assigned.manager.startExecution now fault id
  let running := executing.manager.markRunning now fault id
  electing.result = .ok () ∧ assigned.result = .ok () ∧ executing.result = .ok () ∧
    running.result = .ok () ∧ running.manager.status id = .ok .running

theorem startElection_ok_iff (m : Capsule.Manager) (now : Int) (fault : Option String)
    (id : CapsuleID) :
    (m.startElection now fault id).result = .ok () ↔ m.state id = some .announced := by
  cases m.fire_spec now fault id .electionStarted with
  | @moved source target here permitted result =>
    refine iff_of_true result ?_
    cases source <;> simp [Capsule.permit] at permitted
    exact here
  | refused forbidden err result =>
    refine iff_of_false (fun ok => ?_) fun there => ?_
    · rw [Capsule.Manager.startElection, result] at ok
      cases ok
    · cases forbidden .announced there

variable {announcers : Announcers} {m : Capsule.Manager} {now : Int} {fault : Option String}
  {id : CapsuleID} {clusterID : String} {spec : CapsuleSpec}

abbrev created (now : Int) (id : CapsuleID) (clusterID : String) (spec : CapsuleSpec) :
    Capsule.Capsule :=
  Capsule.Manager.freshCapsule now id clusterID (Capsule.defaultSpec spec)

section

variable
  (stored : Stored m now fault id clusterID spec (m.createStored now fault id clusterID spec))

include stored

theorem creation_requests (announcers : Announcers) :
    ∃ rest, requests (creationEffects announcers m now fault id clusterID spec)
      = initialRequest (created now id clusterID spec) 0 :: rest := by
  rw [creationEffects, stored.events, List.flatMap_cons, List.flatMap_nil, List.append_nil,
    requests_onManagerEvent _ _ (.inl rfl)]
  exact requests_initial_cons _

theorem mem_creationEffects {pb : Wire.CapsulePb} :
    .announce pb ∈ creationEffects announcers m now fault id clusterID spec ↔
      announcers clusterID ≠ none ∧ pb = Wire.capsuleToProto (created now id clusterID spec) := by
  simp only [creationEffects, stored.events, List.flatMap_cons, List.flatMap_nil, List.append_nil,
    onManagerEvent, List.mem_append, List.mem_cons, List.not_mem_nil, or_false, reduceCtorEq,
    false_or, mem_announceCapsule, requestInitialElections, requestElection, List.mem_map,
    and_false, exists_false]
  rfl

theorem announce_stored (announceFault : Option String) :
    let announced := ((m.createStored now fault id clusterID spec).manager.announce now
      announceFault id).manager
    announced.state id = some .announced ∧ (announced.get id).isSome = true := by
  intro announced
  have here : (m.createStored now fault id clusterID spec).manager.state id = some .created := by
    rw [stored.states, if_pos rfl]
  cases Capsule.Manager.fire_spec (m.createStored now fault id clusterID spec).manager now
    announceFault id .announce with
  | refused forbidden => cases forbidden .created here
  | moved there permitted _ gets states =>
    rw [here] at there
    cases there
    cases permitted
    refine ⟨(states id).trans (if_pos rfl), ?_⟩
    rw [show announced.get id = _ from gets id, if_pos rfl, stored.gets, if_pos rfl]
    rfl

end

theorem launch_head {n : Managers} {answers : Answers} {around : Election.Surroundings}
    (early : Nat) (ready : Ready n.elections around clusterID id)
    (stored : Stored n.capsules now answers.create id clusterID spec
      (n.capsules.createStored now answers.create id clusterID spec)) :
    (launch announcers n now answers around id clusterID spec early).head? = some (.ok ()) ↔
      early = 0 := by
  obtain ⟨rest, asked⟩ := creation_requests stored announcers
  simp only [launch, asked]
  cases early with
  | zero =>
    obtain ⟨announced, present⟩ := announce_stored stored answers.announce
    simp only [List.take_zero, List.drop_zero, dispatchAll_nil, List.nil_append, iff_true]
    rw [dispatchAll_head rest ready present]
    exact congrArg some ((startElection_ok_iff _ now answers.start id).mpr announced)
  | succ k =>
    have here : (n.capsules.createStored now answers.create id clusterID spec).manager.state id
        = some .created := by rw [stored.states, if_pos rfl]
    have present : ((n.capsules.createStored now answers.create id clusterID spec).manager.get
        id).isSome = true := by rw [stored.gets, if_pos rfl]; rfl
    rw [List.take_succ_cons, List.head?_append, dispatchAll_head _ ready present, Option.some_or]
    refine iff_of_false (fun started => ?_) (by omega)
    have announced := (startElection_ok_iff _ now answers.start id).mp (Option.some.inj started)
    rw [here] at announced
    cases announced

theorem not_electable_received (r : Receiver) (unknown : r.capsules.getLifecycle id = none) :
    ¬ Electable (r.received (Wire.capsuleToProto (created now id clusterID spec))) r.now r.fault
      id := by
  rintro ⟨started, -⟩
  have announced := (startElection_ok_iff _ _ _ _).mp started
  have nothing : r.capsules.state id = none := by rw [Capsule.Manager.state, unknown]; rfl
  -- The status travels as its name.
  obtain ⟨c, named, first, same⟩ : ∃ c : Capsule.Capsule, c.id = id ∧ c.status = .created ∧
      Wire.protoToCapsule (Wire.capsuleToProto (created now id clusterID spec)) = c :=
    ⟨_, rfl, Wire.protoToCapsule_status rfl, rfl⟩
  have received := r.capsules.receive_spec r.now r.fault c
  simp only [Receiver.received, orbitCall, same] at announced
  generalize r.capsules.receive r.now r.fault c = call at received announced
  cases received with
  | refused =>
    rw [Capsule.Manager.refuse, nothing] at announced
    cases announced
  | replaced =>
    rw [Capsule.Manager.state_withStore, nothing] at announced
    cases announced
  | stored =>
    rw [Capsule.Manager.state_setLifecycle, if_pos named.symm, first] at announced
    cases announced

/-- A new capsule can be elected everywhere only if it is elected on its originator alone. -/
theorem new_capsule_electable {n : Managers} {answers : Answers} {around : Election.Surroundings}
    {c : Capsule.Capsule} (receivers : List Receiver) (early : Nat)
    (accepted : (n.capsules.createStored now answers.create id clusterID spec).result = .ok c)
    (ready : Ready n.elections around clusterID id)
    (unknown : ∀ r ∈ receivers, r.capsules.getLifecycle id = none) :
    (launch announcers n now answers around id clusterID spec early).head? = some (.ok ()) ∧
        (∀ pb,
          .announce pb ∈
            creationEffects announcers n.capsules now answers.create id clusterID spec →
          ∀ r ∈ receivers, Electable (r.received pb) r.now r.fault id) ↔
      early = 0 ∧ (announcers clusterID = none ∨ receivers = []) := by
  rcases n.capsules.createStored_spec now answers.create id clusterID spec with
    ⟨err, refused⟩ | stored
  · rw [refused] at accepted
    cases accepted
  rw [launch_head early ready stored, and_congr_right_iff]
  intro _
  simp only [mem_creationEffects stored]
  constructor
  · intro electable
    by_contra reaches
    push Not at reaches
    obtain ⟨r, member⟩ := List.exists_mem_of_ne_nil _ reaches.2
    exact not_electable_received r (unknown r member) (electable _ ⟨reaches.1, rfl⟩ r member)
  · rintro (silent | alone) pb ⟨announced, -⟩ r member
    · exact absurd silent announced
    · rw [alone] at member
      cases member

def blankNode : Managers :=
  ⟨(Election.Manager.new "node-a" second 0).start.openTopic "cluster", .new .new⟩

def eligibleAtOnce : Election.Surroundings := ⟨true, true, some fun _ => ⟨true, 50, 0, ""⟩, second⟩

def noFaults : Answers := ⟨none, none, none⟩

def launchWeb (early : Nat) : List (Except String Unit) :=
  launch (fun _ => some (.ok ())) blankNode 0 noFaults eligibleAtOnce "web" "cluster"
    (Capsule.bareSpec ⟨0, 0, 0⟩) early

theorem ready_blankNode (id : CapsuleID) :
    Ready blankNode.elections eligibleAtOnce "cluster" id where
  started := by decide
  configured := rfl
  joined := by decide +kernel
  strategy := rfl
  idle _ := rfl

/-- A new capsule is stuck when its first request is handed over early, and on every other node. -/
theorem new_capsule_stuck :
    (launchWeb 1).map Except.isOk = [false] ∧
      ∃ pb, .announce pb ∈ creationEffects (fun _ => some (.ok ())) (.new .new) 0 none "web"
          "cluster" (Capsule.bareSpec ⟨0, 0, 0⟩) ∧
        ((⟨.new .new, 0, none⟩ : Receiver).received pb).state "web" = some .created ∧
        (((⟨.new .new, 0, none⟩ : Receiver).received pb).startElection 0 none "web").result.isOk
          = false := by
  refine ⟨by decide +kernel,
    Wire.capsuleToProto (created 0 "web" "cluster" (Capsule.bareSpec ⟨0, 0, 0⟩)), ?_,
    by decide +kernel, by decide +kernel⟩
  exact List.mem_cons_of_mem _ List.mem_cons_self

/-- A new capsule that no other node handles is elected when its requests wait for `Create`. -/
theorem new_capsule_electable_alone : (launchWeb 0).head? = some (.ok ()) := by
  have accepted : (blankNode.capsules.createStored 0 none "web" "cluster"
      (Capsule.bareSpec ⟨0, 0, 0⟩)).result.isOk = true := by decide +kernel
  cases created : (blankNode.capsules.createStored 0 none "web" "cluster"
      (Capsule.bareSpec ⟨0, 0, 0⟩)).result with
  | error err =>
    rw [created] at accepted
    cases accepted
  | ok c =>
    exact ((new_capsule_electable [] 0 created (ready_blankNode "web") nofun).mpr
      ⟨rfl, .inr rfl⟩).1

end Falak.Node
