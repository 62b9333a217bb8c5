import Falak.Capsule.ManagerLaws
import Falak.Node.CapsuleHandler
import Falak.Orbit.Announcer

/-! Which messages of an orbit keep to the capsules of their cluster and to accepted specs. -/

namespace Falak.Node

open Falak.Capsule
open Falak.Orbit (Codec Deduplicator Rejection Verifier)

section Bytes

variable {H : Type} [DecidableEq H] (codec : Codec OrbitPayload) (hash : Bytes → H)
  (text : Rejection → String)

def onOrbitBytes (announcers : Announcers) (verifier : Option Verifier) (d : Deduplicator H)
    (m : Manager) (now : Int) (fault : Option String) (clusterPath : String) (data : Bytes) :
    Deduplicator H × Manager × List Effect :=
  match announcers clusterPath with
  | none => (d, m, [])
  | some _ =>
    let (d, outcome) := codec.handleMessage hash verifier now d data
    (d, onOrbitMessage announcers m now fault clusterPath (outcome.mapError text))

end Bytes

def AllAccepted (m : Manager) : Prop :=
  ∀ id, ∀ c ∈ m.get id, validateSpec c.spec = []

structure Confined (clusterPath : String) (m m' : Manager) : Prop where
  cluster : ∀ id, m'.get id = m.get id ∨
    (∀ c ∈ m.get id, c.clusterID = clusterPath) ∧ ∀ c ∈ m'.get id, c.clusterID = clusterPath
  specs : AllAccepted m → AllAccepted m'

def AdmissibleCapsule (clusterPath : String) (m : Manager) (now : Int) (fault : Option String)
    (c : Capsule) : Prop :=
  match m.get c.id with
  | none =>
    (fault ≠ none ∧ m.store.db ≠ none ∨ ∃ table ∈ m.store.db, c.id ∈ table) ∨
      c.clusterID = clusterPath ∧ (AllAccepted m → validateSpec c.spec = [])
  | some old =>
    (fault ≠ none ∧ m.store.db ≠ none) ∨ { c with updatedAt := now } = old ∨
      old.clusterID = clusterPath ∧ c.clusterID = clusterPath ∧
        (AllAccepted m → validateSpec c.spec = [])

def Admissible (clusterPath : String) (m : Manager) (now : Int) (fault : Option String) :
    OrbitPayload → Prop
  | .announcement none => True
  | .announcement (some pb) => AdmissibleCapsule clusterPath m now fault (Wire.protoToCapsule pb)
  | .status id text =>
    let status : CapsuleStatus := Named.ofText text
    status.valid = false ∨
      ∀ old ∈ m.get id, old.clusterID = clusterPath ∨ old.moveTo status now = old
  | .withdrawal id =>
    (fault ≠ none ∧ m.store.db ≠ none) ∨ ∀ old ∈ m.get id, old.clusterID = clusterPath

variable {clusterPath : String} {m m' : Manager} {now : Int} {fault : Option String}

theorem confined_refl : Confined clusterPath m m := ⟨fun _ => .inl rfl, id⟩

theorem confined_iff_of_written {id : CapsuleID} {new : Option Capsule}
    (gets : ∀ other, m'.get other = if other = id then new else m.get other) :
    Confined clusterPath m m' ↔ new = m.get id ∨
      (∀ c ∈ m.get id, c.clusterID = clusterPath) ∧ (∀ c ∈ new, c.clusterID = clusterPath) ∧
        (AllAccepted m → ∀ c ∈ new, validateSpec c.spec = []) := by
  have own : m'.get id = new := by rw [gets, if_pos rfl]
  constructor
  · -- The write is seen under its own ID.
    intro confined
    refine (confined.cluster id).imp (fun same => own ▸ same) fun inside => ?_
    rw [own] at inside
    refine ⟨inside.1, inside.2, fun accepted c stored => ?_⟩
    exact confined.specs accepted id c (own ▸ stored)
  · rintro (same | ⟨before, after, accepted⟩)
    · -- Nothing was changed under the ID either.
      have all (other : CapsuleID) : m'.get other = m.get other := by
        rw [gets]
        split
        · rename_i here
          rw [here, same]
        · rfl
      refine ⟨fun other => .inl (all other), fun accepted other => ?_⟩
      rw [all]
      exact accepted other
    · refine ⟨fun other => ?_, fun all other => ?_⟩
      · rw [gets]
        split
        · rename_i here
          rw [here]
          exact .inr ⟨before, after⟩
        · exact .inl rfl
      · rw [gets]
        split
        · exact accepted all
        · exact all other

theorem confined_receive_iff (c : Capsule) :
    Confined clusterPath m (m.receive now fault c).manager ↔
      AdmissibleCapsule clusterPath m now fault c := by
  unfold AdmissibleCapsule
  cases found : m.get c.id with
  | none =>
    simp only
    rcases Store.create_absent_cases now fault found with
      ⟨refused, err, failed⟩ | ⟨accepted, store, created⟩
    · refine iff_of_true ?_ (.inl refused)
      simp only [Manager.receive, found, failed]
      exact confined_refl
    · rw [confined_iff_of_written (Manager.receive_stores found created), or_iff_right accepted]
      simp [found]
  | some old =>
    have known : (m.get c.id).isSome = true := Option.isSome_of_eq_some found
    simp only
    rcases Store.update_present_cases now fault known with
      ⟨refused, err, failed⟩ | ⟨accepted, store, updated⟩
    · refine iff_of_true ?_ (.inl refused)
      simp only [Manager.receive, found, failed]
      exact confined_refl
    · rw [confined_iff_of_written (Manager.receive_replaces known updated), or_iff_right accepted]
      simp [found]

theorem confined_syncStatus_iff (id : CapsuleID) (text : String) :
    Confined clusterPath m (m.syncStatus now fault id (Named.ofText text)).manager ↔
      Admissible clusterPath m now fault (.status id text) := by
  simp only [Admissible]
  generalize (Named.ofText text : CapsuleStatus) = status
  by_cases absent : status.valid = false ∨ m.get id = none
  · -- There is nothing to take over.
    obtain ⟨err, refused⟩ := Manager.syncStatus_refused now fault absent
    rw [refused]
    refine iff_of_true confined_refl (absent.imp_right fun unknown => ?_)
    simp [unknown]
  · simp only [not_or, Bool.not_eq_false] at absent
    obtain ⟨valid, known⟩ := absent
    obtain ⟨old, found⟩ := Option.ne_none_iff_exists'.mp known
    rw [confined_iff_of_written (Manager.syncStatus_spec now fault valid found).1]
    simp only [found, valid, Bool.true_eq_false, false_or, Option.mem_def, Option.some.injEq,
      forall_eq', Capsule.moveTo]
    -- Cluster and specification stay as they are.
    rw [or_comm]
    refine or_congr_left ⟨fun inside => inside.1, fun own => ⟨own, own, fun accepted => ?_⟩⟩
    exact accepted id old found

theorem confined_delete_iff (id : CapsuleID) :
    Confined clusterPath m (m.delete now fault id).manager ↔
      Admissible clusterPath m now fault (.withdrawal id) := by
  simp only [Admissible]
  cases found : m.get id with
  | none =>
    simp only [Manager.delete, found]
    exact iff_of_true confined_refl (.inr (by simp))
  | some old =>
    have known : (m.get id).isSome = true := Option.isSome_of_eq_some found
    rcases Store.delete_present_cases fault known with
      ⟨refused, err, failed⟩ | ⟨accepted, store, deleted⟩
    · refine iff_of_true ?_ (.inl refused)
      simp only [Manager.delete, found, failed]
      exact confined_refl
    · rw [confined_iff_of_written (Manager.delete_removes now found deleted),
        or_iff_right accepted]
      simp [found]

theorem confined_orbitCall_iff (payload : OrbitPayload) :
    Confined clusterPath m (orbitCall m now fault payload).manager ↔
      Admissible clusterPath m now fault payload := by
  cases payload with
  | announcement c =>
    cases c with
    | none => exact iff_of_true confined_refl trivial
    | some pb => exact confined_receive_iff (Wire.protoToCapsule pb)
  | status id text => exact confined_syncStatus_iff id text
  | withdrawal id => exact confined_delete_iff id

/--
A message of an orbit keeps to the capsules of its cluster and to accepted specifications exactly
when every payload that is handed over is admissible.
-/
theorem orbit_message_confined {H : Type} [DecidableEq H] (codec : Codec OrbitPayload)
    (hash : Bytes → H) (text : Rejection → String) (announcers : Announcers)
    (verifier : Option Verifier) (d : Deduplicator H) (m : Manager) (now : Int)
    (fault : Option String) (clusterPath : String) (data : Bytes) :
    Confined clusterPath m
        (onOrbitBytes codec hash text announcers verifier d m now fault clusterPath data).2.1 ↔
      announcers clusterPath = none ∨ (d.seen (hash data)).isSome = true ∨
        ∀ msg payload, codec.Admits verifier now data msg payload →
          Admissible clusterPath m now fault payload := by
  unfold onOrbitBytes
  cases announcer : announcers clusterPath with
  | none => exact iff_of_true confined_refl (.inl rfl)
  | some published =>
    simp only [reduceCtorEq, false_or, onOrbitMessage, announcer]
    cases outcome : (codec.handleMessage hash verifier now d data).2 with
    | error rejection =>
      apply iff_of_true
      · exact confined_refl
      · cases seen : d.seen (hash data) with
        | some since => exact .inl rfl
        | none =>
          right
          intro msg payload admits
          rw [codec.handleMessage_ok.mpr ⟨seen, msg, admits⟩] at outcome
          cases outcome
    | ok payload =>
      obtain ⟨unseen, msg, admits⟩ := codec.handleMessage_ok.mp outcome
      simp only [Except.mapError, unseen, confined_orbitCall_iff, Option.isSome_none,
        Bool.false_eq_true, false_or]
      constructor
      · intro admissible msg' payload' admits'
        rw [codec.handleMessage_ok.mpr ⟨unseen, msg', admits'⟩] at outcome
        cases outcome
        exact admissible
      · intro admissible
        exact admissible msg payload admits

def carrying (type : String) (payload : OrbitPayload) : Codec OrbitPayload where
  unmarshalMessage _ := .ok ⟨utf8 type, [], utf8 "node-b", none, [1]⟩
  unmarshalAnnouncement _ := .ok payload
  unmarshalStatusUpdate _ := .ok payload
  unmarshalWithdrawal _ := .ok payload

def host : Manager :=
  ((Manager.new (.openStore ∅)).create 0 none none "web" "cluster-a" (bareSpec ⟨0, 0, 0⟩)).manager

def hostAfter (type : String) (payload : OrbitPayload) : Manager :=
  (onOrbitBytes (carrying type payload) id (fun _ => "") (fun _ => some (.ok ()))
    (some fun _ _ _ => true) .new host 1 none "cluster-b" []).2.1

/-- A member of one cluster withdraws, moves and replaces the capsule of another cluster. -/
theorem orbit_message_crosses_clusters :
    (host.get "web").map Capsule.clusterID = some "cluster-a" ∧
      (hostAfter "withdrawal" (.withdrawal "web")).get "web" = none ∧
      ((hostAfter "status" (.status "web" "stopped")).get "web").map Capsule.status
        = some .stopped ∧
      let c := { Manager.freshCapsule 0 "web" "cluster-b" zeroSpec with status := .announced }
      ((hostAfter "announcement" (.announcement (some (Wire.capsuleToProto c)))).get "web").map
        (fun c => (c.clusterID, (validateSpec c.spec).isEmpty)) = some ("cluster-b", false) := by
  decide +kernel

end Falak.Node
