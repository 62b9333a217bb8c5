import Falak.Capsule.Consistency
import Falak.Node.CapsuleHandler

/-! What two nodes hold after they have heard the same messages about a capsule in some order. -/

namespace Falak.Node

open Falak.Capsule

def OrbitPayload.About (id : CapsuleID) : OrbitPayload → Prop
  | .announcement (some pb) => pb.id = id
  | .withdrawal other => other = id
  | _ => False

def OrbitPayload.leaves : OrbitPayload → Option CapsuleSpec
  | .announcement (some pb) => some (Wire.protoToCapsule pb).spec
  | _ => none

def published (id : CapsuleID) (versions : List Capsule) (withdrawn : Bool) : List OrbitPayload :=
  versions.map (fun c => .announcement (some (Wire.capsuleToProto c))) ++
    if withdrawn then [.withdrawal id] else []

def hear (announcers : Announcers) (clusterPath : String) (m : Manager)
    (messages : List (Int × OrbitPayload)) : Manager :=
  messages.foldl
    (fun m message => (onOrbitMessage announcers m message.1 none clusterPath (.ok message.2)).1) m

variable {announcers : Announcers} {clusterPath : String} {m : Manager} {id : CapsuleID}

theorem onOrbitMessage_ok (joined : announcers clusterPath ≠ none) (now : Int)
    (payload : OrbitPayload) :
    (onOrbitMessage announcers m now none clusterPath (.ok payload)).1
      = (orbitCall m now none payload).manager := by
  obtain ⟨outcome, there⟩ := Option.ne_none_iff_exists'.mp joined
  simp [onOrbitMessage, there]

theorem synced_orbitCall (synced : m.store.Synced) (now : Int) (payload : OrbitPayload) :
    (orbitCall m now none payload).manager.store.Synced := by
  cases payload with
  | announcement c =>
    cases c with
    | none => exact synced
    | some pb =>
      exact Manager.synced_step (a := ⟨now, none, none, .receive (Wire.protoToCapsule pb)⟩) synced
        ⟨rfl, rfl⟩ rfl
  | status id text =>
    exact Manager.synced_step (a := ⟨now, none, none, .syncStatus id (Named.ofText text)⟩) synced
      ⟨rfl, rfl⟩ rfl
  | withdrawal id =>
    exact Manager.synced_step (a := ⟨now, none, none, .delete id⟩) synced ⟨rfl, rfl⟩ rfl

variable {payload : OrbitPayload} {versions : List Capsule} {withdrawn : Bool}

theorem get_orbitCall (synced : m.store.Synced) (now : Int) (about : payload.About id) :
    ((orbitCall m now none payload).manager.get id).map Capsule.spec = payload.leaves := by
  cases payload with
  | announcement c =>
    cases c with
    | none => exact about.elim
    | some pb =>
      cases about
      show ((m.receive now none (Wire.protoToCapsule pb)).manager.get
        (Wire.protoToCapsule pb).id).map Capsule.spec = _
      cases found : m.get (Wire.protoToCapsule pb).id with
      | none =>
        rw [(Manager.receive_unknown now synced found).1]
        rfl
      | some old =>
        rw [(Manager.receive_known now (by rw [found]; rfl)).1]
        rfl
  | status => exact about.elim
  | withdrawal other =>
    obtain rfl : other = id := about
    show ((m.delete now none other).manager.get other).map Capsule.spec = none
    rw [Option.map_eq_none_iff]
    cases found : m.get other with
    | none =>
      simp only [Manager.delete, found]
      exact found
    | some c =>
      obtain ⟨⟨fails, -⟩, -⟩ | ⟨-, store, deleted⟩ :=
        Store.delete_present_cases (s := m.store) none (by rw [← Manager.get, found]; rfl)
      · exact absurd rfl fails
      · rw [Manager.delete_removes now found deleted, if_pos rfl]

theorem synced_hear (joined : announcers clusterPath ≠ none) (synced : m.store.Synced)
    (messages : List (Int × OrbitPayload)) :
    (hear announcers clusterPath m messages).store.Synced := by
  induction messages generalizing m with
  | nil => exact synced
  | cons message rest ih =>
    apply ih
    show (onOrbitMessage announcers m message.1 none clusterPath (.ok message.2)).1.store.Synced
    rw [onOrbitMessage_ok joined]
    exact synced_orbitCall synced message.1 message.2

theorem get_hear (joined : announcers clusterPath ≠ none) (synced : m.store.Synced)
    {messages : List (Int × OrbitPayload)} {last : Int × OrbitPayload}
    (ends : messages.getLast? = some last) (about : last.2.About id) :
    ((hear announcers clusterPath m messages).get id).map Capsule.spec = last.2.leaves := by
  obtain ⟨earlier, rfl⟩ := List.getLast?_eq_some_iff.mp ends
  have before := synced_hear joined synced earlier
  unfold hear at before ⊢
  rw [List.foldl_append, List.foldl_cons, List.foldl_nil, onOrbitMessage_ok joined]
  exact get_orbitCall before last.1 about

theorem about_of_published (named : ∀ c ∈ versions, c.id = id)
    (there : payload ∈ published id versions withdrawn) :
    payload.About id := by
  rcases List.mem_append.mp there with announced | withdrawal
  · obtain ⟨c, version, rfl⟩ := List.mem_map.mp announced
    exact named c version
  · cases withdrawn with
    | false => cases withdrawal
    | true =>
      cases List.mem_singleton.mp withdrawal
      rfl

theorem leaves_last (ends : (published id versions withdrawn).getLast? = some payload) :
    payload.leaves = if withdrawn then none
      else versions.getLast?.map fun c => (Wire.protoToCapsule (Wire.capsuleToProto c)).spec := by
  -- The withdrawal is published after all versions.
  cases withdrawn with
  | true =>
    simp only [published, if_true, List.getLast?_concat, Option.some.injEq] at ends
    rw [← ends]
    rfl
  | false =>
    simp only [published, Bool.false_eq_true, if_false, List.append_nil, List.getLast?_map,
      Option.map_eq_some_iff] at ends
    obtain ⟨c, version, rfl⟩ := ends
    rw [version]
    rfl

structure Hearer (clusterPath : String) where
  announcers : Announcers
  joined : announcers clusterPath ≠ none
  manager : Manager
  synced : manager.store.Synced
  order : List (Int × OrbitPayload)

namespace Hearer

variable {clusterPath : String}

variable (h : Hearer clusterPath)

def messages : List OrbitPayload := h.order.map Prod.snd

def holds (id : CapsuleID) : Option CapsuleSpec :=
  ((hear h.announcers clusterPath h.manager h.order).get id).map Capsule.spec

theorem holds_last {versions : List Capsule}
    {withdrawn : Bool} (created : versions ≠ []) (named : ∀ c ∈ versions, c.id = id)
    (heard : h.messages.Perm (published id versions withdrawn)) :
    ∃ last, h.messages.getLast? = some last ∧ h.holds id = last.leaves := by
  have nonempty : h.order ≠ [] := by
    intro silent
    have nothing : published id versions withdrawn = [] := by
      rw [← List.perm_nil]
      simpa only [messages, silent, List.map_nil] using heard.symm
    simp [published, created] at nothing
  obtain ⟨message, ends⟩ := Option.ne_none_iff_exists'.mp
    (mt List.getLast?_eq_none_iff.mp nonempty)
  have member : message.2 ∈ published id versions withdrawn :=
    heard.subset (List.mem_map_of_mem (List.mem_of_getLast? ends))
  refine ⟨message.2, ?_, get_hear h.joined h.synced ends (about_of_published named member)⟩
  rw [messages, List.getLast?_map, ends]
  rfl

end Hearer

/--
After hearing all messages about a capsule, a node holds what the last one it heard leaves behind.
-/
theorem nodes_follow_last_message (id : CapsuleID) (versions : List Capsule) (withdrawn : Bool)
    (created : versions ≠ []) (named : ∀ c ∈ versions, c.id = id) {clusterPath : String}
    (a b : Hearer clusterPath) (heardA : a.messages.Perm (published id versions withdrawn))
    (heardB : b.messages.Perm (published id versions withdrawn)) :
    (∃ lastA lastB, a.messages.getLast? = some lastA ∧ b.messages.getLast? = some lastB ∧
      a.holds id = lastA.leaves ∧ b.holds id = lastB.leaves) ∧
    (a.messages.getLast? = (published id versions withdrawn).getLast? →
      b.messages.getLast? = (published id versions withdrawn).getLast? →
      a.holds id = b.holds id ∧ a.holds id = if withdrawn then none
        else versions.getLast?.map fun c =>
          (Wire.protoToCapsule (Wire.capsuleToProto c)).spec) := by
  obtain ⟨lastA, endsA, holdsA⟩ := a.holds_last created named heardA
  obtain ⟨lastB, endsB, holdsB⟩ := b.holds_last created named heardB
  refine ⟨⟨lastA, lastB, endsA, endsB, holdsA, holdsB⟩, ?_⟩
  intro finalA finalB
  rw [endsA] at finalA
  rw [endsB] at finalB
  rw [holdsA, holdsB, leaves_last finalA.symm, leaves_last finalB.symm]
  exact ⟨rfl, rfl⟩

def firstVersion : Capsule := Manager.freshCapsule 0 "web" "cluster" (bareSpec ⟨0, 0, 0⟩)

def secondVersion : Capsule :=
  { firstVersion with spec := { firstVersion.spec with image := "web:2" }, updatedAt := 1 }

def announced (c : Capsule) : OrbitPayload := .announcement (some (Wire.capsuleToProto c))

def imageAfter (messages : List (Int × OrbitPayload)) : Option String :=
  ((hear (fun _ => some (.ok ())) "cluster" (.new (.openStore ∅)) messages).get "web").map
    (·.spec.image)

/-- An announcement that is heard after the withdrawal brings the capsule back. -/
theorem nodes_disagree_by_order :
    imageAfter [(1, announced firstVersion), (2, .withdrawal "web")] = none ∧
      imageAfter [(1, .withdrawal "web"), (2, announced firstVersion)] = some "web:1" ∧
      imageAfter [(1, announced firstVersion), (2, announced secondVersion)] = some "web:2" ∧
      imageAfter [(1, announced secondVersion), (2, announced firstVersion)] = some "web:1" := by
  decide +kernel

def newcomer (store : Store) (synced : store.Synced) (order : List (Int × OrbitPayload)) :
    Hearer "cluster" where
  announcers _ := some (.ok ())
  joined := by simp
  manager := .new store
  synced := synced
  order := order

/-- Nodes that hear the last version last agree on it, with whatever kind of store. -/
theorem nodes_follow_last_message_updated :
    let order := [(5, announced firstVersion), (6, announced secondVersion)]
    (newcomer (.openStore ∅) (Store.synced_openStore ∅) order).holds "web"
      = (newcomer .new Store.synced_new order).holds "web" := by
  have named : ∀ c ∈ [firstVersion, secondVersion], c.id = "web" := by decide
  exact ((nodes_follow_last_message "web" [firstVersion, secondVersion] false (by simp) named
    _ _ (.refl _) (.refl _)).2 rfl rfl).1

end Falak.Node
