import Falak.Lib.Chan
import Falak.Lib.Reach
import Falak.Snapshot.Store
import Mathlib.Data.List.Perm.Basic

/-! The search for a snapshot: every peer is asked at once, and the first holder is returned. -/

namespace Falak.Snapshot

structure SnapshotQueryResponse where
  available : Bool
  size : Int := 0
  checksum : String := ""

section

variable (capsuleID tag : String)

def handleQuery (s : Store) (fault : Option String) : SnapshotQueryResponse :=
  match s.get fault capsuleID tag with
  | .ok (some record) => ⟨true, record.size, record.checksum⟩
  | _ => { available := false }

/-- What the query of a peer meets: its store, or nothing if no answer can be read. -/
abbrev Asked := Option (Store × Option String)

def queryPeer (asked : Asked) : Option SnapshotQueryResponse :=
  asked.map fun (store, fault) => handleQuery capsuleID tag store fault

/-- What the goroutine of a peer sends. -/
def result (answer : String × Asked) : String × Bool :=
  (answer.1, (queryPeer capsuleID tag answer.2).any (·.available))

end

inductive SearchError
  | noPeers
  | noHolder
  | done (err : String)
  deriving DecidableEq

def SearchError.text (capsuleID tag : String) : SearchError → String
  | .noPeers => "snapshot query: no peers available"
  | .noHolder => "snapshot query: no peer has snapshot " ++ capsuleID ++ "/" ++ tag
  | .done err => err

structure Search where
  waiting : List String
  results : Chan (String × Bool)
  remaining : Nat
  returned : Option (Except SearchError String)
  /-- All answers that were sent so far. -/
  answers : List (String × Asked) := []

namespace Search

def queryFirstResponder (peers : List String) : Search :=
  { waiting := peers
    results := .make peers.length
    remaining := peers.length
    returned := if peers = [] then some (.error .noPeers) else none }

inductive Action
  | answer (peer : String) (asked : Asked)
  | receive
  | finish
  | cancel (err : String)

/-- One step of the search or of a goroutine. A goroutine cannot send while the channel is full. -/
def step (capsuleID tag : String) (s : Search) : Action → Option Search
  | .answer peer asked =>
    if peer ∈ s.waiting ∧ s.results.hasRoom = true then
      some { s with
        waiting := s.waiting.erase peer
        results := s.results.trySend (result capsuleID tag (peer, asked))
        answers := s.answers ++ [(peer, asked)] }
    else none
  | .receive =>
    match s.returned, s.remaining, s.results.recv with
    | none, remaining + 1, some (.value (peer, ok) rest) =>
      if ok then some { s with results := rest, returned := some (.ok peer) }
      else some { s with results := rest, remaining := remaining }
    | _, _, _ => none
  | .finish =>
    if s.returned.isNone ∧ s.remaining = 0 then
      some { s with returned := some (.error .noHolder) }
    else none
  | .cancel err =>
    if s.returned.isNone ∧ 0 < s.remaining then
      some { s with returned := some (.error (.done err)) }
    else none

variable {capsuleID tag : String} {peers : List String} {s s' : Search}

/-- The answers that were heard come before those that are still in the channel. -/
structure Sound (capsuleID tag : String) (peers : List String) (s : Search) : Prop where
  cap : s.results.cap = peers.length
  split : (s.waiting ++ s.answers.map Prod.fst).Perm peers
  queued : ∃ heard, s.answers.map (result capsuleID tag) = heard ++ s.results.buf ∧
    (s.returned = none →
      heard.length + s.remaining = peers.length ∧ ∀ r ∈ heard, r.2 = false)
  live : s.results.closed = false
  found : ∀ peer, s.returned = some (.ok peer) → (peer, true) ∈ s.answers.map (result capsuleID tag)
  missing : s.returned = some (.error .noHolder) →
    s.waiting = [] ∧ ∀ r ∈ s.answers.map (result capsuleID tag), r.2 = false

theorem Sound.counted (sound : s.Sound capsuleID tag peers) :
    s.waiting.length + s.answers.length = peers.length := by
  simpa using sound.split.length_eq

theorem sound_start : (queryFirstResponder peers).Sound capsuleID tag peers := by
  refine ⟨rfl, by simp [queryFirstResponder], ⟨[], rfl, fun _ => ⟨by simp [queryFirstResponder],
    by simp⟩⟩, rfl, fun peer returned => ?_, fun returned => ?_⟩
  all_goals
    simp only [queryFirstResponder] at returned
    split at returned <;> cases returned

theorem Sound.answer (sound : s.Sound capsuleID tag peers) {peer : String} {asked : Asked}
    (taken : s.step capsuleID tag (.answer peer asked) = some s') :
    s'.Sound capsuleID tag peers := by
  obtain ⟨⟨waiting, room⟩, rfl⟩ := of_guard taken
  obtain ⟨heard, order, told⟩ := sound.queued
  have more : (s.results.trySend (result capsuleID tag (peer, asked))).buf
      = s.results.buf ++ [result capsuleID tag (peer, asked)] := by
    rw [Chan.trySend_buf, if_pos (by simpa [Chan.hasRoom] using room)]
  refine ⟨by simpa using sound.cap, ?_, ⟨heard, ?_, told⟩, by simpa using sound.live, ?_, ?_⟩
  · -- The peer moves from those waiting to those that have answered.
    have moved : (s.waiting.erase peer ++ (s.answers.map Prod.fst ++ [peer])).Perm
        (s.waiting ++ s.answers.map Prod.fst) := by
      rw [← List.append_assoc]
      refine (List.perm_append_singleton _ _).trans ?_
      exact (List.perm_cons_erase waiting).symm.append_right _
    simpa using moved.trans sound.split
  · simp [order, more]
  · intro found returned
    simp only [List.map_append, List.mem_append]
    exact .inl (sound.found found returned)
  · intro returned
    rw [(sound.missing returned).1] at waiting
    cases waiting

theorem Sound.receive (sound : s.Sound capsuleID tag peers)
    (taken : s.step capsuleID tag .receive = some s') : s'.Sound capsuleID tag peers := by
  simp only [step] at taken
  split at taken
  · rename_i remaining peer ok rest open' left received
    obtain ⟨buffer, rfl⟩ := Chan.recv_value received
    obtain ⟨heard, order, told⟩ := sound.queued
    obtain ⟨count, none⟩ := told open'
    have later : s.answers.map (result capsuleID tag)
        = (heard ++ [(peer, ok)]) ++ s.results.rest.buf := by
      rw [order, buffer, List.append_assoc]
      rfl
    split at taken
    · rename_i yes
      subst yes
      cases taken
      refine ⟨sound.cap, sound.split, ⟨_, later, nofun⟩, sound.live, ?_, nofun⟩
      rintro found ⟨⟩
      rw [order, buffer]
      exact List.mem_append_right _ List.mem_cons_self
    · rename_i no
      cases taken
      refine ⟨sound.cap, sound.split, ⟨_, later, fun _ => ⟨?_, ?_⟩⟩, sound.live, sound.found,
        sound.missing⟩
      · simp only [List.length_append, List.length_singleton]
        omega
      · intro r member
        rcases List.mem_append.mp member with before | last
        · exact none r before
        · cases List.mem_singleton.mp last
          simpa using no
  · cases taken

theorem Sound.finish (sound : s.Sound capsuleID tag peers)
    (taken : s.step capsuleID tag .finish = some s') : s'.Sound capsuleID tag peers := by
  obtain ⟨⟨open', zero⟩, rfl⟩ := of_guard taken
  obtain ⟨heard, order, told⟩ := sound.queued
  obtain ⟨count, none⟩ := told (Option.isNone_iff_eq_none.mp open')
  have counted := sound.counted
  have total := congrArg List.length order
  simp only [List.length_map, List.length_append] at total
  -- As many answers were heard as there are peers, so nobody is left.
  have nobody : s.waiting = [] := List.eq_nil_of_length_eq_zero (by omega)
  have empty : s.results.buf = [] := List.eq_nil_of_length_eq_zero (by omega)
  refine ⟨sound.cap, sound.split, ⟨heard, order, nofun⟩, sound.live, nofun, fun _ => ⟨nobody, ?_⟩⟩
  rw [order, empty, List.append_nil]
  exact none

theorem Sound.cancel (sound : s.Sound capsuleID tag peers) {err : String}
    (taken : s.step capsuleID tag (.cancel err) = some s') : s'.Sound capsuleID tag peers := by
  obtain ⟨-, rfl⟩ := of_guard taken
  obtain ⟨heard, order, -⟩ := sound.queued
  exact ⟨sound.cap, sound.split, ⟨heard, order, nofun⟩, sound.live, nofun, nofun⟩

theorem sound
    (reached : Reach (step capsuleID tag) (fun _ _ => True) (queryFirstResponder peers) s) :
    s.Sound capsuleID tag peers := by
  refine reached.invariant (Sound capsuleID tag peers) sound_start ?_
  intro s a s' sound _ taken
  cases a with
  | answer peer asked => exact sound.answer taken
  | receive => exact sound.receive taken
  | finish => exact sound.finish taken
  | cancel err => exact sound.cancel taken

theorem result_true {answer : String × Asked} : (result capsuleID tag answer).2 = true ↔
    ∃ store fault record, answer.2 = some (store, fault) ∧
      store.get fault capsuleID tag = .ok (some record) := by
  obtain ⟨peer, _ | ⟨store, fault⟩⟩ := answer
  · simp [result, queryPeer]
  · simp only [result, queryPeer, handleQuery, Option.map_some, Option.any_some]
    split
    · rename_i record got
      exact ⟨fun _ => ⟨store, fault, record, rfl, got⟩, fun _ => rfl⟩
    · rename_i other
      simp only [Bool.false_eq_true, false_iff]
      rintro ⟨_, _, record, ⟨⟩, got⟩
      exact other record got

/-- A store with the record of one snapshot. -/
def holder : Store :=
  { dir := []
    disk := .empty
    records := .singleton ("web", "v1") ⟨"web", "v1", 1, [], "", 0, 0, 0, false, 0⟩ }

end Search

end Falak.Snapshot
