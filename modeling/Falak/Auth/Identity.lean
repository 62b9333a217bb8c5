import Falak.Auth.Pubsub
import Falak.Lib.Reach

/-! The binding of node IDs to public keys in the phonebook. -/

namespace Falak.Auth

open Phonebook (Book Faults Member addOrUpdateEntry addOrUpdateEntry_eq processMember
  processMember_ok)

variable {K C H : Type}

structure Directory (H : Type) where
  book : Book
  seen : Seen H
  events : List Member
  completed : List (String × String)

namespace Directory

def opened (book : Book) : Directory H := ⟨book, Seen.empty, [], []⟩

/-- What happens to a node. The event bus may drop an event. -/
inductive Action
  | join (stream : Stream) (after : Aftermath) (delivered : Bool)
  | message (clusterPath : String) (now : Int) (fault : String → Option String) (data : Bytes)
      (delivered : Bool)
  | sync (clusterPath : String) (now : Int) (faults : Faults) (m : Phonebook.MemberInfo)
  | handle (i : Nat) (now : Int) (faults : Faults)
  | evictExpired (now : Int)

def lookup (a : Authenticator K C) (s : Directory H) (fault : String → Option String) : Lookup K :=
  fun nodeID clusterPath =>
    lookupPublicKey a.crypto (some s.book) (fault nodeID) nodeID clusterPath

def completion (a : Authenticator K C) (stream : Stream) (after : Aftermath) :
    List (String × String) :=
  match step1 a stream with
  | .error _ => []
  | .ok joinReq =>
    if (handleAuthStream a stream after).succeeded then [(joinReq.nodeID, stream.remotePeer)]
    else []

def step [DecidableEq H] (hash : Bytes → H) (a : Authenticator K C) (s : Directory H) :
    Action → Option (Directory H)
  | .join stream after delivered =>
    let announced := (handleAuthStream a stream after).announced.toList
    some
      { s with
        events := if delivered then s.events ++ announced else s.events
        completed := s.completed ++ completion a stream after }
  | .message clusterPath now fault data delivered =>
    let (seen, handled) :=
      handleAuthPubSubMessage a (s.lookup a fault) clusterPath hash s.seen now data
    match handled with
    | .confirms m =>
      some { s with seen := seen, events := if delivered then s.events ++ [m] else s.events }
    | _ => some { s with seen := seen }
  | .sync clusterPath now faults m =>
    match processMember s.book now faults clusterPath m with
    | .error _ => some s
    | .ok (_, book) => some { s with book := book }
  | .handle i now faults => do
    let m ← s.events[i]?
    some
      { s with
        book := addOrUpdateEntry s.book now faults m
        events := s.events.eraseIdx i }
  | .evictExpired now => some { s with seen := s.seen.sweep maxMessageAge now }

def Carries (peerID : Bytes → Option String) (a : Authenticator K C) (s : Directory H) :
    Action → Prop
  | .join stream _ _ => ∀ joinReq, Admitted a stream joinReq →
    peerID joinReq.publicKey = some joinReq.nodeID ∧ joinReq.nodeID = stream.remotePeer
  | .message clusterPath now fault data _ => ∀ announcement,
    Announced a (s.lookup a fault) clusterPath now data announcement →
      peerID announcement.publicKey = some announcement.newNodeID
  | .sync _ _ faults m => faults = {} → peerID m.publicKey = some m.nodeID
  | _ => True

def Binds (peerID : Bytes → Option String) (book : Book) : Prop :=
  ∀ nodeID clusterPath row, book.get nodeID clusterPath = some row →
    peerID row.publicKey = some nodeID

structure Bound (peerID : Bytes → Option String) (s : Directory H) : Prop where
  entries : Binds peerID s.book
  events : ∀ m ∈ s.events, peerID m.publicKey = some m.nodeID
  completed : ∀ pair ∈ s.completed, pair.1 = pair.2

variable {peerID : Bytes → Option String} {a : Authenticator K C} {s s' : Directory H}

theorem Binds.insert {book : Book} (binds : Binds peerID book) {nodeID : String}
    (clusterPath : String) {row : Phonebook.Row} (named : peerID row.publicKey = some nodeID) :
    Binds peerID (book.insert (nodeID, clusterPath) row) := by
  intro other cluster found there
  rw [Book.get_insert] at there
  split at there
  · rename_i key
    cases key
    cases there
    exact named
  · exact binds other cluster found there

theorem Binds.addOrUpdateEntry {book : Book} (binds : Binds peerID book) {m : Member}
    (named : peerID m.publicKey = some m.nodeID) (now : Int) (faults : Faults) :
    Binds peerID (Phonebook.addOrUpdateEntry book now faults m) := by
  rw [addOrUpdateEntry_eq]
  split
  · exact binds
  · apply binds.insert
    rw [Phonebook.Entry.written_publicKey]
    exact named

theorem of_mem_completion {stream : Stream} {after : Aftermath} {pair : String × String}
    (there : pair ∈ completion a stream after) :
    ∃ joinReq, Admitted a stream joinReq ∧ pair = (joinReq.nodeID, stream.remotePeer) := by
  unfold completion at there
  split at there
  · cases there
  · rename_i joinReq passes
    split at there
    · exact ⟨joinReq, step1_ok.mp passes, List.mem_singleton.mp there⟩
    · cases there

theorem Bound.step [DecidableEq H] {hash : Bytes → H} (bound : s.Bound peerID) {action : Action}
    (carries : s.Carries peerID a action) (taken : Directory.step hash a s action = some s') :
    s'.Bound peerID := by
  cases action with
  | join stream after delivered =>
    cases taken
    refine ⟨bound.entries, fun m there => ?_, fun pair there => ?_⟩
    · -- A new event is about the request.
      split at there
      · rcases List.mem_append.mp there with before | new
        · exact bound.events m before
        · have announced := Option.mem_toList.mp new
          obtain ⟨joinReq, admitted, rfl⟩ := handleAuthStream_announced.mp announced
          exact (carries joinReq admitted).1
      · exact bound.events m there
    · rcases List.mem_append.mp there with before | new
      · exact bound.completed pair before
      · obtain ⟨joinReq, admitted, rfl⟩ := of_mem_completion new
        exact (carries joinReq admitted).2
  | message clusterPath now fault data delivered =>
    unfold Directory.step at taken
    dsimp only at taken
    split at taken
    · rename_i m confirmed
      obtain ⟨announcement, announced, rfl⟩ := announced_of_confirms confirmed
      cases taken
      refine ⟨bound.entries, fun m there => ?_, bound.completed⟩
      split at there
      · rcases List.mem_append.mp there with before | new
        · exact bound.events m before
        · rw [List.mem_singleton.mp new]
          exact carries announcement announced
      · exact bound.events m there
    · cases taken
      exact ⟨bound.entries, bound.events, bound.completed⟩
  | sync clusterPath now faults m =>
    unfold Directory.step at taken
    dsimp only at taken
    split at taken
    · cases taken
      exact bound
    · rename_i new book processed
      obtain ⟨accepted, rfl⟩ := processMember_ok processed
      cases taken
      -- The row has the key of the record.
      refine ⟨bound.entries.insert clusterPath ?_, bound.events, bound.completed⟩
      rw [Phonebook.Entry.written_publicKey]
      exact carries accepted
  | handle i now faults =>
    obtain ⟨m, here, moved⟩ := Option.bind_eq_some_iff.mp taken
    cases moved
    have named := bound.events m (List.mem_of_getElem? here)
    refine ⟨bound.entries.addOrUpdateEntry named now faults, fun m' there => ?_, bound.completed⟩
    exact bound.events m' (List.mem_of_mem_eraseIdx there)
  | evictExpired now =>
    cases taken
    exact ⟨bound.entries, bound.events, bound.completed⟩

/--
In every run in which what is accepted carries its node's key, the phonebook binds nodes to keys.
-/
theorem phonebook_binds_identity [DecidableEq H] (hash : Bytes → H) (a : Authenticator K C)
    {book : Book} (binds : Binds peerID book) {s : Directory H}
    (reached : Reach (step hash a) (Carries peerID a) (opened book) s) :
    Binds peerID s.book ∧ (∀ pair ∈ s.completed, pair.1 = pair.2) ∧
      ((∀ key key' nodeID, peerID key = some nodeID → peerID key' = some nodeID → key = key') →
        ∀ s', Reach (step hash a) (Carries peerID a) s s' →
          ∀ nodeID clusterPath row row', s.book.get nodeID clusterPath = some row →
            s'.book.get nodeID clusterPath = some row' → row'.publicKey = row.publicKey) := by
  have bound {s : Directory H}
      (reached : Reach (step hash a) (Carries peerID a) (opened book) s) : s.Bound peerID := by
    refine reached.invariant (Bound peerID) ⟨binds, by simp [opened], by simp [opened]⟩ ?_
    intro s action s' before carries taken
    exact before.step carries taken
  refine ⟨(bound reached).entries, (bound reached).completed, ?_⟩
  -- Both keys belong to the node of the entry.
  intro unique s' further nodeID clusterPath row row' there there'
  exact unique _ _ nodeID ((bound (reached.trans further)).entries _ _ _ there')
    ((bound reached).entries _ _ _ there)

def twoNodes (key : Bytes) : Option String :=
  if key = [1] then some "node-n" else if key = [4] then some "node-m" else none

def certifyingVoucher : Authenticator Bytes Unit :=
  { plainVoucher with providers := fun _ => some ⟨true, fun _ _ _ => .ok (), fun _ => .ok true⟩ }

def oneKnown : Book := addOrUpdateEntry ∅ 0 {} ⟨"node-n", "r/d/c", [], [1], none⟩

theorem oneKnown_binds : Binds twoNodes oneKnown := by
  have nobody : Binds twoNodes ∅ := by
    intro nodeID clusterPath row there
    cases there
  exact nobody.addOrUpdateEntry (by decide) 0 {}

/-- A peer that knows the secret joins as another node, and its key replaces that node's. -/
theorem join_replaces_key :
    Binds twoNodes oneKnown ∧
      ∃ s : Directory Bytes,
        Reach (step id certifyingVoucher) (fun _ _ => True) (opened oneKnown) s ∧
        s.completed = [("node-n", "node-m")] ∧
        (s.book.get "node-n" "r/d/c").map (·.publicKey) = some [4] ∧ ¬ Binds twoNodes s.book := by
  refine ⟨oneKnown_binds, ?_⟩
  obtain ⟨s, reached, completed, replaced⟩ := Reach.exists_of_actions (step id certifyingVoucher)
    (opened oneKnown) [.join (joining "node-m" "node-n" [4]) undisturbed true, .handle 0 1 {}]
    (fun s : Directory Bytes => s.completed = [("node-n", "node-m")] ∧
      (s.book.get "node-n" "r/d/c").map (·.publicKey) = some [4]) (by decide +kernel)
  refine ⟨s, reached, completed, replaced, fun binds => ?_⟩
  obtain ⟨row, there, stored⟩ := Option.map_eq_some_iff.mp replaced
  have named := binds _ _ row there
  rw [stored] at named
  exact absurd named (by decide)

/-- A node that joins under its own ID and key is bound to them. -/
theorem phonebook_binds_identity_joined :
    ∃ s : Directory Bytes,
      Reach (step id certifyingVoucher) (Carries twoNodes certifyingVoucher) (opened oneKnown) s ∧
      s.completed = [("node-m", "node-m")] ∧
      (s.book.get "node-m" "r/d/c").map (·.publicKey) = some [4] ∧ Binds twoNodes s.book := by
  have carries : Carries twoNodes certifyingVoucher (opened oneKnown : Directory Bytes)
      (.join (joining "node-m" "node-m" [4]) undisturbed true) := by
    intro joinReq admitted
    obtain rfl := Except.ok.inj admitted.request
    exact ⟨by decide, rfl⟩
  have reached : Reach (step id certifyingVoucher) (Carries twoNodes certifyingVoucher)
      (opened oneKnown : Directory Bytes) _ :=
    .next (a := .handle 0 1 {}) (.next .start carries rfl) trivial rfl
  exact ⟨_, reached, by decide +kernel, by decide +kernel,
    (phonebook_binds_identity id certifyingVoucher oneKnown_binds reached).1⟩

end Directory

end Falak.Auth
