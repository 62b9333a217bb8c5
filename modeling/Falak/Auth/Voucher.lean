import Falak.Auth.Pubsub
import Falak.Lib.Chan
import Falak.Lib.Entry
import Falak.Lib.Reach

/-!
The joins that a voucher handles at the same time, and the answers of the cluster that reach them.
-/

namespace Falak.Auth

variable {K C : Type}

def minConfirmationsRequired : Nat := 1

/-- The tracker of a join. Its channel has one slot. -/
structure PendingAuth where
  confirmations : AList fun _ : String => Bool
  rejections : AList fun _ : String => String
  done : Chan AuthResult
  slot : done.cap = 1

namespace PendingAuth

variable (p : PendingAuth)

def new : PendingAuth := ⟨∅, ∅, .make 1, rfl⟩

/-- Send a result, unless the slot is taken. -/
def send (result : AuthResult) : PendingAuth :=
  { p with done := p.done.trySend result, slot := (Chan.trySend_cap p.done result).trans p.slot }

def confirm (c : MemberAuthConfirmed) : PendingAuth :=
  let p := { p with confirmations := p.confirmations.insert c.confirmingNodeID true }
  if p.confirmations.entries.length ≥ minConfirmationsRequired ∧ p.rejections.entries.length = 0
  then p.send { confirmed := true }
  else p

def reject (r : MemberAuthRejected) : PendingAuth :=
  let p := { p with rejections := p.rejections.insert r.rejectingNodeID r.reason }
  p.send { confirmed := false, reason := r.reason }

def receive : Option (AuthResult × PendingAuth) :=
  match p.done.buf.head? with
  | none => none
  | some result => some (result, { p with done := p.done.rest, slot := p.slot })

def timeout : Verdict :=
  .timeout p.confirmations.entries.length p.rejections.entries.length

structure Doomed (p : PendingAuth) : Prop where
  noted : p.rejections.entries.length ≠ 0
  unconfirmed : ∀ result ∈ p.done.buf, result.confirmed = false

structure InTime (tracked : Prop) (p : PendingAuth) : Prop where
  noted : tracked ∨ p.rejections.entries.length ≠ 0
  unconfirmed : ∀ result ∈ p.done.buf, result.confirmed = false

end PendingAuth

inductive Phase
  | broadcasting
  | waiting
  /-- The join is decided, and the tracker not yet removed. -/
  | answered (fullyAuthenticated : Bool)
  | returned (fullyAuthenticated : Bool)
  deriving DecidableEq

structure Join where
  nodeID : String
  clusterPath : String
  pending : PendingAuth
  phase : Phase
  refused : Bool

def Join.answer (j : Join) : Option Bool :=
  match j.phase with
  | .answered ok | .returned ok => some ok
  | _ => none

def pendingKey (nodeID clusterPath : String) : String := nodeID ++ ":" ++ clusterPath

structure Voucher where
  joins : List Join
  pendingAuth : String → Option Nat

namespace Voucher

def new : Voucher := ⟨[], fun _ => none⟩

inductive Action (K : Type)
  | begin (nodeID clusterPath : String)
  | broadcast (i : Nat) (sent : Bool)
  | receive (i : Nat)
  | timeout (i : Nat)
  | finish (i : Nat)
  | confirmed (lookup : Lookup K) (clusterPath : String) (payload : Bytes)
  | rejected (lookup : Lookup K) (clusterPath : String) (payload : Bytes)

def record (position : Option Nat) (change : PendingAuth → PendingAuth) (joins : List Join) :
    List Join :=
  match position with
  | none => joins
  | some i => joins.modify i fun j => { j with pending := change j.pending }

def refuse (nodeID clusterPath : String) (j : Join) : Join :=
  if j.nodeID = nodeID ∧ j.clusterPath = clusterPath ∧ j.answer = none then
    { j with refused := true }
  else j

def step (a : Authenticator K C) (s : Voucher) : Action K → Option Voucher
  | .begin nodeID clusterPath =>
    some
      { joins := s.joins ++ [⟨nodeID, clusterPath, .new, .broadcasting, false⟩]
        pendingAuth :=
          Function.update s.pendingAuth (pendingKey nodeID clusterPath) (some s.joins.length) }
  | .broadcast i sent => do
    let j ← s.joins[i]?
    if j.phase = .broadcasting then
      let phase := if sent then .waiting else .answered false
      some { s with joins := s.joins.set i { j with phase := phase } }
    else none
  | .receive i => do
    let j ← s.joins[i]?
    let (result, pending) ← j.pending.receive
    if j.phase = .waiting then
      let phase := .answered (Verdict.done result).proceeds
      some { s with joins := s.joins.set i { j with pending := pending, phase := phase } }
    else none
  | .timeout i => do
    let j ← s.joins[i]?
    if j.phase = .waiting then
      let phase := .answered j.pending.timeout.proceeds
      some { s with joins := s.joins.set i { j with phase := phase } }
    else none
  | .finish i => do
    let j ← s.joins[i]?
    match j.phase with
    | .answered ok =>
      some
        { joins := s.joins.set i { j with phase := .returned ok }
          -- Whichever tracker is there is removed.
          pendingAuth := Function.update s.pendingAuth (pendingKey j.nodeID j.clusterPath) none }
    | _ => none
  | .confirmed lookup clusterPath payload =>
    match verifyConfirmed a lookup clusterPath payload with
    | .error _ => some s
    | .ok c =>
      let position := s.pendingAuth (pendingKey c.newNodeID clusterPath)
      some { s with joins := record position (·.confirm c) s.joins }
  | .rejected lookup clusterPath payload =>
    match verifyRejected a lookup clusterPath payload with
    | .error _ => some s
    | .ok r =>
      let position := s.pendingAuth (pendingKey r.newNodeID clusterPath)
      let joins := record position (·.reject r) s.joins
      some { s with joins := joins.map (refuse r.newNodeID clusterPath) }

end Voucher

namespace PendingAuth

variable {p : PendingAuth}

theorem buf_length_le (p : PendingAuth) : p.done.buf.length ≤ 1 := by
  have fits := p.done.fits
  rwa [p.slot] at fits

theorem Doomed.confirm (doomed : p.Doomed) (c : MemberAuthConfirmed) : (p.confirm c).Doomed := by
  unfold PendingAuth.confirm
  rw [if_neg (fun both => doomed.noted both.2)]
  exact ⟨doomed.noted, doomed.unconfirmed⟩

variable {r : MemberAuthRejected} {result : AuthResult}

theorem doomed_reject : (p.reject r).Doomed ↔ ∀ result ∈ p.done.buf, result.confirmed = false := by
  constructor
  · -- What was waiting is still waiting.
    intro doomed result waiting
    apply doomed.unconfirmed
    show result ∈ (p.done.trySend _).buf
    rw [Chan.trySend_buf]
    split
    · exact List.mem_append_left _ waiting
    · exact waiting
  · intro unconfirmed
    refine ⟨?_, ?_⟩
    · simp [reject, send, AList.entries_insert]
    · intro result waiting
      rcases Chan.mem_trySend waiting with before | rfl
      · exact unconfirmed result before
      · rfl

theorem doomed_iff_inTime {tracked : Prop} [Decidable tracked] :
    (if tracked then p.reject r else p).Doomed ↔ p.InTime tracked := by
  split
  · rename_i found
    rw [doomed_reject]
    exact ⟨fun unconfirmed => ⟨.inl found, unconfirmed⟩, fun inTime => inTime.unconfirmed⟩
  · rename_i lost
    constructor
    · intro doomed
      exact ⟨.inr doomed.noted, doomed.unconfirmed⟩
    · intro inTime
      exact ⟨inTime.noted.resolve_left lost, inTime.unconfirmed⟩

theorem receive_of_mem (waiting : result ∈ p.done.buf) : ∃ p', p.receive = some (result, p') := by
  have single := p.buf_length_le
  unfold receive
  cases held : p.done.buf with
  | nil => simp [held] at waiting
  | cons first rest =>
    simp only [held, List.length_cons] at single
    obtain rfl : rest = [] := List.length_eq_zero_iff.mp (by omega)
    obtain rfl : result = first := by simpa [held] using waiting
    exact ⟨_, rfl⟩

theorem mem_of_receive {p' : PendingAuth} (received : p.receive = some (result, p')) :
    result ∈ p.done.buf := by
  unfold receive at received
  split at received
  · cases received
  · rename_i head
    cases received
    exact List.mem_of_mem_head? head

end PendingAuth

namespace Voucher

theorem getElem?_record (position : Option Nat) (change : PendingAuth → PendingAuth)
    (joins : List Join) (k : Nat) :
    (record position change joins)[k]? = joins[k]?.map fun j =>
      { j with pending := if position = some k then change j.pending else j.pending } := by
  cases position with
  | none => simp [record]
  | some i =>
    simp only [record, List.getElem?_modify, Option.some.injEq]
    cases joins[k]? with
    | none => rfl
    | some j =>
      split <;> rfl

end Voucher

end Falak.Auth
