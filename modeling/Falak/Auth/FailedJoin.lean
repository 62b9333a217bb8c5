import Falak.Auth.Handler

/-! What a join leaves in the phonebook of the voucher once its event is handled. -/

namespace Falak.Auth

open Phonebook (Book Faults Member addOrUpdateEntry addOrUpdateEntry_eq)

variable {K C : Type}

def settle (book : Book) (now : Int) (faults : Faults) (delivered : Bool) (o : Outcome C) : Book :=
  match o.announced with
  | none => book
  | some m => if delivered then addOrUpdateEntry book now faults m else book

def SameEntries (before after : Book) : Prop :=
  ∀ nodeID clusterPath, after.get nodeID clusterPath = before.get nodeID clusterPath

def Unrecorded (a : Authenticator K C) (s : Stream) (book : Book) (now : Int) (faults : Faults)
    (delivered : Bool) : Prop :=
  delivered = true → ∀ joinReq, Admitted a s joinReq →
    faults.Lose (book.get joinReq.nodeID joinReq.clusterPath).isSome ∨
      ∃ row, book.get joinReq.nodeID joinReq.clusterPath = some row ∧
        (joinReq.member.entry now).updated now row = row

variable {a : Authenticator K C} {s : Stream} {book : Book} {now : Int} {faults : Faults}
  {joinReq : JoinRequest}

theorem Admitted.unique {joinReq' : JoinRequest} (admitted : Admitted a s joinReq)
    (admitted' : Admitted a s joinReq') : joinReq = joinReq' :=
  Except.ok.inj (admitted.request.symm.trans admitted'.request)

theorem settle_admitted (admitted : Admitted a s joinReq) (after : Aftermath) :
    settle book now faults true (handleAuthStream a s after)
      = addOrUpdateEntry book now faults joinReq.member := by
  have announced : (handleAuthStream a s after).announced = some joinReq.member :=
    handleAuthStream_announced.mpr ⟨joinReq, admitted, rfl⟩
  simp [settle, announced]

theorem settle_unrecorded {delivered : Bool} (after : Aftermath)
    (unrecorded : ¬ (delivered = true ∧ ∃ joinReq, Admitted a s joinReq)) :
    settle book now faults delivered (handleAuthStream a s after) = book := by
  unfold settle
  split
  · rfl
  · rename_i m announced
    obtain ⟨joinReq, admitted, -⟩ := handleAuthStream_announced.mp announced
    rw [if_neg fun handled => unrecorded ⟨handled, joinReq, admitted⟩]

theorem sameEntries_insert {nodeID clusterPath : String} {row : Phonebook.Row} :
    SameEntries book (book.insert (nodeID, clusterPath) row) ↔
      book.get nodeID clusterPath = some row := by
  constructor
  · intro same
    have here := same nodeID clusterPath
    simpa using here.symm
  · intro there other cluster
    rw [Book.get_insert]
    split
    · rename_i key
      cases key
      exact there.symm
    · rfl

theorem written_there {m : Member} {old : Option Phonebook.Row} :
    old = some ((m.entry now).written now old) ↔
      ∃ row, old = some row ∧ (m.entry now).updated now row = row := by
  cases old with
  | none => simp
  | some row => simp [Phonebook.Entry.written, eq_comm]

theorem sameEntries_settle (admitted : Admitted a s joinReq) (after : Aftermath) :
    SameEntries book (settle book now faults true (handleAuthStream a s after)) ↔
      Unrecorded a s book now faults true := by
  have condition : Unrecorded a s book now faults true ↔
      faults.Lose (book.get joinReq.nodeID joinReq.clusterPath).isSome ∨
        ∃ row, book.get joinReq.nodeID joinReq.clusterPath = some row ∧
          (joinReq.member.entry now).updated now row = row := by
    constructor
    · intro unrecorded
      exact unrecorded rfl joinReq admitted
    · intro holds _ other admitted'
      rwa [← admitted.unique admitted']
  rw [condition, settle_admitted admitted, addOrUpdateEntry_eq]
  show SameEntries book (if faults.Lose (book.get joinReq.nodeID joinReq.clusterPath).isSome
    then book else _) ↔ _
  split
  · rename_i lost
    exact iff_of_true (fun _ _ => rfl) (.inl lost)
  · rename_i kept
    rw [sameEntries_insert, or_iff_right kept]
    exact written_there

theorem known_of_recorded (now : Int) (admitted : Admitted a s joinReq) (after : Aftermath)
    (kept : ¬ faults.Lose (book.get joinReq.nodeID joinReq.clusterPath).isSome) :
    ∃ row, (settle book now faults true (handleAuthStream a s after)).get joinReq.nodeID
      joinReq.clusterPath = some row ∧ row.publicKey = joinReq.publicKey := by
  refine ⟨(joinReq.member.entry now).written now (book.get joinReq.nodeID joinReq.clusterPath),
    ?_, by simp [Member.entry, JoinRequest.member]⟩
  rw [settle_admitted admitted, addOrUpdateEntry_eq]
  show Book.get (if faults.Lose (book.get joinReq.nodeID joinReq.clusterPath).isSome
    then book else _) _ _ = _
  rw [if_neg kept]
  simp [JoinRequest.member]

/-- A join that does not succeed leaves no entry behind exactly when it is not recorded. -/
theorem failed_join_unrecorded (a : Authenticator K C) (s : Stream) (after : Aftermath)
    (book : Book) (now : Int) (faults : Faults) (delivered : Bool) :
    (handleAuthStream a s after).succeeded = false →
      (SameEntries book (settle book now faults delivered (handleAuthStream a s after)) ↔
        Unrecorded a s book now faults delivered) ∧
      (¬ Unrecorded a s book now faults delivered →
        ∃ joinReq pubKey, Admitted a s joinReq ∧
          let settled := settle book now faults delivered (handleAuthStream a s after)
          lookupPublicKey a.crypto (some settled) none joinReq.nodeID joinReq.clusterPath
              = .ok pubKey ∧
            settled.exists none joinReq.nodeID joinReq.clusterPath = .ok true) := by
  intro _
  by_cases recorded : delivered = true ∧ ∃ joinReq, Admitted a s joinReq
  · obtain ⟨rfl, joinReq, admitted⟩ := recorded
    refine ⟨sameEntries_settle admitted after, fun left => ?_⟩
    have kept : ¬ faults.Lose (book.get joinReq.nodeID joinReq.clusterPath).isSome := by
      intro lost
      apply left
      intro _ other admitted'
      rw [← admitted.unique admitted']
      exact .inl lost
    obtain ⟨row, there, same⟩ := known_of_recorded now admitted after kept
    obtain ⟨-, -, -, -, pubKey, -, -, -, -, -, unmarshalled, -⟩ := admitted.answered
    refine ⟨joinReq, pubKey, admitted, ?_, ?_⟩
    · simp only [lookupPublicKey, there, same, unmarshalled]
    · simp [Book.exists, there]
  · have unrecorded : Unrecorded a s book now faults delivered := by
      intro handled joinReq admitted
      exact absurd ⟨handled, joinReq, admitted⟩ recorded
    refine ⟨iff_of_true ?_ unrecorded, fun left => absurd unrecorded left⟩
    rw [settle_unrecorded after recorded]
    exact fun _ _ => rfl

def pretender : Stream :=
  { joining "node-n" "node-n" [1] with response := .ok ⟨[9, 3, 2], [7]⟩ }

/-- A join that fails for want of a certificate provider leaves its node as a known member. -/
theorem failed_join_stays :
    let outcome := handleAuthStream plainVoucher (joining "node-n" "node-n" [1]) undisturbed
    let settled := settle ∅ 0 {} true outcome
    outcome.succeeded = false ∧ Book.get ∅ "node-n" "r/d/c" = none ∧
      lookupPublicKey plainCrypto (some settled) none "node-n" "r/d/c" = .ok [1] ∧
      settled.exists none "node-n" "r/d/c" = .ok true := by
  refine ⟨by decide +kernel, rfl, rfl, rfl⟩

/-- A join with a wrong signature leaves an empty phonebook empty. -/
theorem failed_join_unrecorded_pretender :
    SameEntries ∅ (settle ∅ 0 {} true (handleAuthStream plainVoucher pretender undisturbed)) := by
  refine (failed_join_unrecorded plainVoucher pretender undisturbed ∅ 0 {} true
    (by decide +kernel)).1.mpr ?_
  intro _ joinReq admitted
  have passes := step1_ok.mpr admitted
  cases passes

end Falak.Auth
