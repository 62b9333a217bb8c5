import Falak.Auth.Pubsub
import Falak.Lib.Reach

/-! The revocation lists of a node, one per cluster. -/

namespace Falak.Auth

open Phonebook (Book)

variable {K C : Type}

structure CertificateRevocation where
  certFingerprint : String
  nodeID : String
  clusterPath : String
  reason : String
  revokedBy : String
  revokedAt : Option Timestamp
  signature : Bytes
  deriving DecidableEq

structure RevocationEntry where
  certFingerprint : String
  nodeID : String
  clusterPath : String
  revokedAt : Int
  reason : String
  revokedBy : String
  deriving DecidableEq

def revocationContent (crypto : Crypto K) (r : CertificateRevocation) : Bytes :=
  let buf := writeString [] r.certFingerprint
  let buf := writeString buf r.nodeID
  let buf := writeString buf r.clusterPath
  let buf := writeString buf r.reason
  let buf := writeString buf r.revokedBy
  match r.revokedAt with
  | some ts => Wire.appendField buf (crypto.marshalTime ts.asTime)
  | none => buf

def CertificateRevocation.entry (r : CertificateRevocation) : RevocationEntry :=
  { certFingerprint := r.certFingerprint
    nodeID := r.nodeID
    clusterPath := r.clusterPath
    revokedAt := asTime r.revokedAt
    reason := r.reason
    revokedBy := r.revokedBy }

structure SyncedRevocation where
  certFingerprint : String
  nodeID : String
  clusterPath : String
  revokedAt : Option Timestamp
  reason : String
  revokedBy : String
  deriving DecidableEq

def SyncedRevocation.entry (r : SyncedRevocation) : RevocationEntry :=
  { certFingerprint := r.certFingerprint
    nodeID := r.nodeID
    clusterPath := r.clusterPath
    revokedAt := (r.revokedAt.map Timestamp.asTime).getD zeroTime
    reason := r.reason
    revokedBy := r.revokedBy }

structure SyncResponse where
  error : String := ""
  revocations : List SyncedRevocation
  deriving DecidableEq

structure RevokeCall where
  nodeID : String
  clusterPath : String
  reason : String
  certFingerprint : String
  now : Int
  stamp : Timestamp
  storeFault : Option String := none
  publishFault : Option String := none
  deriving DecidableEq

def RevokeCall.entry (selfID : String) (call : RevokeCall) : RevocationEntry :=
  { certFingerprint := call.certFingerprint
    nodeID := call.nodeID
    clusterPath := call.clusterPath
    revokedAt := call.now
    reason := call.reason
    revokedBy := selfID }

def RevokeCall.revocation (selfID : String) (call : RevokeCall) (signature : Bytes) :
    CertificateRevocation :=
  { certFingerprint := call.certFingerprint
    nodeID := call.nodeID
    clusterPath := call.clusterPath
    reason := call.reason
    revokedBy := selfID
    revokedAt := some call.stamp
    signature := signature }

def revokeCertificate (a : Authenticator K C) (list : List RevocationEntry) (call : RevokeCall) :
    List RevocationEntry × Except String CertificateRevocation :=
  match call.storeFault with
  | some err => (list, .error ("failed to add revocation: " ++ err))
  | none =>
    -- The entry stays even if the broadcast fails.
    (list.insert (call.entry a.selfID), do
      let content := revocationContent a.crypto (call.revocation a.selfID [])
      let sig ← (a.sign content).mapError ("failed to sign revocation: " ++ ·)
      match call.publishFault with
      | some err => .error ("failed to broadcast revocation: " ++ err)
      | none => return call.revocation a.selfID sig)

section Gossip

variable (a : Authenticator K C) (unmarshalRevocation : Bytes → Except String CertificateRevocation)
  (lookup : Lookup K) (clusterPath : String)

def verifyRevocation (payload : Bytes) : Except String CertificateRevocation := do
  let revocation ← (unmarshalRevocation payload).mapError fun _ =>
    "failed to unmarshal cert revocation"
  let revokerPubKey ← (lookup revocation.revokedBy clusterPath).mapError fun _ =>
    "unknown revoking node"
  ensure (a.crypto.accepts revokerPubKey (revocationContent a.crypto revocation)
    revocation.signature) "invalid signature on cert revocation"
  return revocation

def handleCertRevoked (list : List RevocationEntry) (storeFault : Option String) (payload : Bytes) :
    List RevocationEntry :=
  match verifyRevocation a unmarshalRevocation lookup clusterPath payload, storeFault with
  | .ok revocation, none => list.insert revocation.entry
  | _, _ => list

end Gossip

def mergeRevocations (list : List RevocationEntry) (fault : Option String)
    (entries : List RevocationEntry) : List RevocationEntry :=
  match fault with
  | some _ => list
  | none => entries ∪ list

def syncFromPeer (list : List RevocationEntry) (fault : Option String) (resp : SyncResponse) :
    List RevocationEntry :=
  if resp.error ≠ "" then list
  else if resp.revocations.length > 0 then
    mergeRevocations list fault (resp.revocations.map SyncedRevocation.entry)
  else list

abbrev RevocationLists := String → List RevocationEntry

namespace RevocationLists

inductive Action
  | revoke (call : RevokeCall)
  | certRevoked (clusterPath : String) (phonebook : Option Book) (queryFault : Option String)
      (storeFault : Option String) (payload : Bytes)
  | sync (clusterPath : String) (fault : Option String) (resp : SyncResponse)

def empty : RevocationLists := fun _ => []

section

variable (a : Authenticator K C) (unmarshalRevocation : Bytes → Except String CertificateRevocation)

def keysOf (phonebook : Option Book) (queryFault : Option String) : Lookup K :=
  lookupPublicKey a.crypto phonebook queryFault

def step (s : RevocationLists) : Action → Option RevocationLists
  | .revoke call =>
    some (Function.update s call.clusterPath (revokeCertificate a (s call.clusterPath) call).1)
  | .certRevoked clusterPath phonebook queryFault storeFault payload =>
    some (Function.update s clusterPath
      (handleCertRevoked a unmarshalRevocation (keysOf a phonebook queryFault) clusterPath
        (s clusterPath) storeFault payload))
  | .sync clusterPath fault resp =>
    some (Function.update s clusterPath (syncFromPeer (s clusterPath) fault resp))

structure Signed (phonebook : Option Book) (queryFault : Option String) (clusterPath : String)
    (payload : Bytes) (r : CertificateRevocation) : Prop where
  unmarshalled : unmarshalRevocation payload = .ok r
  verifies : ∃ key, lookupPublicKey a.crypto phonebook queryFault r.revokedBy clusterPath
      = .ok key ∧ a.crypto.accepts key (revocationContent a.crypto r) r.signature = true

inductive Backs (e : RevocationEntry) : Action → Prop
  | created {call : RevokeCall} (made : call.entry a.selfID = e) : Backs e (.revoke call)
  | signed {clusterPath : String} {phonebook : Option Book} {queryFault storeFault : Option String}
      {payload : Bytes} {r : CertificateRevocation}
      (signed : Signed a unmarshalRevocation phonebook queryFault clusterPath payload r)
      (made : r.entry = e) :
      Backs e (.certRevoked clusterPath phonebook queryFault storeFault payload)

def Careful (s : RevocationLists) : Action → Prop
  | .revoke _ => True
  | .certRevoked clusterPath phonebook queryFault _ payload => ∀ r,
    Signed a unmarshalRevocation phonebook queryFault clusterPath payload r →
      r.clusterPath = clusterPath
  | .sync clusterPath _ resp => ∀ r ∈ resp.revocations, r.entry ∈ s clusterPath

end

variable {a : Authenticator K C} {unmarshalRevocation : Bytes → Except String CertificateRevocation}
  {phonebook : Option Book} {queryFault : Option String} {clusterPath : String} {payload : Bytes}
  {list : List RevocationEntry} {e : RevocationEntry}

theorem verifyRevocation_ok {r : CertificateRevocation} :
    verifyRevocation a unmarshalRevocation (keysOf a phonebook queryFault) clusterPath payload
      = .ok r ↔ Signed a unmarshalRevocation phonebook queryFault clusterPath payload r := by
  simp only [verifyRevocation, keysOf, bind_ok_iff, ensure_ok_iff, mapError_ok_iff, pure_ok_iff]
  constructor
  · -- Each step that passed is one of the conditions.
    rintro ⟨r', unmarshalled, key, found, -, accepted, rfl⟩
    exact ⟨unmarshalled, key, found, accepted⟩
  · rintro ⟨unmarshalled, key, found, accepted⟩
    exact ⟨r, unmarshalled, key, found, (), accepted, rfl⟩

theorem mem_revokeCertificate {call : RevokeCall} (there : e ∈ (revokeCertificate a list call).1) :
    e ∈ list ∨ call.entry a.selfID = e := by
  unfold revokeCertificate at there
  split at there
  · exact .inl there
  · rcases List.mem_insert_iff.mp there with rfl | before
    · exact .inr rfl
    · exact .inl before

theorem mem_handleCertRevoked {storeFault : Option String}
    (there : e ∈ handleCertRevoked a unmarshalRevocation (keysOf a phonebook queryFault)
      clusterPath list storeFault payload) :
    e ∈ list ∨ ∃ r, Signed a unmarshalRevocation phonebook queryFault clusterPath payload r ∧
      r.entry = e := by
  unfold handleCertRevoked at there
  split at there
  · rename_i r verified
    rcases List.mem_insert_iff.mp there with rfl | before
    · exact .inr ⟨r, verifyRevocation_ok.mp verified, rfl⟩
    · exact .inl before
  · exact .inl there

theorem mem_syncFromPeer {fault : Option String} {resp : SyncResponse}
    (there : e ∈ syncFromPeer list fault resp) :
    e ∈ list ∨ ∃ r ∈ resp.revocations, r.entry = e := by
  unfold syncFromPeer mergeRevocations at there
  split at there
  · exact .inl there
  · split at there
    · split at there
      · exact .inl there
      · rcases List.mem_union_iff.mp there with merged | before
        · exact .inr (List.mem_map.mp merged)
        · exact .inl before
    · exact .inl there

theorem Careful.step {s s' : RevocationLists} {action : Action}
    (careful : Careful a unmarshalRevocation s action)
    (taken : RevocationLists.step a unmarshalRevocation s action = some s') {path : String}
    (there : e ∈ s' path) :
    e ∈ s path ∨ e.clusterPath = path ∧ Backs a unmarshalRevocation e action := by
  cases action with
  | revoke call =>
    cases taken
    simp only [Function.update_apply] at there
    split at there
    · rename_i same
      subst same
      rcases mem_revokeCertificate there with before | made
      · exact .inl before
      · exact .inr ⟨made ▸ rfl, .created made⟩
    · exact .inl there
  | certRevoked clusterPath phonebook queryFault storeFault payload =>
    cases taken
    simp only [Function.update_apply] at there
    split at there
    · rename_i same
      subst same
      rcases mem_handleCertRevoked there with before | ⟨r, signed, made⟩
      · exact .inl before
      · have cluster : e.clusterPath = path := made ▸ careful r signed
        exact .inr ⟨cluster, .signed signed made⟩
    · exact .inl there
  | sync clusterPath fault resp =>
    cases taken
    simp only [Function.update_apply] at there
    split at there
    · rename_i same
      subst same
      rcases mem_syncFromPeer there with before | ⟨r, received, made⟩
      · exact .inl before
      · -- What was received is in the list already.
        exact .inl (made ▸ careful r received)
    · exact .inl there

/-- In a run of careful steps, the lists hold only what was created locally or signed. -/
theorem entries_backed {actions : List Action} {s : RevocationLists}
    (trace : Trace (step a unmarshalRevocation) (Careful a unmarshalRevocation) empty actions s)
    (path : String) (e : RevocationEntry) (there : e ∈ s path) :
    e.clusterPath = path ∧ ∃ action ∈ actions, Backs a unmarshalRevocation e action := by
  induction trace with
  | start => cases there
  | @next s s' actions action before careful taken ih =>
    rcases careful.step taken there with old | ⟨cluster, backs⟩
    · obtain ⟨cluster, earlier, past, backs⟩ := ih old
      exact ⟨cluster, earlier, List.mem_append_left _ past, backs⟩
    · exact ⟨cluster, action, by simp, backs⟩

def revoker : RevokeCall :=
  { nodeID := "node-a", clusterPath := "r/d/c", reason := "key lost", certFingerprint := "f1"
    now := 0, stamp := .new 0 }

def heard : CertificateRevocation := ⟨"f2", "node-b", "r/d/c", "left", "node-a", some (.new 0), [1]⟩

def repeated : SyncedRevocation := ⟨"f2", "node-b", "r/d/c", some (.new 0), "left", "node-a"⟩

def madeUp : SyncedRevocation := ⟨"f3", "node-c", "r/d/other", none, "none", "node-a"⟩

def twoClusters : Book :=
  let row : Phonebook.Row := ⟨[1], [], "", "", none, 0, 0, 0, {}, .active⟩
  (AList.singleton ("node-a", "r/d/c") row).insert ("node-a", "r/d/other") row

def hearing (clusterPath : String) : Action :=
  .certRevoked clusterPath (some twoClusters) none none []

def astray : List Action := [.sync "r/d/c" none ⟨"", [madeUp]⟩, hearing "r/d/other"]

/-- Entries reach lists without a signature by synchronisation, and those of other clusters too. -/
theorem entries_unbacked :
    ∃ s, Trace (step plainVoucher fun _ => .ok heard) (fun _ _ => True) empty astray s ∧
      (madeUp.entry ∈ s "r/d/c" ∧ madeUp.clusterPath ≠ "r/d/c") ∧
      (∀ action ∈ astray, ¬ Backs plainVoucher (fun _ => .ok heard) madeUp.entry action) ∧
      (heard.entry ∈ s "r/d/other" ∧ heard.clusterPath ≠ "r/d/other") := by
  obtain ⟨s, trace, ends⟩ := Trace.exists_of_actions (step plainVoucher fun _ => .ok heard) empty
    astray (fun s => madeUp.entry ∈ s "r/d/c" ∧ heard.entry ∈ s "r/d/other") (by decide +kernel)
  refine ⟨s, trace, ⟨ends.1, by decide⟩, ?_, ends.2, by decide⟩
  intro action taken backs
  cases backs with
  | created => simp [astray, hearing] at taken
  | signed signed made =>
    cases Except.ok.inj signed.unmarshalled
    exact absurd made (by decide)

def orderly : List Action :=
  [.revoke revoker, hearing "r/d/c", .sync "r/d/c" none ⟨"", [repeated]⟩]

def accepts (s : RevocationLists) : Action → Bool
  | .revoke _ => true
  | .certRevoked clusterPath .. => decide (clusterPath = heard.clusterPath)
  | .sync clusterPath _ resp => decide (∀ r ∈ resp.revocations, r.entry ∈ s clusterPath)

theorem careful_of_accepts (s : RevocationLists) (action : Action)
    (accepted : accepts s action = true) :
    Careful plainVoucher (fun _ => .ok heard) s action := by
  cases action with
  | revoke call => trivial
  | certRevoked clusterPath phonebook queryFault storeFault payload =>
    intro r signed
    cases Except.ok.inj signed.unmarshalled
    exact (of_decide_eq_true accepted).symm
  | sync clusterPath fault resp =>
    show ∀ r ∈ resp.revocations, r.entry ∈ s clusterPath
    exact of_decide_eq_true accepted

/-- A local revocation, a signed one and its repetition are all backed. -/
theorem entries_backed_orderly :
    ∃ s, Trace (step plainVoucher fun _ => .ok heard)
        (Careful plainVoucher fun _ => .ok heard) empty orderly s ∧
      (s "r/d/c").length = 2 ∧ ∀ path e, e ∈ s path → e.clusterPath = path ∧
        ∃ action ∈ orderly, Backs plainVoucher (fun _ => .ok heard) e action := by
  obtain ⟨s, trace, ends⟩ := Trace.exists_of_accepted _ careful_of_accepts
    (step plainVoucher fun _ => .ok heard) empty orderly (fun s => (s "r/d/c").length = 2)
    (by decide +kernel)
  exact ⟨s, trace, ends, entries_backed trace⟩

end RevocationLists

end Falak.Auth
