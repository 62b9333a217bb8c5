import Falak.Auth.Revocation
import Falak.Lib.Counted

/-!
The five kinds of bytes that a node signs for the auth topics, and when two kinds have equal bytes.
-/

namespace Falak.Auth

variable {K : Type}

inductive Signable
  | envelope (msg : AuthMessage)
  | announcement (nodeID clusterPath : String) (addresses : List String) (publicKey : Bytes)
  | confirmation (clusterPath : String) (c : MemberAuthConfirmed)
  | rejection (clusterPath : String) (r : MemberAuthRejected)
  | revocation (r : CertificateRevocation)

inductive Kind
  | envelope
  | announcement
  | confirmation
  | rejection
  | revocation
  deriving DecidableEq

def Kind.rank : Kind → Nat
  | .announcement => 0
  | .envelope => 1
  | .rejection => 2
  | .revocation => 3
  | .confirmation => 4

namespace Signable

def kind : Signable → Kind
  | .envelope _ => .envelope
  | .announcement .. => .announcement
  | .confirmation .. => .confirmation
  | .rejection .. => .rejection
  | .revocation _ => .revocation

section

variable (crypto : Crypto K)

def content : Signable → Bytes
  | .envelope msg => authMessageContent crypto msg
  | .announcement nodeID clusterPath addresses publicKey =>
    announcementContent nodeID clusterPath addresses publicKey
  | .confirmation clusterPath c => confirmationContent crypto clusterPath c
  | .rejection clusterPath r => rejectionContent crypto clusterPath r
  | .revocation r => revocationContent crypto r

def stamp : Option Timestamp → Bytes
  | some ts => crypto.marshalTime ts.asTime
  | none => []

def ending (r : CertificateRevocation) : List Bytes :=
  utf8 r.reason :: utf8 r.revokedBy ::
    (r.revokedAt.map fun ts => crypto.marshalTime ts.asTime).toList

def Fits : Signable → Prop
  | .envelope msg => Short (utf8 msg.type) ∧ Short msg.payload ∧ Short (utf8 msg.senderID)
  | .announcement nodeID clusterPath addresses publicKey =>
    Short (utf8 nodeID) ∧ Short (utf8 clusterPath) ∧ addresses.length < 2 ^ 32 ∧
      (∀ address ∈ addresses, Short (utf8 address)) ∧ Short publicKey
  | .confirmation clusterPath c => Short (utf8 c.newNodeID) ∧ Short (utf8 clusterPath)
  | .rejection clusterPath r =>
    Short (utf8 r.newNodeID) ∧ Short (utf8 clusterPath) ∧ Short (utf8 r.reason)
  | .revocation r =>
    Short (utf8 r.certFingerprint) ∧ Short (utf8 r.nodeID) ∧ Short (utf8 r.clusterPath) ∧
      Short (utf8 r.reason) ∧ Short (utf8 r.revokedBy)

def Confusable : Signable → Signable → Prop
  | .envelope msg, .rejection clusterPath r =>
    msg.type = r.newNodeID ∧ msg.payload = utf8 clusterPath ∧ msg.senderID = r.reason ∧
      stamp crypto msg.timestamp = crypto.marshalTime (asTime r.timestamp)
  | .announcement nodeID clusterPath addresses publicKey, .envelope msg =>
    nodeID = msg.type ∧ utf8 clusterPath = msg.payload ∧ addresses = [] ∧ msg.senderID = "" ∧
      publicKey = stamp crypto msg.timestamp
  | .announcement nodeID clusterPath addresses publicKey, .rejection path r =>
    nodeID = r.newNodeID ∧ clusterPath = path ∧ addresses = [] ∧ r.reason = "" ∧
      publicKey = crypto.marshalTime (asTime r.timestamp)
  | .announcement nodeID clusterPath addresses publicKey, .revocation r =>
    nodeID = r.certFingerprint ∧ clusterPath = r.nodeID ∧
      addresses.length = (utf8 r.clusterPath).length ∧
      fields (addresses.map utf8 ++ [publicKey])
        = utf8 r.clusterPath ++ fields (ending crypto r)
  | _, _ => False

end

theorem appendField_eq (buf data : Bytes) : Wire.appendField buf data = buf ++ field data := by
  simp [Wire.appendField, field]

theorem writeStrings_eq (buf : Bytes) (ss : List String) :
    writeStrings buf ss = buf ++ counted (ss.map utf8) := by
  have general : ∀ (ss : List String) (buf : Bytes),
      ss.foldl writeString buf = buf ++ fields (ss.map utf8) := by
    intro ss
    induction ss with
    | nil => intro buf; simp [fields]
    | cons s rest ih =>
      intro buf
      rw [List.foldl_cons, ih, writeString, appendField_eq, List.map_cons, fields_cons,
        List.append_assoc]
  rw [writeStrings, general, counted, List.length_map, List.append_assoc]

variable {crypto : Crypto K}

theorem announcementContent_eq (nodeID clusterPath : String) (addresses : List String)
    (publicKey : Bytes) :
    announcementContent nodeID clusterPath addresses publicKey
      = field (utf8 nodeID) ++ (field (utf8 clusterPath)
        ++ (counted (addresses.map utf8) ++ field publicKey)) := by
  simp [announcementContent, writeString, appendField_eq, writeStrings_eq]

theorem authMessageContent_eq (msg : AuthMessage) :
    authMessageContent crypto msg
      = fields [utf8 msg.type, msg.payload, utf8 msg.senderID, stamp crypto msg.timestamp] := by
  cases there : msg.timestamp <;>
    simp [authMessageContent, there, writeString, appendField_eq, stamp, fields]

theorem confirmationContent_eq (clusterPath : String) (c : MemberAuthConfirmed) :
    confirmationContent crypto clusterPath c
      = fields [utf8 c.newNodeID, utf8 clusterPath, crypto.marshalTime (asTime c.timestamp)] := by
  simp [confirmationContent, writeString, appendField_eq, fields]

theorem rejectionContent_eq (clusterPath : String) (r : MemberAuthRejected) :
    rejectionContent crypto clusterPath r
      = fields [utf8 r.newNodeID, utf8 clusterPath, utf8 r.reason,
        crypto.marshalTime (asTime r.timestamp)] := by
  simp [rejectionContent, writeString, appendField_eq, fields]

theorem revocationContent_eq (r : CertificateRevocation) :
    revocationContent crypto r
      = fields (utf8 r.certFingerprint :: utf8 r.nodeID :: utf8 r.clusterPath
        :: ending crypto r) := by
  cases there : r.revokedAt <;>
    simp [revocationContent, there, writeString, appendField_eq, ending, fields]

section

variable {nodeID clusterPath : String} {addresses : List String} {publicKey x y z : Bytes}
  (fits : (Signable.announcement nodeID clusterPath addresses publicKey).Fits) (short : Short x)
  (short' : Short y)

include fits short short'

theorem announcement_eq_fields_iff {rest : List Bytes} (short'' : Short z) :
    announcementContent nodeID clusterPath addresses publicKey = fields (x :: y :: z :: rest) ↔
      utf8 nodeID = x ∧ utf8 clusterPath = y ∧ addresses.length = z.length ∧
        fields (addresses.map utf8 ++ [publicKey]) = z ++ fields rest := by
  obtain ⟨node, cluster, few, -, -⟩ := fits
  rw [announcementContent_eq, fields_cons, fields_cons, fields_cons, field_append_inj node short,
    field_append_inj cluster short', counted_append_eq_iff (by simpa using few) short'',
    List.length_map]

theorem announcement_eq_four_iff {text : String} {t : Bytes} (short'' : Short (utf8 text))
    (few : t.length ≤ 15) :
    announcementContent nodeID clusterPath addresses publicKey = fields [x, y, utf8 text, t] ↔
      utf8 nodeID = x ∧ utf8 clusterPath = y ∧ addresses = [] ∧ text = "" ∧ publicKey = t := by
  rw [announcement_eq_fields_iff fits short short' short'']
  have last : fields [t] = field t := by simp [fields]
  constructor
  · rintro ⟨rfl, rfl, equal, same⟩
    -- With addresses, the lengths would not fit.
    have none : addresses.map utf8 = [] := by
      apply eq_nil_of_fields_eq ((List.length_map utf8).trans equal) few
      rw [same, last]
    obtain rfl : addresses = [] := List.map_eq_nil_iff.mp none
    have empty : utf8 text = utf8 "" := List.length_eq_zero_iff.mp equal.symm
    obtain rfl := utf8_inj empty
    have key : Short publicKey := fits.2.2.2.2
    have stamp : Short t := by unfold Short; omega
    have single : fields [publicKey] = fields [t] := same
    rw [fields_inj (by simpa using key) (by simpa using stamp)] at single
    exact ⟨rfl, rfl, rfl, rfl, List.singleton_inj.mp single⟩
  · rintro ⟨rfl, rfl, rfl, rfl, rfl⟩
    exact ⟨rfl, rfl, rfl, rfl⟩

theorem announcement_ne_three {t : Bytes} (short'' : Short t) :
    announcementContent nodeID clusterPath addresses publicKey ≠ fields [x, y, t] := by
  rw [Ne, announcement_eq_fields_iff fits short short' short'']
  rintro ⟨-, -, equal, same⟩
  have whole : fields (addresses.map utf8 ++ [publicKey]) = t := by
    rw [same]
    exact List.append_nil t
  exact fields_ne_of_length ((List.length_map utf8).trans equal) whole

end

theorem revocation_short {r : CertificateRevocation} (fits : (Signable.revocation r).Fits)
    (instant : ∀ ts : Timestamp, Short (crypto.marshalTime ts.asTime)) :
    ∀ a ∈ utf8 r.certFingerprint :: utf8 r.nodeID :: utf8 r.clusterPath :: ending crypto r,
      Short a := by
  obtain ⟨fingerprint, node, cluster, reason, revokedBy⟩ := fits
  cases there : r.revokedAt <;>
    simp [ending, there, fingerprint, node, cluster, reason, revokedBy, instant]

theorem stamp_short (instant : ∀ ts : Timestamp, Short (crypto.marshalTime ts.asTime))
    (ts : Option Timestamp) : Short (stamp crypto ts) := by
  cases ts with
  | none => exact Nat.two_pow_pos 32
  | some ts => exact instant ts

section Pairs

variable (marshals : ∀ t, (crypto.marshalTime t).length = 15)

include marshals

theorem marshalTime_short (t : Int) : Short (crypto.marshalTime t) := by
  rw [Short, marshals]
  decide

theorem stamp_length (ts : Option Timestamp) : (stamp crypto ts).length ≤ 15 := by
  cases ts with
  | none => simp [stamp]
  | some ts => simp [stamp, marshals]

theorem content_eq_iff_of_rank {m m' : Signable} (fits : m.Fits) (fits' : m'.Fits)
    (before : m.kind.rank < m'.kind.rank) :
    m.content crypto = m'.content crypto ↔ Confusable crypto m m' := by
  have instant := marshalTime_short marshals
  have last : ∀ ts, Short (stamp crypto ts) := stamp_short fun ts => instant ts.asTime
  cases m with
  | announcement nodeID clusterPath addresses publicKey =>
    cases m' with
    | announcement => simp [kind] at before
    | envelope msg =>
      -- Four fields: there are no addresses.
      simp only [content, authMessageContent_eq]
      rw [announcement_eq_four_iff fits fits'.1 fits'.2.1 fits'.2.2 (stamp_length marshals _)]
      exact ⟨fun ⟨same, rest⟩ => ⟨utf8_inj same, rest⟩, fun ⟨same, rest⟩ => ⟨same ▸ rfl, rest⟩⟩
    | rejection path r =>
      simp only [content, rejectionContent_eq]
      rw [announcement_eq_four_iff fits fits'.1 fits'.2.1 fits'.2.2 (by rw [marshals])]
      exact ⟨fun ⟨same, same', rest⟩ => ⟨utf8_inj same, utf8_inj same', rest⟩,
        fun ⟨same, same', rest⟩ => ⟨same ▸ rfl, same' ▸ rfl, rest⟩⟩
    | revocation r =>
      simp only [content, revocationContent_eq]
      rw [announcement_eq_fields_iff fits fits'.1 fits'.2.1 fits'.2.2.1]
      exact ⟨fun ⟨same, same', rest⟩ => ⟨utf8_inj same, utf8_inj same', rest⟩,
        fun ⟨same, same', rest⟩ => ⟨same ▸ rfl, same' ▸ rfl, rest⟩⟩
    | confirmation path c =>
      simp only [content, confirmationContent_eq, Confusable, iff_false]
      exact announcement_ne_three fits fits'.1 fits'.2 (instant _)
  | envelope msg =>
    have short : ∀ a ∈ [utf8 msg.type, msg.payload, utf8 msg.senderID,
        stamp crypto msg.timestamp], Short a := by
      simp [fits.1, fits.2.1, fits.2.2, last]
    cases m' with
    | announcement | envelope => simp [kind, Kind.rank] at before
    | rejection path r =>
      -- Both have four fields.
      simp only [content, authMessageContent_eq, rejectionContent_eq]
      rw [fields_inj short (by simp [fits'.1, fits'.2.1, fits'.2.2, instant])]
      simp only [List.cons.injEq, and_true, Confusable]
      exact ⟨fun ⟨same, payload, same', rest⟩ => ⟨utf8_inj same, payload, utf8_inj same', rest⟩,
        fun ⟨same, payload, same', rest⟩ => ⟨same ▸ rfl, payload, same' ▸ rfl, rest⟩⟩
    | revocation r =>
      simp only [content, authMessageContent_eq, revocationContent_eq]
      rw [fields_inj short (revocation_short fits' fun ts => instant ts.asTime)]
      cases there : r.revokedAt <;> simp [ending, there, Confusable]
    | confirmation path c =>
      simp only [content, authMessageContent_eq, confirmationContent_eq]
      rw [fields_inj short (by simp [fits'.1, fits'.2, instant])]
      simp [Confusable]
  | rejection path r =>
    have short : ∀ a ∈ [utf8 r.newNodeID, utf8 path, utf8 r.reason,
        crypto.marshalTime (asTime r.timestamp)], Short a := by
      simp [fits.1, fits.2.1, fits.2.2, instant]
    cases m' with
    | announcement | envelope | rejection => simp [kind, Kind.rank] at before
    | revocation r' =>
      simp only [content, rejectionContent_eq, revocationContent_eq]
      rw [fields_inj short (revocation_short fits' fun ts => instant ts.asTime)]
      cases there : r'.revokedAt <;> simp [ending, there, Confusable]
    | confirmation path' c =>
      simp only [content, rejectionContent_eq, confirmationContent_eq]
      rw [fields_inj short (by simp [fits'.1, fits'.2, instant])]
      simp [Confusable]
  | revocation r =>
    cases m' with
    | announcement | envelope | rejection | revocation => simp [kind, Kind.rank] at before
    | confirmation path c =>
      simp only [content, revocationContent_eq, confirmationContent_eq]
      rw [fields_inj (revocation_short fits fun ts => instant ts.asTime)
        (by simp [fits'.1, fits'.2, instant])]
      simp [ending, Confusable]
  | confirmation path c => cases m' <;> simp [kind, Kind.rank] at before

end Pairs

theorem not_confusable_of_rank {m m' : Signable} (before : m.kind.rank < m'.kind.rank) :
    ¬ Confusable crypto m' m := by
  cases m <;> cases m' <;> simp [kind, Kind.rank, Confusable] at before ⊢

/-- Signed bytes of different kinds are different, exactly when the messages are not confusable. -/
theorem content_ne_iff (marshals : ∀ t, (crypto.marshalTime t).length = 15) {m m' : Signable}
    (fits : m.Fits) (fits' : m'.Fits) (differ : m.kind ≠ m'.kind) :
    m.content crypto ≠ m'.content crypto ↔
      ¬ Confusable crypto m m' ∧ ¬ Confusable crypto m' m := by
  have ranks : m.kind.rank ≠ m'.kind.rank := by
    cases kind₁ : m.kind <;> cases kind₂ : m'.kind <;> simp_all [Kind.rank]
  rcases Nat.lt_or_gt_of_ne ranks with before | after
  · rw [Ne, content_eq_iff_of_rank marshals fits fits' before]
    exact ⟨fun apart => ⟨apart, not_confusable_of_rank before⟩, And.left⟩
  · rw [Ne, eq_comm, content_eq_iff_of_rank marshals fits' fits after]
    exact ⟨fun apart => ⟨not_confusable_of_rank after, apart⟩, And.right⟩

def utcBinary (t : Int) : Bytes :=
  1 :: bigEndian 8 ((t / second + unixToInternal) % 2 ^ 64).toNat
    ++ bigEndian 4 (t % second).toNat ++ [255, 255]

theorem utcBinary_length (t : Int) : (utcBinary t).length = 15 := by
  simp [utcBinary]

def utcCrypto : Crypto Bytes := { plainCrypto with marshalTime := utcBinary }

def refusing (reason : String) : Signable :=
  .rejection "r/d/c" ⟨"node-n", "node-b", "r/d/c", reason, [], none⟩

/-- An announcement whose key is an instant, and an envelope, have the bytes of a rejection. -/
theorem content_shared :
    (∃ m : Signable, m.kind = .announcement ∧ m.Fits ∧ (refusing "").Fits ∧
      m.content utcCrypto = (refusing "").content utcCrypto) ∧
    ∃ m : Signable, m.kind = .envelope ∧ m.Fits ∧ (refusing "revoked").Fits ∧
      m.content utcCrypto = (refusing "revoked").content utcCrypto := by
  constructor
  · refine ⟨.announcement "node-n" "r/d/c" [] (utcBinary 0), rfl, ?_, ?_, by decide⟩
    · exact ⟨by decide, by decide, by decide, by simp, by decide⟩
    · exact ⟨by decide, by decide, by decide⟩
  · refine ⟨.envelope ⟨"node-n", utf8 "r/d/c", "revoked", some (.new 0), none⟩, rfl, ?_, ?_,
      by decide⟩
    · exact ⟨by decide, by decide, by decide⟩
    · exact ⟨by decide, by decide, by decide⟩

/-- An announcement with an address is apart from a rejection. -/
theorem content_ne_announced :
    (announcement "node-n" "r/d/c" ["/ip4/10.0.0.1"] [7]).content utcCrypto
      ≠ (refusing "revoked").content utcCrypto := by
  refine (content_ne_iff utcBinary_length ?_ ?_ (by decide)).mpr ⟨?_, id⟩
  · exact ⟨by decide, by decide, by decide, by decide, by decide⟩
  · exact ⟨by decide, by decide, by decide⟩
  · rintro ⟨-, -, none, -⟩
    exact List.cons_ne_nil _ _ none

end Signable

end Falak.Auth
