import Falak.Auth.SignedKinds
import Falak.Health.Pubsub

/-! What the signed bytes of a message say about its fields. -/

namespace Falak

theorem fields_append_inj {parts parts' : List Bytes} {rest rest' : Bytes}
    (short : ∀ a ∈ parts, Short a) (short' : ∀ b ∈ parts', Short b)
    (sizes : parts.length = parts'.length) (same : fields parts ++ rest = fields parts' ++ rest') :
    parts = parts' ∧ rest = rest' := by
  induction parts generalizing parts' with
  | nil =>
    cases List.length_eq_zero_iff.mp sizes.symm
    exact ⟨rfl, same⟩
  | cons a parts ih =>
    cases parts' with
    | nil => cases sizes
    | cons b parts' =>
      rw [List.forall_mem_cons] at short short'
      rw [fields_cons, fields_cons, List.append_assoc, List.append_assoc,
        field_append_inj short.1 short'.1] at same
      obtain ⟨rfl, rest⟩ := ih short.2 short'.2 (Nat.succ.inj sizes) same.2
      exact ⟨by rw [same.1], rest⟩

theorem counted_append_inj {parts parts' : List Bytes} {rest rest' : Bytes}
    (short : ∀ a ∈ parts, Short a) (short' : ∀ b ∈ parts', Short b) (few : parts.length < 2 ^ 32)
    (few' : parts'.length < 2 ^ 32) (same : counted parts ++ rest = counted parts' ++ rest') :
    parts = parts' ∧ rest = rest' := by
  simp only [counted, List.append_assoc] at same
  obtain ⟨numbers, same⟩ := List.append_inj same (by simp)
  have wrapped := bigEndian_inj.mp numbers
  exact fields_append_inj short short' (by omega) same

def Instant (t : Int) : Prop :=
  -2 ^ 63 ≤ t / second + unixToInternal ∧ t / second + unixToInternal < 2 ^ 63

theorem instant_unixTime {sec nsec : Int} (low : 0 ≤ nsec) (high : nsec < 1000000000) :
    Instant (unixTime sec nsec) := by
  have least := Int.le_bmod (x := sec + unixToInternal) (m := 2 ^ 64) (by decide)
  have most := Int.bmod_lt (x := sec + unixToInternal) (m := 2 ^ 64) (by decide)
  simp only [Instant, unixTime, int64, second, millisecond, microsecond]
  omega

theorem Timestamp.instant_asTime (ts : Timestamp) : Instant ts.asTime := by
  unfold Timestamp.asTime timeUnix
  split
  · have rest := Int.tmod_add_mul_tdiv ts.nanos 1000000000
    have above := Int.tmod_lt_of_pos ts.nanos (b := 1000000000) (by decide)
    have below := Int.lt_tmod_of_pos ts.nanos (b := 1000000000) (by decide)
    simp only
    split <;> exact instant_unixTime (by omega) (by omega)
  · exact instant_unixTime (by omega) (by omega)

namespace Auth

open Health (HealthEnvelope)

variable {K : Type} {crypto : Crypto K}

theorem instant_asTime (ts : Option Timestamp) : Instant (asTime ts) := by
  cases ts with
  | none => exact ⟨by decide, by decide⟩
  | some ts => exact ts.instant_asTime

structure Marshals (crypto : Crypto K) : Prop where
  injective : ∀ {t t' : Int}, Instant t → Instant t' →
    crypto.marshalTime t = crypto.marshalTime t' → t = t'
  present : ∀ {t : Int}, Instant t → crypto.marshalTime t ≠ []
  short : ∀ {t : Int}, Instant t → Short (crypto.marshalTime t)

namespace Signable

/-- Two messages of a kind agree in every field that is signed. -/
def Agree : Signable → Signable → Prop
  | .envelope m, .envelope m' =>
    m.type = m'.type ∧ m.payload = m'.payload ∧ m.senderID = m'.senderID ∧
      m.timestamp.map Timestamp.asTime = m'.timestamp.map Timestamp.asTime
  | .announcement nodeID clusterPath addresses publicKey,
      .announcement nodeID' clusterPath' addresses' publicKey' =>
    nodeID = nodeID' ∧ clusterPath = clusterPath' ∧ addresses = addresses' ∧
      publicKey = publicKey'
  | .confirmation clusterPath c, .confirmation clusterPath' c' =>
    c.newNodeID = c'.newNodeID ∧ clusterPath = clusterPath' ∧
      asTime c.timestamp = asTime c'.timestamp
  | .rejection clusterPath r, .rejection clusterPath' r' =>
    r.newNodeID = r'.newNodeID ∧ clusterPath = clusterPath' ∧ r.reason = r'.reason ∧
      asTime r.timestamp = asTime r'.timestamp
  | .revocation r, .revocation r' =>
    r.certFingerprint = r'.certFingerprint ∧ r.nodeID = r'.nodeID ∧
      r.clusterPath = r'.clusterPath ∧ r.reason = r'.reason ∧ r.revokedBy = r'.revokedBy ∧
      r.revokedAt.map Timestamp.asTime = r'.revokedAt.map Timestamp.asTime
  | _, _ => False

theorem stamp_inj (marshals : Marshals crypto) {ts ts' : Option Timestamp}
    (same : stamp crypto ts = stamp crypto ts') :
    ts.map Timestamp.asTime = ts'.map Timestamp.asTime := by
  cases ts with
  | none =>
    cases ts' with
    | none => rfl
    | some t' => exact absurd same.symm (marshals.present t'.instant_asTime)
  | some t =>
    cases ts' with
    | none => exact absurd same (marshals.present t.instant_asTime)
    | some t' =>
      exact congrArg some (marshals.injective t.instant_asTime t'.instant_asTime same)

theorem ending_inj (marshals : Marshals crypto) {r r' : CertificateRevocation}
    (same : ending crypto r = ending crypto r') :
    r.reason = r'.reason ∧ r.revokedBy = r'.revokedBy ∧
      r.revokedAt.map Timestamp.asTime = r'.revokedAt.map Timestamp.asTime := by
  simp only [ending, List.cons.injEq] at same
  refine ⟨utf8_inj same.1, utf8_inj same.2.1, ?_⟩
  replace same := same.2.2
  cases there : r.revokedAt <;> cases there' : r'.revokedAt <;>
    simp only [there, there', Option.map_none, Option.map_some, Option.toList_none,
      Option.toList_some, List.cons.injEq, and_true, reduceCtorEq] at same ⊢
  exact congrArg some
    (marshals.injective (Timestamp.instant_asTime _) (Timestamp.instant_asTime _) same)

theorem agree_of_content (marshals : Marshals crypto) {m m' : Signable} (fits : m.Fits)
    (fits' : m'.Fits) (kinds : m.kind = m'.kind) (same : m.content crypto = m'.content crypto) :
    Agree m m' := by
  have instant := fun ts => marshals.short (instant_asTime ts)
  have present := fun ts : Timestamp => marshals.short ts.instant_asTime
  have last := stamp_short present
  cases m <;> cases m' <;> simp only [kind, reduceCtorEq] at kinds
  case envelope m m' =>
    simp only [content, authMessageContent_eq] at same
    rw [fields_inj (by simp [fits.1, fits.2.1, fits.2.2, last])
      (by simp [fits'.1, fits'.2.1, fits'.2.2, last])] at same
    simp only [List.cons.injEq, and_true] at same
    exact ⟨utf8_inj same.1, same.2.1, utf8_inj same.2.2.1, stamp_inj marshals same.2.2.2⟩
  case announcement _ _ _ publicKey _ _ _ publicKey' =>
    obtain ⟨node, cluster, few, short, key⟩ := fits
    obtain ⟨node', cluster', few', short', key'⟩ := fits'
    simp only [content, announcementContent_eq] at same
    rw [field_append_inj node node', field_append_inj cluster cluster'] at same
    obtain ⟨list, rest⟩ := counted_append_inj (by simpa using short) (by simpa using short')
      (by simpa using few) (by simpa using few') same.2.2
    rw [← List.append_nil (field publicKey), ← List.append_nil (field publicKey'),
      field_append_inj key key'] at rest
    exact ⟨utf8_inj same.1, utf8_inj same.2.1,
      List.map_injective_iff.mpr (fun _ _ => utf8_inj) list, rest.1⟩
  case confirmation clusterPath c clusterPath' c' =>
    simp only [content, confirmationContent_eq] at same
    rw [fields_inj (by simp [fits.1, fits.2, instant])
      (by simp [fits'.1, fits'.2, instant])] at same
    simp only [List.cons.injEq, and_true] at same
    exact ⟨utf8_inj same.1, utf8_inj same.2.1,
      marshals.injective (instant_asTime _) (instant_asTime _) same.2.2⟩
  case rejection clusterPath r clusterPath' r' =>
    simp only [content, rejectionContent_eq] at same
    rw [fields_inj (by simp [fits.1, fits.2.1, fits.2.2, instant])
      (by simp [fits'.1, fits'.2.1, fits'.2.2, instant])] at same
    simp only [List.cons.injEq, and_true] at same
    exact ⟨utf8_inj same.1, utf8_inj same.2.1, utf8_inj same.2.2.1,
      marshals.injective (instant_asTime _) (instant_asTime _) same.2.2.2⟩
  case revocation r r' =>
    simp only [content, revocationContent_eq] at same
    rw [fields_inj (revocation_short fits present) (revocation_short fits' present)] at same
    simp only [List.cons.injEq] at same
    exact ⟨utf8_inj same.1, utf8_inj same.2.1, utf8_inj same.2.2.1, ending_inj marshals same.2.2.2⟩

/-- The signed bytes of a message of a kind, or of a health message, determine what is signed. -/
theorem content_determines (marshals : Marshals crypto) :
    (∀ m m' : Signable, m.Fits → m'.Fits → m.kind = m'.kind →
      m.content crypto = m'.content crypto → Agree m m') ∧
    ∀ e e' : HealthEnvelope, Short (utf8 e.type) ∧ Short e.payload ∧ Short (utf8 e.senderID) →
      Short (utf8 e'.type) ∧ Short e'.payload ∧ Short (utf8 e'.senderID) →
      e.content crypto = e'.content crypto →
        e.type = e'.type ∧ e.payload = e'.payload ∧ e.senderID = e'.senderID ∧
          e.timestamp.map Timestamp.asTime = e'.timestamp.map Timestamp.asTime := by
  refine ⟨fun m m' fits fits' => agree_of_content marshals fits fits',
    fun e e' fits fits' same => ?_⟩
  have agree : Agree (.envelope ⟨e.type, e.payload, e.senderID, e.timestamp, none⟩)
      (.envelope ⟨e'.type, e'.payload, e'.senderID, e'.timestamp, none⟩) :=
    agree_of_content marshals fits fits' rfl same
  exact agree

theorem marshals_utcCrypto : Marshals utcCrypto where
  injective {t t'} here here' same := by
    simp only [utcCrypto, utcBinary, List.cons_append, List.append_assoc, List.cons.injEq,
      true_and] at same
    obtain ⟨seconds, rest⟩ := List.append_inj same (by simp)
    have whole := bigEndian_inj.mp seconds
    have part := bigEndian_inj.mp (List.append_inj rest (by simp)).1
    simp only [Instant, second, millisecond, microsecond] at *
    omega
  present _ := List.cons_ne_nil _ _
  short {t} _ := by
    rw [utcCrypto, Short, utcBinary_length]
    decide

/-- Two timestamps that denote the same instant are not told apart. -/
theorem content_determines_utc :
    Agree (.envelope ⟨"announce", [7], "node-a", some ⟨1, 0, by decide, by decide⟩, none⟩)
      (.envelope ⟨"announce", [7], "node-a", some ⟨0, 1000000000, by decide, by decide⟩, none⟩) :=
  (content_determines marshals_utcCrypto).1 _ _ ⟨by decide, by decide, by decide⟩
    ⟨by decide, by decide, by decide⟩ rfl (by decide)

end Signable

end Auth

end Falak
