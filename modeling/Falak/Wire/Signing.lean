import Falak.Wire.Envelope

/-! The signed content of election and orbit messages, and how far it determines the message. -/

namespace Falak

def Election.canonicalContent (msg : Wire.Envelope) : Bytes := Wire.signedContent msg

def Orbit.canonicalContent (msg : Wire.Envelope) : Bytes := Wire.signedContent msg

namespace Wire

/-- Equal content means the same message, except for instants that are whole rounds apart. -/
theorem content_determines_message (a b : Envelope) (fits : a.Fits) (fits' : b.Fits) :
    ((Election.canonicalContent a = Election.canonicalContent b → a.Alike b) ↔
      ¬ a.RoundsApart b) ∧
    ((Orbit.canonicalContent a = Orbit.canonicalContent b → a.Alike b) ↔
      ¬ a.RoundsApart b) :=
  ⟨alike_iff_not_roundsApart fits fits', alike_iff_not_roundsApart fits fits'⟩

def stamped (ts : Timestamp) : Envelope := ⟨utf8 "claim", [], utf8 "node-a", some ts, []⟩

def issued : Timestamp := ⟨1700000000, 0, by decide, by decide⟩

def nextSecond : Timestamp := ⟨1700000001, 0, by decide, by decide⟩

def reissued : Timestamp := ⟨20146744073, 709551616, by decide, by decide⟩

/-- A message can be stamped with another instant under the same signature. -/
theorem stamps_share_content :
    (stamped issued).Fits ∧ (stamped reissued).Fits ∧
      Election.canonicalContent (stamped issued) = Election.canonicalContent (stamped reissued) ∧
      Orbit.canonicalContent (stamped issued) = Orbit.canonicalContent (stamped reissued) ∧
      ¬ (stamped issued).Alike (stamped reissued) := by
  refine ⟨⟨by decide +kernel, by decide +kernel, by decide +kernel⟩,
    ⟨by decide +kernel, by decide +kernel, by decide +kernel⟩, by decide +kernel,
    by decide +kernel, ?_⟩
  intro alike
  have same := alike.instant
  simp [stamped, issued, reissued, Timestamp.instant, second, millisecond, microsecond] at same

/-- Messages of one second apart have different contents. -/
theorem content_determines_message_stamped :
    Election.canonicalContent (stamped issued) ≠ Election.canonicalContent (stamped nextSecond) ∧
      Orbit.canonicalContent (stamped issued) ≠ Orbit.canonicalContent (stamped nextSecond) := by
  have close : ¬ (stamped issued).RoundsApart (stamped nextSecond) := by
    rintro ⟨-, -, -, s, there, t, there', -, k, rounds⟩
    simp only [stamped, Option.mem_some_iff] at there there'
    subst there there'
    simp only [issued, nextSecond, Timestamp.instant, second, millisecond, microsecond] at rounds
    omega
  have determined := content_determines_message (stamped issued) (stamped nextSecond)
    ⟨by decide +kernel, by decide +kernel, by decide +kernel⟩
    ⟨by decide +kernel, by decide +kernel, by decide +kernel⟩
  have differ : ¬ (stamped issued).Alike (stamped nextSecond) := by
    intro alike
    have same := alike.instant
    simp [stamped, issued, nextSecond, Timestamp.instant, second, millisecond, microsecond] at same
  exact ⟨fun same => differ (determined.1.mpr close same),
    fun same => differ (determined.2.mpr close same)⟩

end Wire

end Falak
