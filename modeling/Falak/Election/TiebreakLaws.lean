import Falak.Election.Tiebreak

/-! What the tiebreak compares, read as an order on scores, times and node identifiers. -/

namespace Falak.Election

variable {rival : Claim} {ours : Decision} {node : String}

theorem isBetter_iff :
    isBetter rival ours node = true ↔
      ours.score < rival.gravityScore ∨
        rival.gravityScore = ours.score ∧
          (rival.timestampMicros < unixMicro ours.publishAt ∨
            rival.timestampMicros = unixMicro ours.publishAt ∧ rival.nodeID < node) := by
  unfold isBetter
  by_cases score : rival.gravityScore = ours.score
  · by_cases time : rival.timestampMicros = unixMicro ours.publishAt
    · simp [score, time]
    · simp [score, time]
  · simp [score]

theorem isBetter_of_lt (lower : rival.gravityScore < ours.score) :
    isBetter rival ours node = false := by
  rw [Bool.eq_false_iff, ne_eq, isBetter_iff]
  rintro (higher | ⟨tie, -⟩)
  · exact lt_asymm lower higher
  · exact absurd tie lower.ne

theorem isBetter_of_gt (higher : ours.score < rival.gravityScore) :
    isBetter rival ours node = true :=
  isBetter_iff.mpr (.inl higher)

theorem isBetter_eq_false_iff (other : rival.nodeID ≠ node) :
    isBetter rival ours node = false ↔
      rival.gravityScore < ours.score ∨
        rival.gravityScore = ours.score ∧
          (unixMicro ours.publishAt < rival.timestampMicros ∨
            unixMicro ours.publishAt = rival.timestampMicros ∧ node < rival.nodeID) := by
  rw [Bool.eq_false_iff, ne_eq, isBetter_iff]
  rcases lt_trichotomy rival.gravityScore ours.score with lower | tie | higher
  · simp [lower, lower.ne, lower.le]
  · rcases lt_trichotomy rival.timestampMicros (unixMicro ours.publishAt) with before | same | after
    · simp [tie, before, before.ne', before.le]
    · simp only [tie, same, lt_self_iff_false, false_or, true_and, not_lt]
      exact ⟨fun upTo => lt_of_le_of_ne upTo other.symm, le_of_lt⟩
    · simp [tie, after, after.ne', after.le]
  · simp [higher, higher.ne', higher.le]

end Falak.Election
