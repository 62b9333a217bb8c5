import Falak.Snapshot.Separation

/-! Received files stay inside the directory of their snapshot, whatever names they come with. -/

namespace Falak.Snapshot

/-- A cleaned name leads up or begins at the root. -/
def Escapes (cleanName : Bytes) : Prop :=
  cleanName = [dot, dot] ∨ [dot, dot, slash] <+: cleanName ∨ isAbs cleanName = true

instance (cleanName : Bytes) : Decidable (Escapes cleanName) :=
  inferInstanceAs (Decidable (_ ∨ _ ∨ _))

def filePath (destPath name : Bytes) : Option Bytes :=
  let cleanName := cleanText name
  if Escapes cleanName then none else some (joinText destPath cleanName)

theorem not_escapes_text (p : Path) : ¬ Escapes p.text := by
  have ups : (clean p.text).ups = 0 := by rw [clean_text]
  rintro (up | ⟨rest, up⟩ | root)
  · rw [up] at ups
    revert ups
    decide
  · rw [clean, ← up, show [dot, dot, slash] ++ rest = [dot, dot] ++ slash :: rest from rfl,
      List.splitOn_append_cons_self, List.foldl_append] at ups
    have kept := Cleaned.ups_le_foldl_push (([dot, dot].splitOn slash).foldl Cleaned.push
      ⟨false, 0, []⟩) (rest.splitOn slash)
    exact absurd (kept.trans (Nat.le_of_eq ups)) (by decide)
  · exact p.head_text_ne (of_decide_eq_true root)

theorem escapes_text_iff (c : Cleaned) : Escapes c.text ↔ c.absolute = true ∨ c.ups ≠ 0 := by
  unfold Cleaned.text
  split_ifs with absolute level
  · refine iff_of_true (.inr (.inr ?_)) (.inl absolute)
    unfold Path.full
    split_ifs with root
    · rfl
    · obtain ⟨name, rest, names⟩ := List.exists_cons_of_ne_nil root
      rw [names]
      rfl
  · simp [not_escapes_text, absolute, level]
  · refine iff_of_true ?_ (.inr level)
    obtain ⟨n, ups⟩ := Nat.exists_eq_succ_of_ne_zero level
    rw [ups, List.replicate_succ, List.cons_append]
    cases List.replicate n [dot, dot] ++ c.names.map Name.bytes with
    | nil => exact .inl (by simp [List.intercalate])
    | cons part rest => exact .inr (.inl (by simp [List.intercalate]))

theorem filePath_eq (destPath : Path) (name : Bytes) :
    filePath destPath.full name = (accept name).map fun names => (destPath ++ names).full := by
  unfold filePath accept cleanText
  dsimp only
  simp only [escapes_text_iff]
  split_ifs with escapes
  · rfl
  · rw [not_or, not_not, Bool.not_eq_true] at escapes
    have text : (clean name).text = (clean name).names.text := by
      rw [Cleaned.text, escapes.1, escapes.2]
      rfl
    rw [text, Path.joinText_full, Option.map_some]

/--
However many files arrive, each is created at or below the directory of the snapshot, and so are
the directories that are made for it, except for those above the directory.
-/
theorem received_inside (destPath : Path) :
    (∀ name path, filePath destPath.full name = some path →
      ∃ names, accept name = some names ∧ path = Path.full (destPath ++ names) ∧
        dirText path = Path.full (destPath ++ names).dropLast) ∧
    (∀ name, filePath destPath.full name = none → accept name = none) ∧
    ∀ wire faults n i s q,
      (∀ content,
        (receiveFiles wire faults destPath n i s).1.entry q = some (.file content) →
          s.disk.entry q = some (.file content) ∨ destPath <+: q) ∧
      ((receiveFiles wire faults destPath n i s).1.entry q = some .dir →
        s.disk.entry q = some .dir ∨ q <+: destPath ∨ destPath <+: q) := by
  refine ⟨fun name path accepted => ?_, fun name rejected => ?_, fun wire faults n i s q => ?_⟩
  · rw [filePath_eq, Option.map_eq_some_iff] at accepted
    obtain ⟨names, accepted, rfl⟩ := accepted
    exact ⟨names, accepted, rfl, Path.dirText_full _⟩
  · rwa [filePath_eq, Option.map_eq_none_iff] at rejected
  · have stays : Stays destPath s.disk (receiveFiles wire faults destPath n i s) :=
      stays_receiveFiles n i s
    obtain ⟨⟨apart, files⟩, -⟩ := stays
    constructor
    · intro content file
      by_cases below : destPath <+: q
      · exact .inr below
      · exact .inl ((files q below content).mp file)
    · intro made
      by_cases below : destPath <+: q
      · exact .inr (.inr below)
      · by_cases above : q <+: destPath
        · exact .inr (.inl above)
        · exact .inl (apart q below above ▸ made)

end Falak.Snapshot
