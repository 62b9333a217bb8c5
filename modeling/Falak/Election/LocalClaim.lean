import Falak.Election.Agreement

/-! Who holds the local claim flag of a capsule, and when it keeps a node to one replica. -/

namespace Falak.Election

namespace Round

structure Standing (p : RoundParams) (h : History) : Prop where
  published : h.sent ≠ []
  unbeaten : ∀ d ∈ h.decision, Unbeaten p d h
  notCut : h.cut = false

theorem Sound.holds_of_standing {p : RoundParams} {pc : Pc} {h : History} (sound : Sound p pc h)
    (standing : Standing p h) : h.holds = true := by
  have published := standing.published
  have grounds : ∀ v, Grounds p h v → h.holds = true := by
    intro v grounds
    unfold Grounds at grounds
    split at grounds
    · obtain ⟨d, t, -, -, -, -, holds⟩ := grounds
      exact holds
    · obtain ⟨d, rival, decided, heard, -, -, unsent | ⟨-, better⟩⟩ := grounds
      · exact absurd unsent published
      · simp [standing.unbeaten d decided rival heard] at better
    · obtain ⟨d, reason, -, -, unsent | ⟨cut, -⟩⟩ := grounds
      · exact absurd unsent published
      · simp [standing.notCut] at cut
  cases pc with
  | decide => exact absurd sound.2.2.1 published
  | deadline | guard | wait | prePublish | tryClaim => exact absurd sound.1.sent published
  | stamp | publish | tiebreak | tiebreakSelect => exact sound.1.holds
  | publishFailed => exact sound.choose_spec.1.holds
  | beaten => exact sound.choose_spec.2.2.1
  | verdict | verdictSelect => exact absurd sound.1.choose_spec.sent published
  | report v => exact grounds v sound.2
  | unlisten | returned => exact grounds _ sound.choose_spec.2.1
  | panicked => exact sound.2.resolve_left published

theorem Sound.holds_of_won {p : RoundParams} {pc : Pc} {h : History} (sound : Sound p pc h)
    {v : Report} (reported : v ∈ h.reports) (won : v.outcome = .won) : h.holds = true := by
  have grounds := sound.grounds reported
  simp only [Grounds, won] at grounds
  obtain ⟨d, t, -, -, -, -, holds⟩ := grounds
  exact holds

end Round

namespace Cluster

variable {ι : Type} [DecidableEq ι] {p : ι → RoundParams} {w w' : Cluster ι}

omit [DecidableEq ι] in
theorem Shares.symm {i j : ι} (shared : Shares p i j) : Shares p j i :=
  ⟨shared.1.symm, shared.2.symm⟩

omit [DecidableEq ι] in
theorem Shares.trans {i j k : ι} (first : Shares p i j) (second : Shares p j k) : Shares p i k :=
  ⟨first.1.trans second.1, first.2.trans second.2⟩

def Holds (w : Cluster ι) (i : ι) : Prop := (w.rounds i).past.holds = true

structure Guarded (p : ι → RoundParams) (w : Cluster ι) : Prop where
  flag : ∀ i, w.slot p i = true ↔ ∃ j, Shares p i j ∧ Holds w j
  one : ∀ i j, Shares p i j → Holds w i → Holds w j → i = j

def OwnRelease (p : ι → RoundParams) (w : Cluster ι) : Action ι → Prop
  | .run i _ => ∀ v ∈ (w.rounds i).pc.verdict?, v.outcome = .failed →
      Holds w i ∨ ∀ j, Shares p i j → ¬ Holds w j
  | _ => True

omit [DecidableEq ι] in
theorem Sound.holds {i : ι} (sound : Sound p w)
    (here : (∃ rival, (w.rounds i).pc = .beaten rival) ∨
      ∃ err, (w.rounds i).pc = .publishFailed err) : Holds w i := by
  have sound := sound i
  rcases here with ⟨rival, here⟩ | ⟨err, here⟩
  · simp only [Round.Sound, here] at sound
    obtain ⟨d, -, -, holds, -⟩ := sound
    exact holds
  · simp only [Round.Sound, here] at sound
    obtain ⟨d, holding, -⟩ := sound
    exact holding.holds

theorem holds_commit {i j : ι} {e : Effect} :
    Holds (w.commit p i e) j ↔
      j = i ∧ e.round.past.holds = true ∨ j ≠ i ∧ Holds w j := by
  by_cases self : j = i
  · subst self
    simp [Holds]
  · simp [Holds, self]

section

variable {k : ι} {e : Effect}

theorem Guarded.kept (guarded : Guarded p w) (slot : e.slot = w.slot p k)
    (holds : e.round.past.holds = (w.rounds k).past.holds) : Guarded p (w.commit p k e) := by
  have same : ∀ j, Holds (w.commit p k e) j ↔ Holds w j := by
    intro j
    rw [holds_commit, holds]
    by_cases self : j = k
    · simp [self, Holds]
    · simp [self]
  refine ⟨fun i => ?_, fun i j shared => ?_⟩
  · simp only [same]
    rcases commit_slot (p := p) e with ⟨left, shared⟩ | ⟨kept, -⟩
    · rw [left, slot, ← shared.slot]
      exact guarded.flag i
    · rw [kept]
      exact guarded.flag i
  · simp only [same]
    exact guarded.one i j shared

theorem Guarded.reserved (guarded : Guarded p w) (free : w.slot p k = false) (slot : e.slot = true)
    (holds : e.round.past.holds = true) : Guarded p (w.commit p k e) := by
  have nobody : ∀ j, Shares p k j → ¬ Holds w j := by
    intro j shared held
    have taken := (guarded.flag k).mpr ⟨j, shared, held⟩
    rw [free] at taken
    cases taken
  refine ⟨fun i => ?_, fun i j shared first second => ?_⟩
  · rcases commit_slot (p := p) e with ⟨left, shared⟩ | ⟨kept, apart⟩
    · rw [left, slot]
      exact ⟨fun _ => ⟨k, shared, holds_commit.mpr (.inl ⟨rfl, holds⟩)⟩, fun _ => rfl⟩
    · rw [kept, guarded.flag i]
      refine exists_congr fun j => and_congr_right fun shared => ?_
      have other : j ≠ k := fun same => apart (same ▸ shared)
      simp [holds_commit, other]
  · rcases holds_commit.mp first with ⟨rfl, -⟩ | ⟨-, held⟩ <;>
      rcases holds_commit.mp second with ⟨rfl, -⟩ | ⟨-, held'⟩
    · rfl
    · exact absurd held' (nobody j shared)
    · exact absurd held (nobody i shared.symm)
    · exact guarded.one i j shared held held'

theorem Guarded.released (guarded : Guarded p w) (slot : e.slot = false)
    (holds : e.round.past.holds = false) (own : Holds w k ∨ ∀ j, Shares p k j → ¬ Holds w j) :
    Guarded p (w.commit p k e) := by
  have nobody : ∀ j, Shares p k j → j ≠ k → ¬ Holds w j := by
    intro j shared other held
    rcases own with mine | none
    · exact other (guarded.one k j shared mine held).symm
    · exact none j shared held
  refine ⟨fun i => ?_, fun i j shared first second => ?_⟩
  · rcases commit_slot (p := p) e with ⟨left, shared⟩ | ⟨kept, apart⟩
    · rw [left, slot]
      refine ⟨fun taken => absurd taken (by simp), ?_⟩
      rintro ⟨j, with', held⟩
      rcases holds_commit.mp held with ⟨rfl, still⟩ | ⟨other, held⟩
      · simp [holds] at still
      · exact absurd held (nobody j (shared.symm.trans with') other)
    · rw [kept, guarded.flag i]
      refine exists_congr fun j => and_congr_right fun shared => ?_
      have other : j ≠ k := fun same => apart (same ▸ shared)
      simp [holds_commit, other]
  · rcases holds_commit.mp first with ⟨rfl, still⟩ | ⟨-, held⟩
    · simp [holds] at still
    · rcases holds_commit.mp second with ⟨rfl, still⟩ | ⟨-, held'⟩
      · simp [holds] at still
      · exact guarded.one i j shared held held'

end

theorem Guarded.step {a : Action ι} (guarded : Guarded p w) (sound : Sound p w)
    (own : OwnRelease p w a) (stepped : step p w a = some w') : Guarded p w' := by
  by_cases runs : ∃ k choice, a = .run k choice
  · obtain ⟨k, choice, rfl⟩ := runs
    obtain ⟨e, move, rfl⟩ := step_run stepped
    rcases move.holds with ⟨slot, holds⟩ | ⟨free, slot, holds⟩ | ⟨slot, holds, here⟩
    · exact guarded.kept slot holds
    · exact guarded.reserved free slot holds
    · refine guarded.released slot holds ?_
      rcases here with beaten | failed | ⟨v, here, failed⟩
      · exact .inl (sound.holds (.inl beaten))
      · exact .inl (sound.holds (.inr failed))
      · exact own v (by simp [here, Pc.verdict?]) failed
  · have claims := step_localClaims stepped fun k choice same => runs ⟨k, choice, same⟩
    have holds : ∀ i, Holds w' i ↔ Holds w i := by
      intro i
      rcases step_round stepped i with ⟨choice, e, action, -⟩ | touch
      · exact absurd ⟨i, choice, action⟩ runs
      · rw [Holds, Holds, touch.past]
    refine ⟨fun i => ?_, fun i j shared => ?_⟩
    · simp only [slot, claims, holds]
      exact guarded.flag i
    · simp only [holds]
      exact guarded.one i j shared

def StandsFor (p : ι → RoundParams) (w : Cluster ι) (i : ι) : Prop :=
  Round.Standing (p i) (w.rounds i).past ∨ Won w i

omit [DecidableEq ι] in
theorem StandsFor.holds (sound : Sound p w) {i : ι} (stands : StandsFor p w i) : Holds w i := by
  rcases stands with standing | ⟨v, reported, won⟩
  · exact (sound i).holds_of_standing standing
  · exact (sound i).holds_of_won reported won

/--
The flag of a capsule is set exactly while a round holds it, and a node stands for one replica.
-/
theorem slot_iff_holds {t : Int} {listeners : ι → Listener}
    (reached : Reach (Cluster.step p) (OwnRelease p) (start t listeners) w) (i : ι) :
    (w.slot p i = true ↔ ∃ j, Shares p i j ∧ Holds w j) ∧
      ∀ j, Shares p i j → StandsFor p w i → StandsFor p w j → i = j := by
  have both : Sound p w ∧ Guarded p w := by
    refine reached.invariant (fun w => Sound p w ∧ Guarded p w) ⟨sound_start t _, ?_⟩ ?_
    · exact ⟨fun i => by simp [slot, start, Holds, Round.init],
        fun i j _ held => by simp [Holds, start, Round.init] at held⟩
    · rintro w a w' ⟨sound, guarded⟩ own stepped
      exact ⟨sound.step stepped, guarded.step sound own stepped⟩
  obtain ⟨sound, guarded⟩ := both
  refine ⟨guarded.flag i, fun j shared first second => ?_⟩
  exact guarded.one i j shared (first.holds sound) (second.holds sound)

def triple (i : Fin 3) : RoundParams :=
  { nodeID := "node-a"
    req := ⟨"capsule", if i = 0 then "0" else if i = 1 then "1" else "2", "cluster"⟩
    decide := fun _ => ⟨true, 50, 0, ""⟩
    timeout := second
    tiebreakWindow := 300 * millisecond }

def firstWins : List (Action (Fin 3)) :=
  [.run 0 .go, .run 0 .go, .run 0 .go, .run 0 .go, .run 0 .go, .run 0 .go, .run 0 .published,
    .run 1 .go, .run 1 .go, .run 1 .go, .run 1 .go, .tick second, .run 0 .go, .run 0 .go]

/-- A round that times out lets a third round win after the first one has won. -/
theorem node_wins_two_replicas :
    ∃ w, Reach (step triple) (fun w a => undisturbed w a) (init 0) w ∧ Won w 0 ∧ Won w 2 := by
  obtain ⟨w, reached, first, third⟩ := Reach.exists_of_accepted undisturbed (fun _ _ => id)
    (step triple) (init 0)
    (firstWins ++ [.run 1 .timer, .run 1 .go, .run 2 .go, .run 2 .go, .run 2 .go, .run 2 .go,
      .run 2 .go, .run 2 .go, .run 2 .published, .tick (2 * second), .run 2 .go, .run 2 .go])
    (fun w => (∃ v ∈ (w.rounds 0).past.reports, v.outcome = .won) ∧ ∃ v ∈ (w.rounds 2).past.reports,
      v.outcome = .won) (by decide +kernel)
  exact ⟨w, reached, first, third⟩

instance (p : ι → RoundParams) (i j : ι) : Decidable (Shares p i j) :=
  inferInstanceAs (Decidable (_ ∧ _))

instance (w : Cluster ι) (i : ι) : Decidable (Holds w i) := inferInstanceAs (Decidable (_ = _))

instance {n : Nat} (p : Fin n → RoundParams) (w : Cluster (Fin n)) :
    (a : Action (Fin n)) → Decidable (OwnRelease p w a)
  | .run i _ => inferInstanceAs (Decidable (∀ v ∈ (w.rounds i).pc.verdict?,
      v.outcome = .failed → Holds w i ∨ ∀ j, Shares p i j → ¬ Holds w j))
  | .tick _ | .deliver _ _ | .inject _ _ | .cancel _ | .close _ => .isTrue trivial

/-- As long as the second round does not give up, only the first one stands for a replica. -/
theorem slot_iff_holds_triple :
    ∃ w, Reach (step triple) (OwnRelease triple) (init 0) w ∧ Won w 0 ∧
      (w.slot triple 0 = true ↔ ∃ j, Shares triple 0 j ∧ Holds w j) ∧
      ∀ j, Shares triple 0 j → StandsFor triple w 0 → StandsFor triple w j → 0 = j := by
  obtain ⟨w, reached, won⟩ := Reach.exists_of_accepted (fun w a => decide (OwnRelease triple w a))
    (fun _ _ => of_decide_eq_true) (step triple) (init 0) firstWins
    (fun w => ∃ v ∈ (w.rounds 0).past.reports, v.outcome = .won) (by decide +kernel)
  exact ⟨w, reached, won, slot_iff_holds reached 0⟩

end Cluster

end Falak.Election
