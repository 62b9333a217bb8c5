import Falak.Election.ClusterLaws
import Falak.Election.TiebreakLaws

/-! When the rounds that publish a claim for one replica agree on a single winner. -/

namespace Falak.Election.Cluster

variable {ι : Type} [DecidableEq ι] {p : ι → RoundParams} {w w' : Cluster ι}

/-- All rounds answer the same request, each on a node of its own. -/
structure OneElection (p : ι → RoundParams) : Prop where
  nodes : ∀ i j, (p i).nodeID = (p j).nodeID → i = j
  request : ∀ i j, (p i).req = (p j).req

def undisturbed (_ : Cluster ι) : Action ι → Bool
  | .tick _ => true
  | .run _ (.publishError _) => false
  | .run _ _ => true
  | .deliver _ _ => true
  | .inject _ _ => false
  | .cancel _ => false
  | .close _ => false

def Won (w : Cluster ι) (i : ι) : Prop := ∃ v ∈ (w.rounds i).past.reports, v.outcome = .won

structure Contest (d : ι → Decision) (c : ι → Claim) (w : Cluster ι) : Prop where
  ended : ∀ i, (w.rounds i).pc = .returned
  decided : ∀ i, (w.rounds i).past.decision = some (d i)
  published : ∀ i, (w.rounds i).past.sent = [c i]
  received : ∀ i j, j ≠ i → Won w i → c j ∈ (w.rounds i).past.heard

def Precedes (p : ι → RoundParams) (d : ι → Decision) (c : ι → Claim) (i j : ι) : Prop :=
  (d j).score < (d i).score ∨
    (d j).score = (d i).score ∧
      (unixMicro (d i).publishAt < (c j).timestampMicros ∨
        unixMicro (d i).publishAt = (c j).timestampMicros ∧ (p i).nodeID < (p j).nodeID)

omit [DecidableEq ι] in
theorem addressed_iff (one : OneElection p) (i j : ι) : addressed p j i = true ↔ j ≠ i := by
  have same := one.request j i
  simp only [addressed, same, beq_self_eq_true, Bool.and_true, bne_iff_ne, ne_eq]
  exact not_congr ⟨one.nodes j i, fun same => same ▸ rfl⟩

theorem undisturbed_invariant {t : Int}
    (reached : Reach (step p) (fun w a => undisturbed w a) (init t) w) :
    Sound p w ∧ Live w ∧ Traced p w := by
  refine ⟨sound_of_reach reached, ?_, ?_⟩
  · refine reached.invariant Live (fun i => ⟨rfl, rfl⟩) fun v a v' live ok stepped =>
      live.step (fun i same => ?_) stepped
    subst same; cases ok
  · refine reached.invariant (Traced p) (fun i c here => ?_) fun v a v' traced ok stepped =>
      traced.step (fun i m same => ?_) stepped
    · exact traced_init t i c here
    · subst same; cases ok

section

variable {d : ι → Decision} {c : ι → Claim} {t : Int}

omit [DecidableEq ι] in
theorem claim_of_contest (sound : Sound p w) (contest : Contest d c w) (i : ι) :
    (c i).gravityScore = (d i).score ∧ (c i).nodeID = (p i).nodeID := by
  have here := sound i
  rw [contest.ended i] at here
  obtain ⟨v, -, grounds, -⟩ := here
  obtain ⟨published, claim⟩ := grounds.claim (contest.decided i) (contest.published i)
  rw [claim]
  exact ⟨rfl, rfl⟩

theorem won_iff (one : OneElection p)
    (reached : Reach (step p) (fun w a => undisturbed w a) (init t) w) (contest : Contest d c w)
    (i : ι) : Won w i ↔ ∀ j, j ≠ i → isBetter (c j) (d i) (p i).nodeID = false := by
  obtain ⟨sound, live, traced⟩ := undisturbed_invariant reached
  have here := sound i
  rw [contest.ended i] at here
  obtain ⟨v, reports, grounds, -⟩ := here
  constructor
  · intro won j other
    have heard := contest.received i j other won
    obtain ⟨v', reported, outcome⟩ := won
    rw [reports, List.mem_singleton] at reported
    subst reported
    simp only [Round.Grounds, outcome] at grounds
    obtain ⟨d', _, decided, -, -, unbeaten, -⟩ := grounds
    rw [contest.decided i] at decided
    cases decided
    exact unbeaten (c j) heard
  · intro unbeaten
    refine ⟨v, by simp [reports], ?_⟩
    cases outcome : v.outcome with
    | won => rfl
    | lost =>
      simp only [Round.Grounds, outcome] at grounds
      obtain ⟨d', rival, decided, heard, -, -, unsent | ⟨-, better⟩⟩ := grounds
      · simp [contest.published i] at unsent
      · rw [contest.decided i] at decided
        cases decided
        obtain ⟨j, toward, sent⟩ := traced i rival (.inl (.inl heard))
        rw [contest.published j, List.mem_singleton] at sent
        subst sent
        simp [unbeaten j ((addressed_iff one i j).mp toward)] at better
    | failed =>
      simp only [Round.Grounds, outcome] at grounds
      obtain ⟨d', reason, -, -, unsent | ⟨cut, -⟩⟩ := grounds
      · simp [contest.published i] at unsent
      · simp [(live i).2] at cut

/--
The publishers agree on a single winner exactly when a single one of them precedes all the others.
-/
theorem exists_unique_won_iff (one : OneElection p)
    (reached : Reach (step p) (fun w a => undisturbed w a) (init t) w) (contest : Contest d c w) :
    (∃! i, Won w i) ↔ ∃! i, ∀ j, j ≠ i → Precedes p d c i j := by
  have sound := sound_of_reach reached
  have same : ∀ i, Won w i ↔ ∀ j, j ≠ i → Precedes p d c i j := by
    intro i
    rw [won_iff one reached contest i]
    refine forall_congr' fun j => imp_congr_right fun other => ?_
    obtain ⟨score, node⟩ := claim_of_contest sound contest j
    have distinct : (c j).nodeID ≠ (p i).nodeID := by
      rw [node]
      exact fun equal => other (one.nodes j i equal)
    rw [isBetter_eq_false_iff distinct, Precedes, score, node]
  exact existsUnique_congr same

end

variable (d : Fin 2 → Decision) (i : Fin 2)

def pair : RoundParams :=
  { nodeID := if i = 0 then "node-a" else "node-b"
    req := ⟨"capsule", "0", "cluster"⟩
    decide := fun _ => d i
    timeout := 10 * second
    tiebreakWindow := 300 * millisecond }

theorem pair_oneElection : OneElection (pair d) := by
  refine ⟨fun i j same => ?_, fun i j => rfl⟩
  by_cases first : i = 0 <;> by_cases second : j = 0 <;> simp [pair, first, second] at same ⊢
  omega

def bothPublish (published : Int) : List (Action (Fin 2)) :=
  [.run 0 .go, .run 0 .go, .run 0 .go, .run 0 .go, .run 1 .go, .run 1 .go, .run 1 .go, .run 1 .go,
    .tick published, .run 0 .timer, .run 0 .go, .run 0 .go, .run 0 .published, .run 0 .go,
    .run 1 .timer, .run 1 .go, .run 1 .go, .run 1 .published, .run 1 .go,
    .deliver 0 0, .deliver 1 0, .run 0 .claim, .run 1 .claim]

def endsWith (c : Fin 2 → Claim) (v : Fin 2 → Outcome) (w : Cluster (Fin 2)) : Bool :=
  decide (∀ i, (w.rounds i).pc = .returned ∧ (w.rounds i).past.decision = some (d i) ∧
    (w.rounds i).past.sent = [c i] ∧ (w.rounds i).past.heard = [c (1 - i)] ∧
    (w.rounds i).past.reports.map Report.outcome = [v i])

theorem contest_of_endsWith {d : Fin 2 → Decision} {c : Fin 2 → Claim} {v : Fin 2 → Outcome}
    {w : Cluster (Fin 2)} (ends : endsWith d c v w = true) :
    Contest d c w ∧ ∀ i, Won w i ↔ v i = .won := by
  simp only [endsWith, decide_eq_true_eq] at ends
  constructor
  · refine ⟨fun i => (ends i).1, fun i => (ends i).2.1, fun i => (ends i).2.2.1, ?_⟩
    intro i j other _
    have opposite : j = 1 - i := by omega
    simp [(ends i).2.2.2.1, opposite]
  · intro i
    obtain ⟨report, reports, outcome⟩ := List.map_eq_singleton_iff.mp (ends i).2.2.2.2
    simp [Won, reports, outcome]

def tied : Decision := ⟨true, 50, 100 * microsecond, ""⟩

def tiedClaim : Claim := (pair (fun _ => tied) i).claimAt tied (105 * microsecond)

/-- Two nodes with equal scores that publish a little later than planned both win. -/
theorem both_win_of_tie :
    ∃ w, Reach (step (pair fun _ => tied)) (fun w a => undisturbed w a) (init 0) w ∧
      Contest (fun _ => tied) tiedClaim w ∧ ¬ ∃! i, Won w i := by
  obtain ⟨w, reached, ends⟩ := Reach.exists_of_accepted undisturbed (fun _ _ => id)
    (step (pair fun _ => tied)) (init 0)
    (bothPublish (105 * microsecond) ++
      [.run 0 .go, .run 1 .go, .tick second, .run 0 .timer, .run 0 .go, .run 0 .go, .run 1 .timer,
      .run 1 .go, .run 1 .go])
    (fun w => endsWith (fun _ => tied) tiedClaim (fun _ => .won) w = true) (by decide +kernel)
  obtain ⟨contest, won⟩ := contest_of_endsWith ends
  refine ⟨w, reached, contest, ?_⟩
  rintro ⟨i, -, only⟩
  have zero := only 0 ((won 0).mpr rfl)
  have one := only 1 ((won 1).mpr rfl)
  omega

def ranked : Decision := ⟨true, if i = 0 then 60 else 50, 100 * microsecond, ""⟩

def rankedClaim : Claim := (pair ranked i).claimAt (ranked i) (105 * microsecond)

/-- Two nodes with unequal scores reach the end of an undisturbed run, and agree. -/
theorem exists_unique_won_ranked :
    ∃ w, Reach (step (pair ranked)) (fun w a => undisturbed w a) (init 0) w ∧
      Contest ranked rankedClaim w ∧
      ((∃! i, Won w i) ↔ ∃! i, ∀ j, j ≠ i → Precedes (pair ranked) ranked rankedClaim i j) := by
  obtain ⟨w, reached, ends⟩ := Reach.exists_of_accepted undisturbed (fun _ _ => id)
    (step (pair ranked)) (init 0)
    (bothPublish (105 * microsecond) ++
      [.run 1 .go, .run 1 .go, .run 1 .go, .run 0 .go, .tick second, .run 0 .timer, .run 0 .go,
      .run 0 .go])
    (fun w => endsWith ranked rankedClaim (fun i => if i = 0 then .won else .lost) w = true)
    (by decide +kernel)
  have contest := (contest_of_endsWith ends).1
  exact ⟨w, reached, contest, exists_unique_won_iff (pair_oneElection ranked) reached contest⟩

end Falak.Election.Cluster
