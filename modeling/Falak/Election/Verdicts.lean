import Falak.Capsule.Replica
import Falak.Election.Agreement

/-! When all rounds of one replica report the same winner, whichever way they leave. -/

namespace Falak.Election

open Capsule

def recordOutcome (req : Request) (v : Report) (now : Int) (replicas : List ReplicaState) :
    List ReplicaState :=
  match v.outcome with
  | .won => assignReplica req.replicaID v.winner now replicas
  | .lost =>
    if v.winner ≠ "" then assignReplica req.replicaID v.winner now replicas else replicas
  | .failed => replicas

instance (r : Round) (c : Claim) : Decidable (r.Reached c) := inferInstanceAs (Decidable (_ ∨ _))

namespace Round

/-- Whether reading a claim makes the round lose to it. -/
def yields (p : RoundParams) (r : Round) (rival : Claim) : Bool :=
  match r.pc with
  | .prePublish d _ => isBetter rival d p.nodeID
  | .tiebreakSelect d _ => isBetter rival d p.nodeID
  | .verdictSelect _ => true
  | _ => false

def givesUp (now : Int) (r : Round) (choice : Choice) : Bool :=
  match r.pc, choice with
  | .prePublish _ _, .ctxDone | .prePublish _ _, .failure | .prePublish _ _, .deadlineTimer => true
  | .publishFailed _, .go => true
  | .tiebreakSelect _ _, .ctxDone => true
  | .verdict deadline, .go => deadline ≤ now
  | .verdictSelect _, .ctxDone | .verdictSelect _, .failure | .verdictSelect _, .timer => true
  | .verdictSelect _, .claim => r.listener.claims.buf.isEmpty
  | _, _ => false

def Spoken (r : Round) (v : Report) : Prop :=
  v ∈ r.past.reports ∨ r.pc = .report v ∧ v.outcome ≠ .won ∨
    ∃ rival, r.pc = .beaten rival ∧ v = .lostTo rival

theorem Spoken.of_report {r : Round} {v w : Report} (spoken : r.Spoken v)
    (here : r.pc = .report w) : v ∈ r.past.reports ∨ v = w ∧ v.outcome ≠ .won := by
  rcases spoken with old | ⟨reports, notWon⟩ | ⟨rival, beaten, -⟩
  · exact .inl old
  · exact .inr ⟨Pc.report.inj (reports.symm.trans here), notWon⟩
  · cases beaten.symm.trans here

theorem Move.spoken {p : RoundParams} {now : Int} {slot : Bool} {r : Round} {choice : Choice}
    {e : Effect} (move : Move p now slot r choice e) {v : Report} (spoken : e.round.Spoken v) :
    r.Spoken v ∨
      (∃ rival, choice = .claim ∧ r.listener.claims.buf.head? = some rival ∧
        r.yields p rival = true ∧ v = .lostTo rival) ∨
      (r.givesUp now choice = true ∧ v.outcome = .failed) ∨
      r.pc = .report v ∧ v.outcome = .won := by
  cases move
  -- The ways of giving up.
  case preCancelled here _ | preFailure here _ | preDeadline here _ | publishFailed here
      | tieCancelled here _ | verdictOver here _ | verdictCancelled here _
      | verdictFailure here _ | verdictTimer here _ =>
    rcases spoken.of_report rfl with old | ⟨rfl, -⟩
    · exact .inl (.inl old)
    · exact .inr (.inr (.inl ⟨by simp_all [givesUp], rfl⟩))
  case verdictClosed here received =>
    rcases spoken.of_report rfl with old | ⟨rfl, -⟩
    · exact .inl (.inl old)
    · exact .inr (.inr (.inl ⟨by simp [givesUp, here, (Chan.recv_zero received).1], rfl⟩))
  -- The ways of losing to a claim.
  case preLost here received better | verdictLost here received =>
    rcases spoken.of_report rfl with old | ⟨rfl, -⟩
    · exact .inl (.inl old)
    · exact .inr (.inl ⟨_, rfl, by simp [(Chan.recv_value received).1], by simp_all [yields], rfl⟩)
  case tieLost here received better =>
    simp only [Spoken, reduceCtorEq, false_and, false_or, Pc.beaten.injEq] at spoken
    rcases spoken with old | ⟨rival, rfl, rfl⟩
    · exact .inl (.inl old)
    · exact .inr (.inl ⟨_, rfl, by simp [(Chan.recv_value received).1], by simp_all [yields], rfl⟩)
  case beaten rival here =>
    rcases spoken.of_report rfl with old | ⟨rfl, -⟩
    · exact .inl (.inl old)
    · exact .inl (.inr (.inr ⟨rival, here, rfl⟩))
  -- A round that won has no verdict before it reports.
  case windowOver | tieTimer =>
    rcases spoken.of_report rfl with old | ⟨rfl, notWon⟩
    · exact .inl (.inl old)
    · exact absurd rfl notWon
  case report verdict gossiped here _ =>
    have reported : v ∈ r.past.reports ∨ v = verdict := by
      simpa [Spoken] using spoken
    rcases reported with old | rfl
    · exact .inl (.inl old)
    · by_cases won : v.outcome = .won
      · exact .inr (.inr (.inr ⟨here, won⟩))
      · exact .inl (.inr (.inl ⟨here, won⟩))
  all_goals exact .inl (.inl (by simpa [Spoken, hear] using spoken))

theorem Sound.not_spoken {p : RoundParams} {r : Round} (sound : Sound p r.pc r.past)
    (open' : r.waiting = true) (v : Report) : ¬ r.Spoken v := by
  rintro (reported | ⟨here, -⟩ | ⟨rival, here, -⟩)
  · have none : r.past.reports = [] := by
      rcases sound.reports with ⟨ended, -⟩ | none
      · rcases ended with here | here <;> simp [waiting, here] at open'
      · exact none
    simp [none] at reported
  · simp [waiting, here] at open'
  · simp [waiting, here] at open'

end Round

namespace Cluster

variable {ι : Type} [DecidableEq ι] {p : ι → RoundParams} {w w' : Cluster ι}

def Informed (w : Cluster ι) : Action ι → Prop
  | .run i choice =>
    (choice = .published → ∀ j, j ≠ i → (w.rounds j).past.reports = []) ∧
      ∀ v ∈ (w.rounds i).pc.verdict?, ∀ j, j ≠ i → ∀ c ∈ (w.rounds j).past.sent,
        (w.rounds i).Reached c
  | .inject _ _ => False
  | _ => True

def Orderly (p : ι → RoundParams) (w : Cluster ι) : Action ι → Prop
  | .run i choice =>
    (choice = .claim → ∀ rival ∈ (w.rounds i).listener.claims.buf.head?,
      (w.rounds i).yields (p i) rival = true →
        ∀ j, ∀ c ∈ (w.rounds j).past.sent, c.gravityScore ≤ rival.gravityScore) ∧
    ((w.rounds i).givesUp w.now choice = true → ∀ j, (w.rounds j).past.sent = []) ∧
    (∀ v ∈ (w.rounds i).pc.verdict?, v.outcome = .won →
      ∀ c ∈ (w.rounds i).listener.claims.buf, ∀ d ∈ (w.rounds i).past.decision,
        isBetter c d (p i).nodeID = false) ∧
    (choice = .published → ∀ j, j ≠ i → (w.rounds j).waiting = true)
  | _ => True

def DistinctScores (p : ι → RoundParams) : Prop :=
  ∀ i j s t, i ≠ j → ((p i).decide s).eligible = true → ((p j).decide t).eligible = true →
    ((p i).decide s).score ≠ ((p j).decide t).score

def Top (w : Cluster ι) (i : ι) : Prop :=
  ∃ c ∈ (w.rounds i).past.sent, ∀ j, ∀ c' ∈ (w.rounds j).past.sent,
    c'.gravityScore ≤ c.gravityScore

def Tells (p : ι → RoundParams) (w : Cluster ι) (i : ι) (v : Report) : Prop :=
  match v.outcome with
  | .won => Top w i ∧ v.winner = (p i).nodeID
  | .lost => ∃ j, Top w j ∧ v.winner = (p j).nodeID
  | .failed => ∀ j, (w.rounds j).past.sent = []

def Truthful (p : ι → RoundParams) (w : Cluster ι) : Prop :=
  ∀ i v, (w.rounds i).Spoken v → Tells p w i v

omit [DecidableEq ι] in
theorem Tells.congr {i : ι} {v : Report} (tells : Tells p w i v)
    (same : ∀ j, (w'.rounds j).past.sent = (w.rounds j).past.sent) : Tells p w' i v := by
  simpa only [Tells, Top, same] using tells

omit [DecidableEq ι] in
theorem Faithful.claim (faithful : Faithful p w) {i : ι} {c : Claim}
    (sent : c ∈ (w.rounds i).past.sent) :
    c.nodeID = (p i).nodeID ∧
      ∃ s, ((p i).decide s).eligible = true ∧ c.gravityScore = ((p i).decide s).score := by
  obtain ⟨d, t, decided, eligible, rfl⟩ := (faithful i).sent c sent
  obtain ⟨s, rfl⟩ := (faithful i).decision d decided
  exact ⟨rfl, s, eligible, rfl⟩

omit [DecidableEq ι] in
theorem Top.unique (faithful : Faithful p w) (distinct : DistinctScores p) {i j : ι}
    (first : Top w i) (second : Top w j) : i = j := by
  obtain ⟨c, sent, top⟩ := first
  obtain ⟨c', sent', top'⟩ := second
  obtain ⟨-, s, eligible, score⟩ := faithful.claim sent
  obtain ⟨-, s', eligible', score'⟩ := faithful.claim sent'
  have equal : c.gravityScore = c'.gravityScore := le_antisymm (top' i c sent) (top j c' sent')
  by_contra other
  exact distinct i j s s' other eligible eligible' (by rw [← score, ← score', equal])

omit [DecidableEq ι] in
theorem tells_of_won (sound : Sound p w) {i : ι} {choice : Choice} {v : Report}
    (here : (w.rounds i).pc = .report v) (outcome : v.outcome = .won)
    (informed : Informed w (.run i choice)) (orderly : Orderly p w (.run i choice)) :
    Tells p w i v := by
  have reached := informed.2 v (by simp [here, Pc.verdict?])
  have unread := orderly.2.2.1 v (by simp [here, Pc.verdict?]) outcome
  have grounds := sound i
  simp only [Round.Sound, here, Round.Grounds, outcome] at grounds
  obtain ⟨-, d, t, decided, rfl, published, unbeaten, -⟩ := grounds
  refine ⟨⟨(p i).claimAt d t, by simp [published], fun j c sent => ?_⟩, rfl⟩
  show c.gravityScore ≤ d.score
  by_cases self : j = i
  · subst self
    rw [published, List.mem_singleton] at sent
    rw [sent]
    exact le_rfl
  · by_contra higher
    have better : isBetter c d (p i).nodeID = true := isBetter_of_gt (not_le.mp higher)
    rcases reached j self c sent with heard | waiting
    · simp [unbeaten c heard] at better
    · simp [unread c waiting d decided] at better

omit [DecidableEq ι] in
theorem Truthful.move (truthful : Truthful p w) (sound : Sound p w) (faithful : Faithful p w)
    (traced : Traced p w) {i : ι} {choice : Choice} {e : Effect}
    (move : Round.Move (p i) w.now (w.slot p i) (w.rounds i) choice e)
    (informed : Informed w (.run i choice)) (orderly : Orderly p w (.run i choice))
    {v : Report} (spoken : e.round.Spoken v) : Tells p w i v := by
  rcases move.spoken spoken with old | ⟨rival, reads, first, yields, rfl⟩ | ⟨up, failed⟩ |
    ⟨here, won⟩
  · exact truthful i v old
  · have waiting : rival ∈ (w.rounds i).listener.claims.buf := List.mem_of_head? first
    obtain ⟨j, -, sent⟩ := traced i rival (.inl (.inr waiting))
    exact ⟨j, ⟨rival, sent, orderly.1 reads rival first yields⟩, (faithful.claim sent).1⟩
  · simpa only [Tells, failed] using orderly.2.1 up
  · exact tells_of_won sound here won informed orderly

theorem Truthful.step {a : Action ι} (truthful : Truthful p w) (sound : Sound p w)
    (faithful : Faithful p w) (traced : Traced p w) (informed : Informed w a)
    (orderly : Orderly p w a) (stepped : step p w a = some w') : Truthful p w' := by
  cases a with
  | run i choice =>
    obtain ⟨e, move, rfl⟩ := step_run stepped
    rcases move.sent with ⟨kept, -⟩ | ⟨d, c, t, here, publishes, -⟩
    · have same : ∀ j, ((w.commit p i e).rounds j).past.sent = (w.rounds j).past.sent := by
        intro j
        by_cases self : j = i
        · rw [self, commit_self, kept]
        · rw [commit_other e self]
      intro j v spoken
      refine Tells.congr ?_ same
      by_cases self : j = i
      · subst self
        rw [commit_self] at spoken
        exact truthful.move sound faithful traced move informed orderly spoken
      · rw [commit_other e self] at spoken
        exact truthful j v spoken
    · intro j v spoken
      exfalso
      by_cases self : j = i
      · subst self
        rw [commit_self] at spoken
        have after := move.sound (sound j)
        refine after.not_spoken ?_ v spoken
        cases move <;> simp_all [Round.waiting]
      · rw [commit_other e self] at spoken
        exact (sound j).not_spoken (orderly.2.2.2 publishes j self) v spoken
  | _ =>
    have same : ∀ j, (w'.rounds j).pc = (w.rounds j).pc ∧
        (w'.rounds j).past = (w.rounds j).past := by
      intro j
      rcases step_round stepped j with ⟨choice, e, action, -⟩ | touch
      · cases action
      · exact ⟨touch.pc, touch.past⟩
    intro j v spoken
    rw [Round.Spoken, (same j).1, (same j).2] at spoken
    exact (truthful j v spoken).congr fun j => by rw [(same j).2]

theorem truthful_of_reach {t : Int}
    (reached : Reach (Cluster.step p) (fun w a => Informed w a ∧ Orderly p w a) (init t) w) :
    Truthful p w := by
  refine (reached.invariant
    (fun w => Sound p w ∧ Faithful p w ∧ Traced p w ∧ Truthful p w) ?_ ?_).2.2.2
  · have sound : Sound p (init t) := sound_start t _
    exact ⟨sound, faithful_start t _, traced_init t,
      fun i v spoken => absurd spoken ((sound i).not_spoken rfl v)⟩
  · rintro w a w' ⟨sound, faithful, traced, truthful⟩ ⟨informed, orderly⟩ stepped
    have own : ∀ i m, a ≠ .inject i m := by
      rintro i m rfl
      exact informed
    exact ⟨sound.step stepped, faithful.step sound stepped, traced.step own stepped,
      truthful.step sound faithful traced informed orderly stepped⟩

/-- When a round has won, all other rounds report it as the winner and record it for the replica. -/
theorem verdicts_agree (one : OneElection p) (distinct : DistinctScores p)
    (named : ∀ i, (p i).nodeID ≠ "") {t : Int}
    (reached : Reach (Cluster.step p) (fun w a => Informed w a ∧ Orderly p w a) (init t) w) {i : ι}
    (won : Won w i) (j : ι) :
    (∀ v ∈ (w.rounds j).past.reports,
      v.outcome = (if j = i then .won else .lost) ∧ v.winner = (p i).nodeID ∧
      ∀ now replicas, hostOf (p i).req.replicaID (recordOutcome (p j).req v now replicas) =
        some (p i).nodeID) ∧
    ((w.rounds j).pc = .returned → ∃ v, (w.rounds j).past.reports = [v]) := by
  have truthful := truthful_of_reach reached
  have faithful := faithful_of_reach reached
  have top : Top w i := by
    obtain ⟨v, reported, outcome⟩ := won
    have tells := truthful i v (.inl reported)
    simp only [Tells, outcome] at tells
    exact tells.1
  refine ⟨fun v reported => ?_, fun ended => ?_⟩
  · have tells := truthful j v (.inl reported)
    cases outcome : v.outcome with
    | won =>
      simp only [Tells, outcome] at tells
      obtain rfl := tells.1.unique faithful distinct top
      refine ⟨by simp, tells.2, fun now replicas => ?_⟩
      rw [recordOutcome, outcome, tells.2]
      exact hostOf_assignReplica _ _ _ _
    | lost =>
      simp only [Tells, outcome] at tells
      obtain ⟨k, topmost, winner⟩ := tells
      obtain rfl := topmost.unique faithful distinct top
      have other : j ≠ k := by
        rintro rfl
        obtain ⟨v', reported', outcome'⟩ := won
        rw [(sound_of_reach reached j).report_unique reported reported', outcome'] at outcome
        cases outcome
      refine ⟨by simp [other], winner, fun now replicas => ?_⟩
      simp only [recordOutcome, outcome, winner, ne_eq, named k, not_false_eq_true, if_true]
      rw [one.request k j]
      exact hostOf_assignReplica _ _ _ _
    | failed =>
      simp only [Tells, outcome] at tells
      obtain ⟨c, sent, -⟩ := top
      simp [tells i] at sent
  · have sound := sound_of_reach reached j
    simp only [Round.Sound, ended] at sound
    obtain ⟨v, reports, -⟩ := sound
    exact ⟨v, reports⟩

instance {n : Nat} (w : Cluster (Fin n)) : (a : Action (Fin n)) → Decidable (Informed w a)
  | .run i choice => inferInstanceAs (Decidable (
      (choice = .published → ∀ j, j ≠ i → (w.rounds j).past.reports = []) ∧
        ∀ v ∈ (w.rounds i).pc.verdict?, ∀ j, j ≠ i → ∀ c ∈ (w.rounds j).past.sent,
          (w.rounds i).Reached c))
  | .inject _ _ => .isFalse id
  | .tick _ | .deliver _ _ | .cancel _ | .close _ => .isTrue trivial

def observed (i : Fin 3) : RoundParams :=
  { nodeID := if i.val = 0 then "node-a" else if i.val = 1 then "node-b" else "node-c"
    req := ⟨"capsule", "0", "cluster"⟩
    decide := fun _ =>
      if i.val = 0 then ⟨true, 90, 0, ""⟩
      else if i.val = 1 then ⟨true, 80, 0, ""⟩
      else ⟨false, 0, 0, "no capacity"⟩
    timeout := 10 * second
    tiebreakWindow := 300 * millisecond }

def observedRun {ι : Type} (best other observer : ι) (order : List Nat) : List (Action ι) :=
  List.replicate 6 (Action.run best .go) ++ List.replicate 6 (Action.run other .go) ++
    List.replicate 4 (Action.run observer .go) ++
  [Action.run best .published, .run other .published, .deliver best 0, .deliver other 0] ++
    order.map (Action.deliver observer) ++
  [Action.run best .go, .run best .claim, .run other .go, .run other .claim, .run observer .claim,
    .run other .go, .run other .go, .run observer .go, .tick second, .run best .go, .run best .go]

theorem observed_election :
    OneElection observed ∧ DistinctScores observed ∧ ∀ i, (observed i).nodeID ≠ "" := by
  refine ⟨⟨by decide, fun i j => rfl⟩, fun i j s t => ?_, by decide⟩
  revert i j
  simp only [observed]
  decide

/-- An observer that reads the claim of the second best node first names it, not the winner. -/
theorem observer_names_loser :
    OneElection observed ∧ DistinctScores observed ∧ (∀ i, (observed i).nodeID ≠ "") ∧
      ∃ w, Reach (step observed) Informed (init 0) w ∧ Won w 0 ∧
        ∃ v ∈ (w.rounds 2).past.reports, v.outcome = .lost ∧ v.winner ≠ (observed 0).nodeID := by
  obtain ⟨one, distinct, named⟩ := observed_election
  obtain ⟨w, reached, won, lost⟩ := Reach.exists_of_accepted (fun w a => decide (Informed w a))
    (fun _ _ => of_decide_eq_true) (step observed) (init 0) (observedRun 0 1 2 [1, 0])
    (fun w => (∃ v ∈ (w.rounds 0).past.reports, v.outcome = .won) ∧ ∃ v ∈ (w.rounds 2).past.reports,
      v.outcome = .lost ∧ v.winner ≠ (observed 0).nodeID) (by decide +kernel)
  exact ⟨one, distinct, named, w, reached, won, lost⟩

instance {n : Nat} (p : Fin n → RoundParams) (w : Cluster (Fin n)) :
    (a : Action (Fin n)) → Decidable (Orderly p w a)
  | .run i choice => inferInstanceAs (Decidable (
      (choice = .claim → ∀ rival ∈ (w.rounds i).listener.claims.buf.head?,
        (w.rounds i).yields (p i) rival = true →
          ∀ j, ∀ c ∈ (w.rounds j).past.sent, c.gravityScore ≤ rival.gravityScore) ∧
      ((w.rounds i).givesUp w.now choice = true → ∀ j, (w.rounds j).past.sent = []) ∧
      (∀ v ∈ (w.rounds i).pc.verdict?, v.outcome = .won →
        ∀ c ∈ (w.rounds i).listener.claims.buf, ∀ d ∈ (w.rounds i).past.decision,
          isBetter c d (p i).nodeID = false) ∧
      (choice = .published → ∀ j, j ≠ i → (w.rounds j).waiting = true)))
  | .tick _ | .deliver _ _ | .inject _ _ | .cancel _ | .close _ => .isTrue trivial

/-- An observer that reads the claim of the best node first reports and records the winner. -/
theorem verdicts_agree_observed :
    ∃ w, Reach (step observed) (fun w a => Informed w a ∧ Orderly observed w a) (init 0) w ∧
      Won w 0 ∧ (w.rounds 2).pc = .unlisten ∧
      ∀ v ∈ (w.rounds 2).past.reports, v.outcome = .lost ∧ v.winner = (observed 0).nodeID ∧
        ∀ now replicas, hostOf "0" (recordOutcome (observed 2).req v now replicas) =
          some (observed 0).nodeID := by
  obtain ⟨one, distinct, named⟩ := observed_election
  obtain ⟨w, reached, won, here⟩ := Reach.exists_of_accepted
    (fun w a => decide (Informed w a ∧ Orderly observed w a)) (fun _ _ => of_decide_eq_true)
    (step observed) (init 0) (observedRun 0 1 2 [0, 0])
    (fun w => (∃ v ∈ (w.rounds 0).past.reports, v.outcome = .won) ∧ (w.rounds 2).pc = .unlisten)
    (by decide +kernel)
  exact ⟨w, reached, won, here, (verdicts_agree one distinct named reached won 2).1⟩

end Cluster

end Falak.Election
