import Falak.Election.ClusterLaws
import Falak.Election.Prompt
import Falak.Election.TiebreakLaws

/-! A round that outscores every claim it receives wins, whatever arrives and whenever. -/

namespace Falak.Election

def Weaker (d : Decision) (m : Message) : Prop := ∃ c, m = .claim c ∧ c.gravityScore < d.score

/-- An open listener that holds weaker claims only and no failure. -/
structure Harmless (d : Decision) (l : Listener) : Prop where
  notClosed : l.closed = false
  claimsOpen : l.claims.closed = false
  failuresOpen : l.failures.closed = false
  noFailure : l.failures.buf = []
  weaker : ∀ c ∈ l.claims.buf, c.gravityScore < d.score

theorem harmless_new (d : Decision) (n : Nat) : Harmless d (.new n) :=
  ⟨rfl, rfl, rfl, rfl, by simp [Listener.new, Chan.make]⟩

variable {d : Decision} {l : Listener}

theorem Harmless.dispatch {m : Message} (harmless : Harmless d l) (weaker : Weaker d m) :
    Harmless d (l.dispatch m) := by
  obtain ⟨c, rfl, lower⟩ := weaker
  simp only [Listener.dispatch, Listener.dispatchClaim, harmless.notClosed, Bool.false_eq_true,
    if_false]
  refine ⟨rfl, by simpa using harmless.claimsOpen, harmless.failuresOpen,
    harmless.noFailure, fun c' waiting => ?_⟩
  rcases Chan.mem_trySend waiting with old | rfl
  · exact harmless.weaker c' old
  · exact lower

theorem Harmless.hear {r : Round} {rival : Claim} {rest : Chan Claim}
    (harmless : Harmless d r.listener)
    (received : r.listener.claims.recv = some (.value rival rest)) :
    Harmless d (r.hear rival rest).listener ∧ rival.gravityScore < d.score := by
  obtain ⟨held, rfl⟩ := Chan.recv_value received
  refine ⟨⟨harmless.notClosed, harmless.claimsOpen, harmless.failuresOpen, harmless.noFailure,
    fun c waiting => harmless.weaker c ?_⟩, harmless.weaker rival ?_⟩
  · rw [held]
    exact List.mem_cons_of_mem _ waiting
  · rw [held]
    exact List.mem_cons_self

namespace Round

def reportBy (p : RoundParams) (d : Decision) (t latency : Int) : Int :=
  max t d.publishAt + max 0 (max latency p.tiebreakWindow)

def Leading (p : RoundParams) (d : Decision) (t : Int) (latency : Int) (now : Int) (slot : Bool)
    (pc : Pc) (reports : List Report) : Prop :=
  match pc with
  | .decide => now = t ∧ slot = false
  | .deadline d' => d' = d ∧ now = t ∧ slot = false
  | .guard d' deadline => d' = d ∧ deadline = t + p.timeout ∧ now = t ∧ slot = false
  | .wait d' deadline => d' = d ∧ deadline = t + p.timeout ∧ now = t ∧ slot = false
  | .prePublish d' deadline =>
    d' = d ∧ deadline = t + p.timeout ∧ now ≤ d.publishAt ∧ slot = false
  | .tryClaim d' _ => d' = d ∧ now ≤ max t d.publishAt ∧ slot = false
  | .stamp d' => d' = d ∧ now ≤ max t d.publishAt
  | .publish d' _ tiebreakDeadline =>
    d' = d ∧ tiebreakDeadline - p.tiebreakWindow ≤ max t d.publishAt ∧
      now ≤ reportBy p d t latency
  | .tiebreak d' tiebreakDeadline =>
    d' = d ∧ tiebreakDeadline - p.tiebreakWindow ≤ max t d.publishAt ∧
      now ≤ reportBy p d t latency
  | .tiebreakSelect d' tiebreakDeadline =>
    d' = d ∧ tiebreakDeadline - p.tiebreakWindow ≤ max t d.publishAt ∧
      now ≤ reportBy p d t latency
  | .report v => v = .wonBy p d ∧ now ≤ reportBy p d t latency
  | .unlisten => reports = [.wonBy p d] ∧ now ≤ reportBy p d t latency
  | .returned => reports = [.wonBy p d]
  | _ => False

variable {p : RoundParams} {d : Decision} {t latency now : Int} {slot : Bool} {r : Round}

theorem Move.leading {choice : Choice} {e : Effect} (move : Move p now slot r choice e)
    (decides : p.decide t = d) (eligible : d.eligible = true) (early : d.publishAt < t + p.timeout)
    (sound : Sound p r.pc r.past) (live : r.cancelled = false)
    (harmless : r.pc ≠ .returned → Harmless d r.listener)
    (published : ∀ err, choice ≠ .publishError err)
    (leading : Leading p d t latency now slot r.pc r.past.reports) :
    Leading p d t latency now e.slot e.round.pc e.round.past.reports ∧
      (e.round.pc ≠ .returned → Harmless d e.round.listener) := by
  cases move with
  | decide here =>
    rw [here] at leading
    obtain ⟨rfl, free⟩ := leading
    exact ⟨⟨decides, rfl, free⟩, fun _ => harmless (by simp [here])⟩
  | deadline here =>
    rw [here] at leading
    obtain ⟨rfl, rfl, free⟩ := leading
    exact ⟨⟨rfl, rfl, rfl, free⟩, fun _ => harmless (by simp [here])⟩
  | ineligible here not =>
    rw [here] at leading
    rw [leading.1, eligible] at not
    cases not
  | stepAside here _ taken =>
    rw [here] at leading
    rw [leading.2.2.2] at taken
    cases taken
  | contend here | published here | windowOpen here =>
    rw [here] at leading
    exact ⟨leading, fun _ => harmless (by simp [here])⟩
  | sleep here before =>
    rw [here] at leading
    obtain ⟨rfl, deadline, -, free⟩ := leading
    exact ⟨⟨rfl, deadline, Int.le_of_lt before, free⟩, fun _ => harmless (by simp [here])⟩
  | due here late =>
    rw [here] at leading
    obtain ⟨rfl, -, rfl, free⟩ := leading
    exact ⟨⟨rfl, Int.le_max_left _ _, free⟩, fun _ => harmless (by simp [here])⟩
  | preTimer here fired =>
    rw [here] at leading
    obtain ⟨rfl, -, onTime, free⟩ := leading
    exact ⟨⟨rfl, Int.le_trans onTime (Int.le_max_right _ _), free⟩,
      fun _ => harmless (by simp [here])⟩
  | preWorse here received worse =>
    rw [here] at leading
    obtain ⟨rfl, -, onTime, free⟩ := leading
    exact ⟨⟨rfl, Int.le_trans onTime (Int.le_max_right _ _), free⟩,
      fun _ => ((harmless (by simp [here])).hear received).1⟩
  | preLost here received better | tieLost here received better =>
    rw [here] at leading
    rw [leading.1, isBetter_of_lt ((harmless (by simp [here])).hear received).2] at better
    cases better
  | preDeadline here fired =>
    simp only [Leading, here] at leading
    omega
  | slotTaken here taken =>
    rw [here] at leading
    rw [leading.2.2] at taken
    cases taken
  | slotWon here _ =>
    rw [here] at leading
    exact ⟨⟨leading.1, leading.2.1⟩, fun _ => harmless (by simp [here])⟩
  | stamp here =>
    rw [here] at leading
    refine ⟨⟨leading.1, ?_, ?_⟩, fun _ => harmless (by simp [here])⟩
    · have := leading.2
      omega
    · have := leading.2
      unfold reportBy
      omega
  | publishError here => exact absurd rfl (published _)
  | windowOver here | tieTimer here =>
    rw [here] at leading
    obtain ⟨rfl, -, onTime⟩ := leading
    exact ⟨⟨rfl, onTime⟩, fun _ => harmless (by simp [here])⟩
  | tieWorse here received worse =>
    rw [here] at leading
    exact ⟨leading, fun _ => ((harmless (by simp [here])).hear received).1⟩
  | report here =>
    rw [here] at leading
    simp only [Sound, here] at sound
    obtain ⟨rfl, onTime⟩ := leading
    exact ⟨⟨by simp [Report.wonBy, Round.report, sound.1], onTime⟩,
      fun _ => harmless (by simp [here])⟩
  | unlisten here =>
    rw [here] at leading
    exact ⟨leading.1, fun elsewhere => absurd rfl elsewhere⟩
  | preCancelled _ cancelled | tieCancelled _ cancelled => simp [live] at cancelled
  | preFailureNil here received =>
    have := (Chan.recv_zero received).2
    simp [(harmless (by simp [here])).failuresOpen] at this
  | preFailure here received =>
    have := (Chan.recv_value received).1
    simp [(harmless (by simp [here])).noFailure] at this
  | preClaimNil here received | tieClaimNil here received =>
    have := (Chan.recv_zero received).2
    simp [(harmless (by simp [here])).claimsOpen] at this
  -- A leading round never stands at these places.
  | publishFailed here | beaten here | verdictOver here | verdictOpen here
  | verdictCancelled here | verdictClosed here | verdictLost here | verdictAgain here
  | verdictFailure here | verdictTimer here => simp [Leading, here] at leading

theorem Leading.closer (leading : Leading p d t latency now slot r.pc r.past.reports)
    (early : d.publishAt < t + p.timeout)
    (harmless : r.pc ≠ .returned → Harmless d r.listener) (live : r.cancelled = false)
    (silent : r.past.reports ≠ [.wonBy p d]) :
    (∃ choice e, (∀ err, choice ≠ .publishError err) ∧ Move p now slot r choice e ∧
      e.round.distance now < r.distance now) ∨
    ∃ later, now ≤ later ∧ r.idle p latency later = true ∧ r.distance later < r.distance now := by
  have running : r.pc ≠ .returned := fun here => by
    rw [here] at leading
    exact silent leading
  have alive : r.pc ≠ .panicked := fun here => by simp [Leading, here] at leading
  have inTime : ∀ d' deadline, r.pc = .prePublish d' deadline → d'.publishAt ≤ deadline := by
    intro d' deadline here
    rw [here] at leading
    rw [leading.1, leading.2.1]
    exact Int.le_of_lt early
  have harmless := harmless running
  rcases ready latency live harmless.claimsOpen harmless.failuresOpen inTime running alive with
    ⟨choice, e, succeeds, move, closer, -⟩ | ⟨timer, after, idle, fires⟩
  · exact .inl ⟨choice, e, succeeds, move, closer⟩
  · exact .inr ⟨timer, Int.le_of_lt after, idle timer (Int.le_refl _),
      Nat.add_lt_add_left fires _⟩

theorem Leading.tick {later : Int} (leading : Leading p d t latency now slot r.pc r.past.reports)
    (idle : r.idle p latency later = true) :
    Leading p d t latency later slot r.pc r.past.reports := by
  cases here : r.pc with
  | prePublish d' deadline =>
    simp only [Leading, here] at leading ⊢
    simp only [Round.idle, here, Bool.and_eq_true, decide_eq_true_eq] at idle
    obtain ⟨rfl, rfl, -, free⟩ := leading
    exact ⟨rfl, rfl, idle.1.2, free⟩
  | publish d' claim tiebreakDeadline =>
    simp only [Leading, here] at leading ⊢
    simp only [Round.idle, here, decide_eq_true_eq] at idle
    refine ⟨leading.1, leading.2.1, ?_⟩
    unfold reportBy
    omega
  | tiebreakSelect d' tiebreakDeadline =>
    simp only [Leading, here] at leading ⊢
    simp only [Round.idle, here, Bool.and_eq_true, decide_eq_true_eq] at idle
    refine ⟨leading.1, leading.2.1, ?_⟩
    unfold reportBy
    omega
  | returned => simpa only [Leading, here] using leading
  | panicked | verdictSelect => simp [Leading, here] at leading
  | _ => simp [Round.idle, here] at idle

theorem Leading.release {slot' : Bool} {pc : Pc} {reports : List Report}
    (leading : Leading p d t latency now slot pc reports) (kept : slot' = true → slot = true) :
    Leading p d t latency now slot' pc reports := by
  have free : slot = false → slot' = false := by
    intro before
    cases after : slot' with
    | false => rfl
    | true => exact absurd (kept after) (by simp [before])
  cases pc with
  | decide => exact ⟨leading.1, free leading.2⟩
  | deadline | tryClaim => exact ⟨leading.1, leading.2.1, free leading.2.2⟩
  | guard | wait | prePublish => exact ⟨leading.1, leading.2.1, leading.2.2.1, free leading.2.2.2⟩
  | _ => exact leading

end Round

namespace Cluster

variable {ι : Type} [DecidableEq ι] {p : ι → RoundParams} {w w' : Cluster ι} {i : ι}
  {d : Decision} {t latency : Int}

def Favourable (p : ι → RoundParams) (i : ι) (d : Decision) (latency : Int) (w : Cluster ι) :
    Action ι → Prop
  | .tick later => (w.rounds i).idle (p i) latency later = true
  | .run j choice =>
    if j = i then ∀ err, choice ≠ .publishError err
    else Shares p i j → ∀ d deadline, (w.rounds j).pc ≠ .tryClaim d deadline
  | .deliver j position => j = i → ∀ m ∈ (w.inbox i)[position]?, Weaker d m
  | .inject j m => j = i → Weaker d m
  | .cancel j => j ≠ i
  | .close j => j ≠ i

structure Ahead (p : ι → RoundParams) (i : ι) (d : Decision) (t latency : Int) (w : Cluster ι) :
    Prop where
  sound : Round.Sound (p i) (w.rounds i).pc (w.rounds i).past
  live : (w.rounds i).cancelled = false
  harmless : (w.rounds i).pc ≠ .returned → Harmless d (w.rounds i).listener
  leading : Round.Leading (p i) d t latency w.now (w.slot p i) (w.rounds i).pc
    (w.rounds i).past.reports

variable {a : Action ι}

theorem slot_of_favourable (favourable : Favourable p i d latency w a)
    (stepped : step p w a = some w') (other : ∀ choice, a ≠ .run i choice)
    (taken : w'.slot p i = true) : w.slot p i = true := by
  rcases step_slot stepped taken with before | ⟨j, choice, d, deadline, rfl, shared, here⟩
  · exact before
  · have elsewhere : j ≠ i := fun same => other choice (same ▸ rfl)
    simp only [Favourable, elsewhere, if_false] at favourable
    exact absurd here (favourable shared d deadline)

theorem Ahead.step (decides : (p i).decide t = d) (eligible : d.eligible = true)
    (early : d.publishAt < t + (p i).timeout) (ahead : Ahead p i d t latency w)
    (favourable : Favourable p i d latency w a) (stepped : step p w a = some w') :
    Ahead p i d t latency w' := by
  rcases step_round stepped i with ⟨choice, e, rfl, move, rfl⟩ | touch
  · -- The round moves itself.
    simp only [Favourable, if_true] at favourable
    have kept := move.leading decides eligible early ahead.sound ahead.live ahead.harmless
      favourable ahead.leading
    refine ⟨?_, ?_, ?_, ?_⟩
    · simpa using move.sound ahead.sound
    · simpa [move.cancelled] using ahead.live
    · simpa using kept.2
    · simpa using kept.1
  · have released := ahead.leading.release (slot_of_favourable favourable stepped touch.other)
    have past := touch.past
    have here := touch.pc
    refine ⟨?_, ?_, ?_, ?_⟩
    · rw [here, past]
      exact ahead.sound
    · generalize w'.rounds i = r at touch ⊢
      cases touch with
      | cancelled action => subst action; exact absurd rfl favourable
      | _ => exact ahead.live
    · rw [here]
      intro running
      have harmless := ahead.harmless running
      generalize w'.rounds i = r at touch ⊢
      cases touch with
      | delivered action found =>
        subst action
        exact harmless.dispatch (favourable rfl _ found)
      | injected action =>
        subst action
        exact harmless.dispatch (favourable rfl)
      | closed action => subst action; exact absurd rfl favourable
      | _ => exact harmless
    · rw [here, past]
      rcases step_now stepped with same | ⟨rfl, -⟩
      · rw [same]
        exact released
      · exact released.tick favourable

theorem Ahead.reports_within (allowed : Cluster ι → Action ι → Prop)
    (fair : ∀ w a, allowed w a → Favourable p i d latency w a)
    (runs : ∀ w choice, (∀ err, choice ≠ .publishError err) → allowed w (.run i choice))
    (ticks : ∀ w later, (w.rounds i).idle (p i) latency later = true → allowed w (.tick later))
    (decides : (p i).decide t = d) (eligible : d.eligible = true)
    (early : d.publishAt < t + (p i).timeout) (ahead : Ahead p i d t latency w) :
    ∃ w', Reach (Cluster.step p) allowed w w' ∧
      (w'.rounds i).past.reports = [.wonBy (p i) d] := by
  refine Reach.exists_of_rank (Ahead p i d t latency) (fun w => (w.rounds i).distance w.now) ?_ w
    ahead
  intro w ahead silent
  rcases ahead.leading.closer early ahead.harmless ahead.live silent with
    ⟨choice, e, succeeds, move, closer⟩ | ⟨later, after, idle, closer⟩
  · have ok := runs w choice succeeds
    have stepped : Cluster.step p w (.run i choice) = some (w.commit p i e) := by
      simp [Cluster.step, move.step]
    exact ⟨_, _, ok, stepped, ahead.step decides eligible early (fair _ _ ok) stepped,
      by simpa using closer⟩
  · have ok := ticks w later idle
    have stepped : Cluster.step p w (.tick later) = some { w with now := later } := by
      simp [Cluster.step, after]
    exact ⟨_, _, ok, stepped, ahead.step decides eligible early (fair _ _ ok) stepped, closer⟩

theorem Ahead.reports (decides : (p i).decide t = d) (eligible : d.eligible = true)
    (early : d.publishAt < t + (p i).timeout) (ahead : Ahead p i d t latency w) :
    ∃ w', Reach (Cluster.step p) (Favourable p i d latency) w w' ∧
      (w'.rounds i).past.reports = [.wonBy (p i) d] :=
  ahead.reports_within _ (fun _ _ ok => ok) (fun _ _ succeeds => (if_pos rfl).mpr succeeds)
    (fun _ _ idle => idle) decides eligible early

omit [DecidableEq ι] in
theorem Ahead.reports_eq (ahead : Ahead p i d t latency w) :
    (w.rounds i).past.reports = [] ∨ (w.rounds i).past.reports = [.wonBy (p i) d] := by
  have leading := ahead.leading
  rcases ahead.sound.reports with ⟨here | here, -⟩ | silent
  · simp only [Round.Leading, here] at leading
    exact .inr leading.1
  · simp only [Round.Leading, here] at leading
    exact .inr leading
  · exact .inl silent

/-- A round that outscores every claim it receives reports once that it won, and nothing else. -/
theorem best_wins (i : ι) (t latency : Int) (listeners : ι → Listener)
    (decides : (p i).decide t = d) (eligible : d.eligible = true)
    (early : d.publishAt < t + (p i).timeout) (harmless : Harmless d (listeners i))
    (reached : Reach (step p) (Favourable p i d latency) (start t listeners) w) :
    ((w.rounds i).past.reports = [] ∨ (w.rounds i).past.reports = [.wonBy (p i) d]) ∧
      (Round.reportBy (p i) d t latency < w.now →
        (w.rounds i).past.reports = [.wonBy (p i) d]) ∧
      ∃ w', Reach (step p) (Favourable p i d latency) w w' ∧
        (w'.rounds i).past.reports = [.wonBy (p i) d] := by
  have ahead : Ahead p i d t latency w :=
    reached.invariant (Ahead p i d t latency)
      ⟨Round.sound_init (p i) _, rfl, fun _ => harmless, rfl, rfl⟩
      fun _ _ _ ahead favourable stepped => ahead.step decides eligible early favourable stepped
  refine ⟨ahead.reports_eq, fun late => ?_, ahead.reports decides eligible early⟩
  have leading := ahead.leading
  cases here : (w.rounds i).pc <;> simp only [Round.Leading, here] at leading
  all_goals unfold Round.reportBy at *; omega

def solo (_ : Unit) : RoundParams :=
  { nodeID := "node-a"
    req := ⟨"capsule", "0", "cluster"⟩
    decide := fun _ => ⟨true, 60, 100 * millisecond, ""⟩
    timeout := 10 * second
    tiebreakWindow := 300 * millisecond }

def soloRival : Message := .claim ⟨"capsule", "0", "cluster", "node-b", 50, 0⟩

/-- A node with a weaker claim in its channel can go on to win. -/
theorem best_wins_solo :
    ∃ w, Reach (step solo) (Favourable solo () ⟨true, 60, 100 * millisecond, ""⟩ 0)
        (start 0 fun _ => (Listener.new 16).dispatch soloRival) w ∧
      (w.rounds ()).past.reports = [⟨.won, "node-a", 60, ""⟩] :=
  (best_wins () 0 0 _ rfl rfl (by decide)
    ((harmless_new _ 16).dispatch ⟨_, rfl, by decide +kernel⟩) .start).2.2

end Cluster

end Falak.Election
