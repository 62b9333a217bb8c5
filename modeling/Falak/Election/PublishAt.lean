import Falak.Election.ClusterLaws
import Falak.Election.Prompt

/-! Which schedules of rival claims make a round keep to the time it planned to publish at. -/

namespace Falak.Election

namespace Round

variable {p : RoundParams} {d : Decision} {t now later : Int} {slot : Bool} {r : Round}
  {choice : Choice} {e : Effect}

def Unrivalled (p : RoundParams) (d : Decision) (r : Round) : Prop :=
  ∀ c, r.Reached c → isBetter c d p.nodeID = false

structure Front (p : RoundParams) (d : Decision) (now : Int) (r : Round) : Prop where
  early : now < d.publishAt → ∀ c ∈ r.listener.claims.buf.head?, isBetter c d p.nodeID = true
  due : d.publishAt ≤ now → Unrivalled p d r

def OnPlan (p : RoundParams) (d : Decision) (t now : Int) (r : Round) : Prop :=
  match r.pc with
  | .decide => now = t ∧ Front p d now r
  | .deadline d' => d' = d ∧ now = t ∧ Front p d now r
  | .guard d' _ => d' = d ∧ now = t ∧ Front p d now r
  | .wait d' _ => d' = d ∧ now = t ∧ Front p d now r
  | .prePublish d' _ => d' = d ∧ t < d.publishAt ∧ now ≤ d.publishAt ∧ Front p d now r
  | .tryClaim d' _ => d' = d ∧ now = max t d.publishAt ∧ Unrivalled p d r
  | .stamp d' => d' = d ∧ now = max t d.publishAt ∧ Unrivalled p d r
  | .publish d' _ tiebreakDeadline =>
    d' = d ∧ now = max t d.publishAt ∧ tiebreakDeadline = now + p.tiebreakWindow ∧
      Unrivalled p d r
  | _ => True

theorem Move.onPlan (move : Move p now slot r choice e) (decides : p.decide t = d)
    (plan : OnPlan p d t now r) : OnPlan p d t now e.round := by
  obtain ⟨pc, listener, cancelled, past⟩ := r
  cases move with
  | decide here =>
    cases here
    obtain ⟨rfl, front⟩ := plan
    exact ⟨decides, rfl, { front with }⟩
  | deadline here | contend here =>
    cases here
    obtain ⟨rfl, start, front⟩ := plan
    exact ⟨rfl, start, { front with }⟩
  | sleep here before =>
    cases here
    obtain ⟨rfl, start, front⟩ := plan
    exact ⟨rfl, by omega, by omega, { front with }⟩
  | due here late =>
    cases here
    obtain ⟨rfl, start, front⟩ := plan
    exact ⟨rfl, by omega, front.due late⟩
  | @preWorse d' deadline rival rest here received worse =>
    cases here
    obtain ⟨rfl, ahead, onTime, front⟩ := plan
    have late : d'.publishAt ≤ now := by
      by_contra early
      have first : rival ∈ listener.claims.buf.head? := by
        rw [(Chan.recv_value received).1]
        rfl
      rw [front.early (by omega) rival first] at worse
      cases worse
    exact ⟨rfl, by omega, fun c reached => front.due late c ((reached_hear received).mp reached)⟩
  | preTimer here fired =>
    cases here
    obtain ⟨rfl, ahead, onTime, front⟩ := plan
    exact ⟨rfl, by omega, front.due fired⟩
  | slotWon here free =>
    cases here
    obtain ⟨rfl, instant, unrivalled⟩ := plan
    exact ⟨rfl, instant, unrivalled⟩
  | stamp here =>
    cases here
    obtain ⟨rfl, instant, unrivalled⟩ := plan
    exact ⟨rfl, instant, rfl, unrivalled⟩
  | report here => simp [OnPlan]
  | _ => trivial

theorem OnPlan.tick (plan : OnPlan p d t now r) (sound : Sound p r.pc r.past)
    (idle : r.idle p 0 later = true) (after : now ≤ later) : OnPlan p d t later r := by
  cases here : r.pc with
  | prePublish d' deadline =>
    simp only [OnPlan, here] at plan ⊢
    obtain ⟨rfl, ahead, -, -⟩ := plan
    simp only [Round.idle, here, quiet, Bool.and_eq_true, decide_eq_true_eq,
      Option.isNone_iff_eq_none]
      at idle
    obtain ⟨⟨⟨⟨-, claims⟩, -⟩, onTime⟩, -⟩ := idle
    simp only [Sound, here] at sound
    have empty := (Chan.recv_none.mp claims).1
    refine ⟨rfl, ahead, onTime, ?_, ?_⟩
    · simp [empty]
    · intro _ c reached
      simp [Reached, sound.2.1, empty] at reached
  | publish d' claim tiebreakDeadline =>
    simp only [OnPlan, here] at plan ⊢
    obtain ⟨rfl, instant, window, unrivalled⟩ := plan
    simp only [Round.idle, here, decide_eq_true_eq] at idle
    have same : later = now := by omega
    subst same
    exact ⟨rfl, instant, window, unrivalled⟩
  | decide | deadline | guard | wait | tryClaim | stamp => simp [Round.idle, here] at idle
  | _ => simp [OnPlan, here]

structure Timely (p : RoundParams) (t now : Int) (r : Round) (c : Claim) : Prop where
  first : now < (p.decide t).publishAt → r.past.heard = [] → r.listener.claims.buf = [] →
    isBetter c (p.decide t) p.nodeID = true
  instant : now = max t (p.decide t).publishAt → isBetter c (p.decide t) p.nodeID = false

theorem head_dispatch {l : Listener} {m : Message} {c : Claim}
    (front : c ∈ (l.dispatch m).claims.buf.head?) :
    c ∈ l.claims.buf.head? ∨ l.claims.buf = [] ∧ m = .claim c := by
  -- A claim is queued behind those that wait already.
  cases held : l.claims.buf with
  | nil =>
    have waiting : c ∈ (l.dispatch m).claims.buf := List.mem_of_mem_head? front
    rcases mem_dispatch waiting with before | carried
    · simp [held] at before
    · exact .inr ⟨rfl, carried⟩
  | cons first rest =>
    left
    cases m with
    | failed f =>
      simp only [Listener.dispatch, Listener.dispatchFailure] at front
      split at front <;> simpa [held] using front
    | claim sent =>
      simp only [Listener.dispatch, Listener.dispatchClaim] at front
      split at front
      · simpa [held] using front
      · simp only [Chan.trySend_buf, held] at front
        split at front <;> simpa using front

theorem close_claims_buf (l : Listener) : l.close.claims.buf = l.claims.buf := by
  unfold Listener.close
  split <;> rfl

theorem Front.dispatch {m : Message} (front : Front p (p.decide t) now r)
    (unheard : r.past.heard = [])
    (planned : (p.decide t).publishAt ≤ now → now = max t (p.decide t).publishAt)
    (timely : ∀ c ∈ m.claim?, Timely p t now r c) :
    Front p (p.decide t) now { r with listener := r.listener.dispatch m } := by
  constructor
  · intro early c first
    rcases head_dispatch first with before | ⟨empty, rfl⟩
    · exact front.early early c before
    · exact (timely c rfl).first early unheard empty
  · intro late c reached
    rcases reached_dispatch reached with before | rfl
    · exact front.due late c before
    · exact (timely c rfl).instant (planned late)

theorem OnPlan.dispatch {m : Message} (plan : OnPlan p (p.decide t) t now r)
    (sound : Sound p r.pc r.past) (timely : ∀ c ∈ m.claim?, Timely p t now r c) :
    OnPlan p (p.decide t) t now { r with listener := r.listener.dispatch m } := by
  have unrivalled (instant : now = max t (p.decide t).publishAt)
      (before : Unrivalled p (p.decide t) r) :
      Unrivalled p (p.decide t) { r with listener := r.listener.dispatch m } := by
    intro c reached
    rcases reached_dispatch reached with there | rfl
    · exact before c there
    · exact (timely c rfl).instant instant
  obtain ⟨pc, listener, cancelled, past⟩ := r
  cases pc with
  | decide =>
    obtain ⟨start, front⟩ := plan
    exact ⟨start, front.dispatch sound.2.1 (by omega) timely⟩
  | deadline | guard | wait =>
    obtain ⟨same, start, front⟩ := plan
    exact ⟨same, start, front.dispatch sound.2.1 (by omega) timely⟩
  | prePublish =>
    obtain ⟨same, ahead, onTime, front⟩ := plan
    exact ⟨same, ahead, onTime, front.dispatch sound.2.1 (by omega) timely⟩
  | tryClaim | stamp => exact ⟨plan.1, plan.2.1, unrivalled plan.2.1 plan.2.2⟩
  | publish => exact ⟨plan.1, plan.2.1, plan.2.2.1, unrivalled plan.2.1 plan.2.2.2⟩
  | _ => trivial

theorem OnPlan.congr {r' : Round} (plan : OnPlan p d t now r) (place : r'.pc = r.pc)
    (waiting : r'.listener.claims.buf = r.listener.claims.buf) (past : r'.past = r.past) :
    OnPlan p d t now r' := by
  have unrivalled (before : Unrivalled p d r) : Unrivalled p d r' := by
    intro c reached
    rw [Reached, waiting, past] at reached
    exact before c reached
  have front (before : Front p d now r) : Front p d now r' := by
    refine ⟨fun early c first => before.early early c ?_, fun late => unrivalled (before.due late)⟩
    rwa [waiting] at first
  unfold OnPlan at plan ⊢
  rw [place]
  cases here : r.pc <;> rw [here] at plan
  case decide => exact ⟨plan.1, front plan.2⟩
  case deadline | guard | wait => exact ⟨plan.1, plan.2.1, front plan.2.2⟩
  case prePublish => exact ⟨plan.1, plan.2.1, plan.2.2.1, front plan.2.2.2⟩
  case tryClaim | stamp => exact ⟨plan.1, plan.2.1, unrivalled plan.2.2⟩
  case publish => exact ⟨plan.1, plan.2.1, plan.2.2.1, unrivalled plan.2.2.2⟩
  all_goals trivial

end Round

namespace Cluster

variable {ι : Type} [DecidableEq ι] {p : ι → RoundParams} {w w' : Cluster ι} {i : ι} {t : Int}

def Punctual (p : ι → RoundParams) (i : ι) (t : Int) (w : Cluster ι) : Action ι → Prop
  | .tick later => (w.rounds i).idle (p i) 0 later = true
  | .deliver j position => j = i → ∀ m ∈ (w.inbox i)[position]?, ∀ c ∈ m.claim?,
      Round.Timely (p i) t w.now (w.rounds i) c
  | .inject j m => j = i → ∀ c ∈ m.claim?, Round.Timely (p i) t w.now (w.rounds i) c
  | _ => True

theorem onPlan_step {a : Action ι} (plan : Round.OnPlan (p i) ((p i).decide t) t w.now (w.rounds i))
    (sound : Sound p w) (punctual : Punctual p i t w a) (stepped : step p w a = some w') :
    Round.OnPlan (p i) ((p i).decide t) t w'.now (w'.rounds i) := by
  rcases step_round stepped i with ⟨choice, e, rfl, move, rfl⟩ | touch
  · simpa using move.onPlan rfl plan
  · rcases step_now stepped with same | ⟨rfl, after⟩
    · rw [same]
      generalize w'.rounds i = r at touch ⊢
      cases touch with
      | none => exact plan
      | @delivered position m action found =>
        subst action
        exact plan.dispatch (sound i) (punctual rfl m found)
      | injected action =>
        subst action
        exact plan.dispatch (sound i) (punctual rfl)
      | cancelled => exact plan.congr rfl rfl rfl
      | closed => exact plan.congr rfl (Round.close_claims_buf _) rfl
    · generalize w'.rounds i = r at touch ⊢
      cases touch with
      | none => exact plan.tick (sound i) punctual after
      | delivered action | injected action | cancelled action | closed action => cases action

theorem run_of_move {choice : Choice} {e : Effect}
    (move : Round.Move (p i) w.now (w.slot p i) (w.rounds i) choice e) :
    step p w (.run i choice) = some (w.commit p i e) := by
  simp [step, move.step]

theorem publishes_at_once {d : Decision} {deadline : Int} {rival : Claim} {rest : Chan Claim}
    (here : (w.rounds i).pc = .prePublish d deadline)
    (received : (w.rounds i).listener.claims.recv = some (.value rival rest))
    (worse : isBetter rival d (p i).nodeID = false) (free : w.slot p i = false) :
    ∃ w' w'', Reach (step p) (fun _ _ => True) w w' ∧ w'.now = w.now ∧
      step p w' (.run i .published) = some w'' ∧
      (w''.rounds i).past.sent = (w.rounds i).past.sent ++ [(p i).claimAt d w.now] := by
  have first := run_of_move (.preWorse here received worse)
  generalize reached₁ : w.commit p i _ = w₁ at first
  have here₁ : (w₁.rounds i).pc = .tryClaim d deadline := by simp [← reached₁]
  have free₁ : w₁.slot p i = false := by rw [← reached₁, commit_slot_self, free]
  have second := run_of_move (.slotWon here₁ free₁)
  generalize reached₂ : w₁.commit p i _ = w₂ at second
  have here₂ : (w₂.rounds i).pc = .stamp d := by simp [← reached₂]
  have third := run_of_move (p := p) (.stamp here₂)
  generalize reached₃ : w₂.commit p i _ = w₃ at third
  have instant : w₃.now = w.now := by simp [← reached₃, ← reached₂, ← reached₁]
  have here₃ : (w₃.rounds i).pc = .publish d ((p i).claimAt d w.now)
      (w.now + (p i).tiebreakWindow) := by
    simp [← reached₃, ← reached₂, ← reached₁]
  have last := run_of_move (p := p) (.published here₃)
  refine ⟨w₃, _, .next (.next (.next .start trivial first) trivial second) trivial third, instant,
    last, ?_⟩
  simp [← reached₃, ← reached₂, ← reached₁, Round.hear]

/--
A round publishes at its planned time at the earliest, and no better claim had reached it by then.
-/
theorem publishAt_honoured (p : ι → RoundParams) (i : ι) (t : Int) :
    (∀ (listeners : ι → Listener) (w w' : Cluster ι),
      Round.Front (p i) ((p i).decide t) t (.init (listeners i)) →
      Reach (step p) (Punctual p i t) (start t listeners) w →
      step p w (.run i .published) = some w' →
      ∃ d, (w.rounds i).past.decision = some d ∧ d.publishAt ≤ w.now ∧
        ∀ c, (w.rounds i).Reached c → isBetter c d (p i).nodeID = false) ∧
    ∀ (w : Cluster ι) (d : Decision) (deadline : Int) (rival : Claim) (rest : Chan Claim),
      (w.rounds i).pc = .prePublish d deadline →
      (w.rounds i).listener.claims.recv = some (.value rival rest) →
      isBetter rival d (p i).nodeID = false → w.slot p i = false → w.now < d.publishAt →
      ∃ w' w'', Reach (step p) (fun _ _ => True) w w' ∧ w'.now < d.publishAt ∧
        step p w' (.run i .published) = some w'' := by
  constructor
  · intro listeners w w' front reached published
    have both : Sound p w ∧ Round.OnPlan (p i) ((p i).decide t) t w.now (w.rounds i) := by
      refine reached.invariant
        (fun w => Sound p w ∧ Round.OnPlan (p i) ((p i).decide t) t w.now (w.rounds i))
        ⟨sound_start t listeners, ⟨rfl, front⟩⟩ ?_
      rintro w a w' ⟨sound, plan⟩ punctual stepped
      exact ⟨sound.step stepped, onPlan_step plan sound punctual stepped⟩
    obtain ⟨sound, plan⟩ := both
    have sound := sound i
    obtain ⟨e, move, -⟩ := step_run published
    cases move with
    | published here =>
      simp only [Round.Sound, Round.OnPlan, here] at sound plan
      obtain ⟨rfl, instant, -, unrivalled⟩ := plan
      exact ⟨_, sound.1.decision, by omega, unrivalled⟩
    | report _ way => split at way <;> cases way
  · intro w d deadline rival rest here received worse free early
    obtain ⟨w', w'', reached, instant, published, -⟩ := publishes_at_once here received worse free
    exact ⟨w', w'', reached, by omega, published⟩

def patient (_ : Fin 1) : RoundParams :=
  { nodeID := "node-a"
    req := ⟨"capsule", "0", "cluster"⟩
    decide := fun now => ⟨true, 50, now + second, ""⟩
    timeout := 10 * second
    tiebreakWindow := 300 * millisecond }

def rivalClaim (score : Score) : Claim := ⟨"capsule", "0", "cluster", "node-b", score, 0⟩

def prompt (p : ι → RoundParams) (i : ι) (w : Cluster ι) : Action ι → Bool
  | .tick later => (w.rounds i).idle (p i) 0 later
  | _ => true

/-- A worse claim makes a round publish early, with a better one waiting in its channel. -/
theorem publishes_early :
    ∃ w w' d c, Reach (step patient) (fun w a => prompt patient 0 w a = true) (init 0) w ∧
      step patient w (.run 0 .published) = some w' ∧ (w.rounds 0).past.decision = some d ∧
      w.now < d.publishAt ∧ (w.rounds 0).Reached c ∧ isBetter c d "node-a" = true := by
  obtain ⟨w, reached, published, decided, early, waiting⟩ := Reach.exists_of_accepted
    (prompt patient 0) (fun _ _ => id) (step patient) (init 0)
    [.run 0 .go, .run 0 .go, .run 0 .go, .run 0 .go, .tick (200 * millisecond),
      .inject 0 (.claim (rivalClaim 10)), .inject 0 (.claim (rivalClaim 90)), .run 0 .claim,
      .run 0 .go, .run 0 .go]
    (fun w => (step patient w (.run 0 .published)).isSome ∧
      (w.rounds 0).past.decision = some ⟨true, 50, second, ""⟩ ∧ w.now < second ∧
      rivalClaim 90 ∈ (w.rounds 0).listener.claims.buf) (by decide +kernel)
  obtain ⟨w', published⟩ := Option.isSome_iff_exists.mp published
  exact ⟨w, w', _, rivalClaim 90, reached, published, decided, early, .inr waiting, by decide⟩

instance (p : RoundParams) (t now : Int) (r : Round) (c : Claim) :
    Decidable (Round.Timely p t now r c) :=
  decidable_of_iff
    ((now < (p.decide t).publishAt → r.past.heard = [] → r.listener.claims.buf = [] →
        isBetter c (p.decide t) p.nodeID = true) ∧
      (now = max t (p.decide t).publishAt → isBetter c (p.decide t) p.nodeID = false))
    ⟨fun both => ⟨both.1, both.2⟩, fun timely => ⟨timely.first, timely.instant⟩⟩

instance (p : ι → RoundParams) (i : ι) (t : Int) (w : Cluster ι) :
    (a : Action ι) → Decidable (Punctual p i t w a)
  | .tick later => inferInstanceAs (Decidable ((w.rounds i).idle (p i) 0 later = true))
  | .deliver j position => inferInstanceAs (Decidable (j = i → ∀ m ∈ (w.inbox i)[position]?,
      ∀ c ∈ m.claim?, Round.Timely (p i) t w.now (w.rounds i) c))
  | .inject j m => inferInstanceAs (Decidable (j = i → ∀ c ∈ m.claim?,
      Round.Timely (p i) t w.now (w.rounds i) c))
  | .run _ _ | .cancel _ | .close _ => .isTrue trivial

/-- A worse claim that arrives at the planned time does not hurry the round. -/
theorem publishAt_honoured_patient :
    ∃ w w', Reach (step patient) (Punctual patient 0 0) (init 0) w ∧ w.now = second ∧
      step patient w (.run 0 .published) = some w' ∧
      ∃ d, (w.rounds 0).past.decision = some d ∧ d.publishAt ≤ w.now ∧
        ∀ c, (w.rounds 0).Reached c → isBetter c d "node-a" = false := by
  obtain ⟨w, reached, instant, published⟩ := Reach.exists_of_accepted
    (fun w a => decide (Punctual patient 0 0 w a)) (fun _ _ => of_decide_eq_true) (step patient)
    (init 0)
    [.run 0 .go, .run 0 .go, .run 0 .go, .run 0 .go, .tick second,
      .inject 0 (.claim (rivalClaim 10)), .run 0 .claim, .run 0 .go, .run 0 .go]
    (fun w => w.now = second ∧ (step patient w (.run 0 .published)).isSome) (by decide +kernel)
  obtain ⟨w', published⟩ := Option.isSome_iff_exists.mp published
  refine ⟨w, w', reached, instant, published, ?_⟩
  refine (publishAt_honoured patient 0 0).1 (fun _ => .new 16) w w' ⟨?_, ?_⟩ reached published
  · simp [Round.init, Listener.new, Chan.make]
  · intro late
    simp [patient, second, millisecond, microsecond] at late

end Cluster

end Falak.Election
