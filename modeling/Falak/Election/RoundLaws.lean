import Falak.Election.RoundMoves

/-! What every round has done by the time it reaches each of its instructions. -/

namespace Falak.Election

def Pc.verdict? : Pc → Option Report
  | .report v => some v
  | _ => none

namespace Round

variable {p : RoundParams} {now : Int} {slot : Bool} {r : Round} {choice : Choice} {e : Effect}
  {pc : Pc} {h : History}

def Unbeaten (p : RoundParams) (d : Decision) (h : History) : Prop :=
  ∀ c ∈ h.heard, isBetter c d p.nodeID = false

structure Undecided (d : Decision) (h : History) : Prop where
  decision : h.decision = some d
  sent : h.sent = []
  reports : h.reports = []

structure Holding (p : RoundParams) (d : Decision) (h : History) : Prop where
  decision : h.decision = some d
  eligible : d.eligible = true
  unbeaten : Unbeaten p d h
  reports : h.reports = []
  holds : h.holds = true

/-- What a round did before it arrives at a given verdict. -/
def Grounds (p : RoundParams) (h : History) (v : Report) : Prop :=
  match v.outcome with
  | .won => ∃ d t, h.decision = some d ∧ v = .wonBy p d ∧ h.sent = [p.claimAt d t] ∧
      Unbeaten p d h ∧ h.holds = true
  | .lost => ∃ d rival, h.decision = some d ∧ rival ∈ h.heard ∧ v = .lostTo rival ∧
      h.holds = false ∧
      (h.sent = [] ∨ (∃ t, h.sent = [p.claimAt d t]) ∧ isBetter rival d p.nodeID = true)
  | .failed => ∃ d reason, h.decision = some d ∧ v = .failure reason ∧
      (h.sent = [] ∨ h.cut = true ∧ ∃ t, h.sent = [p.claimAt d t])

/-- The history of a round, told by the instruction it stands at. -/
def Sound (p : RoundParams) (pc : Pc) (h : History) : Prop :=
  match pc with
  | .decide => h.decision = none ∧ h.heard = [] ∧ h.sent = [] ∧ h.reports = [] ∧ h.holds = false
  | .deadline d => Undecided d h ∧ h.heard = [] ∧ h.holds = false
  | .guard d _ => Undecided d h ∧ h.heard = [] ∧ h.holds = false
  | .wait d _ => Undecided d h ∧ h.heard = [] ∧ h.holds = false ∧ d.eligible = true
  | .prePublish d _ => Undecided d h ∧ h.heard = [] ∧ h.holds = false ∧ d.eligible = true
  | .tryClaim d _ => Undecided d h ∧ Unbeaten p d h ∧ h.holds = false ∧ d.eligible = true
  | .stamp d => Holding p d h ∧ h.sent = []
  | .publish d claim _ => Holding p d h ∧ h.sent = [] ∧ ∃ t, claim = p.claimAt d t
  | .publishFailed _ => ∃ d, Holding p d h ∧ h.sent = []
  | .tiebreak d _ => Holding p d h ∧ ∃ t, h.sent = [p.claimAt d t]
  | .tiebreakSelect d _ => Holding p d h ∧ ∃ t, h.sent = [p.claimAt d t]
  | .beaten rival => ∃ d, h.decision = some d ∧ h.reports = [] ∧ h.holds = true ∧
      rival ∈ h.heard ∧ isBetter rival d p.nodeID = true ∧ ∃ t, h.sent = [p.claimAt d t]
  | .verdict _ => (∃ d, Undecided d h) ∧ h.holds = false
  | .verdictSelect _ => (∃ d, Undecided d h) ∧ h.holds = false
  | .report v => h.reports = [] ∧ Grounds p h v
  | .unlisten => ∃ v, h.reports = [v] ∧ Grounds p h v ∧ (v.outcome = .failed → h.holds = false)
  | .returned => ∃ v, h.reports = [v] ∧ Grounds p h v ∧ (v.outcome = .failed → h.holds = false)
  | .panicked => h.reports = [] ∧ (h.sent = [] ∨ h.holds = true)

theorem sound_init (p : RoundParams) (l : Listener) : Sound p (init l).pc (init l).past := by
  simp [Sound, init]

theorem Sound.reports (sound : Sound p pc h) :
    (pc = .unlisten ∨ pc = .returned) ∧ (∃ v, h.reports = [v]) ∨ h.reports = [] := by
  cases pc with
  | decide => exact .inr sound.2.2.2.1
  | deadline | guard | wait | prePublish | tryClaim | stamp | publish | tiebreak | tiebreakSelect =>
    exact .inr sound.1.reports
  | publishFailed => exact .inr sound.choose_spec.1.reports
  | beaten => exact .inr sound.choose_spec.2.1
  | verdict | verdictSelect => exact .inr sound.1.choose_spec.reports
  | report | panicked => exact .inr sound.1
  | unlisten => exact .inl ⟨.inl rfl, sound.imp fun _ reported => reported.1⟩
  | returned => exact .inl ⟨.inr rfl, sound.imp fun _ reported => reported.1⟩

variable {v : Report} {d : Decision} {rival c : Claim} {l : Listener} {m : Message}

theorem Sound.grounds (sound : Sound p pc h) (reported : v ∈ h.reports) : Grounds p h v := by
  rcases sound.reports with ⟨rfl | rfl, -⟩ | none
  · obtain ⟨only, reports, grounds, -⟩ := sound
    rw [reports, List.mem_singleton] at reported
    exact reported ▸ grounds
  · obtain ⟨only, reports, grounds, -⟩ := sound
    rw [reports, List.mem_singleton] at reported
    exact reported ▸ grounds
  · simp [none] at reported

theorem Sound.report_unique (sound : Sound p pc h) {v' : Report} (first : v ∈ h.reports)
    (second : v' ∈ h.reports) : v = v' := by
  rcases sound.reports with ⟨-, only, one⟩ | none
  · rw [one, List.mem_singleton] at first second
    rw [first, second]
  · simp [none] at first

theorem Unbeaten.hear (unbeaten : Unbeaten p d r.past) (worse : isBetter rival d p.nodeID = false)
    (rest : Chan Claim) : Unbeaten p d (r.hear rival rest).past := by
  intro c heard
  simp only [Round.hear, List.mem_append, List.mem_singleton] at heard
  rcases heard with old | rfl
  · exact unbeaten c old
  · exact worse

theorem unbeaten_of_heard_nil (none : h.heard = []) : Unbeaten p d h := by
  intro c heard
  simp [none] at heard

theorem grounds_failure {reason : String} (decided : h.decision = some d) (sent : h.sent = []) :
    Grounds p h (.failure reason) := by
  exact ⟨d, reason, decided, rfl, .inl sent⟩

theorem grounds_lost (decided : h.decision = some d) (heard : rival ∈ h.heard)
    (free : h.holds = false) (sent : h.sent = []) : Grounds p h (.lostTo rival) := by
  exact ⟨d, rival, decided, heard, rfl, free, .inl sent⟩

theorem Grounds.claim (grounds : Grounds p h v) (decided : h.decision = some d)
    (published : h.sent = [c]) : ∃ t, c = p.claimAt d t := by
  have same :
      ∀ d' t, h.decision = some d' → h.sent = [p.claimAt d' t] → ∃ t, c = p.claimAt d t := by
    intro d' t decided' sent
    rw [decided, Option.some.injEq] at decided'
    rw [published, List.singleton_inj] at sent
    exact ⟨t, decided' ▸ sent⟩
  unfold Grounds at grounds
  split at grounds
  · obtain ⟨d', t, decided', -, sent, -⟩ := grounds
    exact same d' t decided' sent
  · obtain ⟨d', rival, decided', -, -, -, unsent | ⟨⟨t, sent⟩, -⟩⟩ := grounds
    · simp [published] at unsent
    · exact same d' t decided' sent
  · obtain ⟨d', reason, decided', -, unsent | ⟨-, t, sent⟩⟩ := grounds
    · simp [published] at unsent
    · exact same d' t decided' sent

theorem report_sound {gossiped : Bool} (silent : r.past.reports = [])
    (grounds : Grounds p r.past v) :
    Sound p (r.report p now slot v gossiped).round.pc
      (r.report p now slot v gossiped).round.past := by
  unfold Round.report
  cases verdict : v.outcome with
  | won => simpa [Sound, silent, Grounds, verdict, Unbeaten] using grounds
  | lost | failed => simpa [Sound, silent, Grounds, verdict] using grounds

theorem Move.sound (move : Move p now slot r choice e) (sound : Sound p r.pc r.past) :
    Sound p e.round.pc e.round.past := by
  obtain ⟨pc, listener, cancelled, past⟩ := r
  cases move with
  | decide here =>
    cases here
    obtain ⟨-, heard, sent, reports, holds⟩ := sound
    exact ⟨⟨rfl, sent, reports⟩, heard, holds⟩
  | deadline here | sleep here | windowOpen here =>
    cases here
    exact ⟨sound.1, sound.2⟩
  | ineligible here | stepAside here =>
    cases here
    exact ⟨⟨_, sound.1⟩, sound.2.2⟩
  | contend here eligible free =>
    cases here
    exact ⟨sound.1, sound.2.1, sound.2.2, eligible⟩
  | due here | preTimer here =>
    cases here
    exact ⟨sound.1, unbeaten_of_heard_nil sound.2.1, sound.2.2⟩
  | preCancelled here | preFailure here | preDeadline here =>
    cases here
    exact ⟨sound.1.reports, grounds_failure sound.1.decision sound.1.sent⟩
  | preFailureNil here | preClaimNil here =>
    cases here
    exact ⟨sound.1.reports, .inl sound.1.sent⟩
  | preLost here received better =>
    cases here
    exact ⟨sound.1.reports, grounds_lost sound.1.decision (by simp [Round.hear]) sound.2.2.1
      sound.1.sent⟩
  | @preWorse d deadline rival rest here received worse =>
    cases here
    obtain ⟨undecided, heard, holds, eligible⟩ := sound
    exact ⟨{ undecided with }, (unbeaten_of_heard_nil heard).hear worse rest, holds, eligible⟩
  | slotTaken here taken =>
    cases here
    exact ⟨⟨_, sound.1⟩, sound.2.2.1⟩
  | slotWon here free =>
    cases here
    obtain ⟨undecided, unbeaten, -, eligible⟩ := sound
    exact ⟨⟨undecided.decision, eligible, unbeaten, undecided.reports, rfl⟩, undecided.sent⟩
  | stamp here =>
    cases here
    exact ⟨sound.1, sound.2, now, rfl⟩
  | published here =>
    cases here
    obtain ⟨holding, sent, t, rfl⟩ := sound
    exact ⟨{ holding with }, t, congrArg (· ++ _) sent⟩
  | publishError here =>
    cases here
    exact ⟨_, sound.1, sound.2.1⟩
  | publishFailed here =>
    cases here
    obtain ⟨d, holding, sent⟩ := sound
    exact ⟨holding.reports, grounds_failure holding.decision sent⟩
  | windowOver here | tieTimer here =>
    cases here
    obtain ⟨holding, t, sent⟩ := sound
    exact ⟨holding.reports, _, t, holding.decision, rfl, sent, holding.unbeaten, holding.holds⟩
  | tieCancelled here cancelled =>
    cases here
    exact ⟨sound.1.reports, _, _, sound.1.decision, rfl, .inr ⟨rfl, sound.2⟩⟩
  | tieClaimNil here received =>
    cases here
    exact ⟨sound.1.reports, .inr sound.1.holds⟩
  | tieLost here received better =>
    cases here
    obtain ⟨holding, published⟩ := sound
    exact ⟨_, holding.decision, holding.reports, holding.holds, by simp [Round.hear], better,
      published⟩
  | @tieWorse d tiebreakDeadline rival rest here received worse =>
    cases here
    obtain ⟨holding, published⟩ := sound
    exact ⟨{ holding with unbeaten := holding.unbeaten.hear worse rest }, published⟩
  | beaten here =>
    cases here
    obtain ⟨d, decided, reports, -, heard, better, published⟩ := sound
    exact ⟨reports, d, _, decided, heard, rfl, rfl, .inr ⟨published, better⟩⟩
  | verdictOver here | verdictCancelled here | verdictClosed here | verdictFailure here
  | verdictTimer here =>
    cases here
    obtain ⟨⟨d, undecided⟩, -⟩ := sound
    exact ⟨undecided.reports, grounds_failure undecided.decision undecided.sent⟩
  | verdictOpen here | verdictAgain here =>
    cases here
    exact sound
  | verdictLost here received =>
    cases here
    obtain ⟨⟨d, undecided⟩, free⟩ := sound
    exact ⟨undecided.reports,
      grounds_lost undecided.decision (by simp [Round.hear]) free undecided.sent⟩
  | report here =>
    cases here
    exact report_sound sound.1 sound.2
  | unlisten here =>
    cases here
    exact sound

def waiting (r : Round) : Bool :=
  match r.pc with
  | .report _ | .beaten _ | .unlisten | .returned => false
  | _ => true

theorem Move.waiting (move : Move p now slot r choice e) (after : e.round.waiting = true) :
    r.waiting = true := by
  cases move
  case report | beaten | unlisten => simp [Round.waiting] at after
  all_goals simp [Round.waiting, *]

structure Listening (l : Listener) : Prop where
  notClosed : l.closed = false
  claimsOpen : l.claims.closed = false
  failuresOpen : l.failures.closed = false
  room : 0 < l.claims.cap

theorem Listening.dispatch (listening : Listening l) (m : Message) : Listening (l.dispatch m) := by
  cases m with
  | claim c =>
    simp only [Listener.dispatch, Listener.dispatchClaim, listening.notClosed,
      Bool.false_eq_true, if_false]
    exact ⟨rfl, by simpa using listening.claimsOpen, listening.failuresOpen,
      by simpa using listening.room⟩
  | failed f =>
    simp only [Listener.dispatch, Listener.dispatchFailure, listening.notClosed,
      Bool.false_eq_true, if_false]
    exact ⟨rfl, listening.claimsOpen, by simpa using listening.failuresOpen, listening.room⟩

theorem Move.listening (move : Move p now slot r choice e)
    (listening : r.pc ≠ .returned → Listening r.listener) (running : e.round.pc ≠ .returned) :
    Listening e.round.listener := by
  have before : Listening r.listener := by
    refine listening fun ended => ?_
    cases move <;> simp_all
  cases move
  case preFailure received | verdictFailure received | preLost received _ | preWorse received _
      | tieLost received _ | tieWorse received _ | verdictLost received =>
    obtain ⟨-, rfl⟩ := Chan.recv_value received
    exact { before with }
  case report verdict gossiped here _ => simpa using before
  case unlisten => exact absurd rfl running
  all_goals exact before

theorem Move.failures (move : Move p now slot r choice e)
    (waiting : e.round.listener.failures.buf ≠ []) : r.listener.failures.buf ≠ [] := by
  cases move
  case preFailure received | verdictFailure received => simp [(Chan.recv_value received).1]
  case report verdict gossiped here _ => simpa using waiting
  case unlisten here =>
    simp only [Listener.close] at waiting
    split at waiting <;> simpa using waiting
  all_goals exact waiting

def Reached (r : Round) (c : Claim) : Prop := c ∈ r.past.heard ∨ c ∈ r.listener.claims.buf

theorem mem_dispatch (waiting : c ∈ (l.dispatch m).claims.buf) :
    c ∈ l.claims.buf ∨ m = .claim c := by
  cases m with
  | claim sent =>
    simp only [Listener.dispatch, Listener.dispatchClaim] at waiting
    split at waiting
    · exact .inl waiting
    · rcases Chan.mem_trySend waiting with old | rfl
      · exact .inl old
      · exact .inr rfl
  | failed f =>
    simp only [Listener.dispatch, Listener.dispatchFailure] at waiting
    split at waiting <;> exact .inl waiting

theorem reached_dispatch (reached : Reached { r with listener :=r.listener.dispatch m } c) :
    r.Reached c ∨ m = .claim c := by
  rcases reached with heard | waiting
  · exact .inl (.inl heard)
  · exact (mem_dispatch waiting).imp_left .inr

theorem reached_close {c : Claim} :
    Reached { r with listener := r.listener.close } c ↔ r.Reached c := by
  simp [Reached, Listener.close, apply_ite]

theorem reached_hear {rest : Chan Claim}
    (received : r.listener.claims.recv = some (.value rival rest)) :
    (r.hear rival rest).Reached c ↔ r.Reached c := by
  obtain ⟨held, -⟩ := Chan.recv_value received
  simp [Reached, hear, held, or_assoc]

theorem Move.reached (move : Move p now slot r choice e) (c : Claim) :
    e.round.Reached c ↔ r.Reached c := by
  cases move
  case preLost received _ | preWorse received _ | tieLost received _ | tieWorse received _
      | verdictLost received => exact reached_hear received
  case report verdict gossiped here _ => simp [Reached]
  case unlisten => unfold Listener.close; simp only [Reached]; split <;> rfl
  all_goals rfl

theorem Move.sent (move : Move p now slot r choice e) :
    (e.round.past.sent = r.past.sent ∧ ∀ c, e.out ≠ some (.claim c)) ∨
      ∃ d c t, r.pc = .publish d c t ∧ choice = .published ∧
        e.round.past.sent = r.past.sent ++ [c] ∧ e.out = some (.claim c) := by
  cases move
  case published here => exact .inr ⟨_, _, _, here, rfl, rfl, rfl⟩
  case report verdict gossiped here _ =>
    refine .inl ⟨by simp, fun c out => ?_⟩
    have failed := (report_out _ _ _ _ _ _ out).2
    cases failed
  all_goals left; simp [Round.hear, Round.drain]

theorem Move.out_failed (move : Move p now slot r choice e) {f : ElectionFailed}
    (out : e.out = some (.failed f)) : ∃ v, r.pc = .report v ∧ v.outcome = .failed := by
  cases move
  case report verdict gossiped here _ => exact ⟨verdict, here, (report_out _ _ _ _ _ _ out).1⟩
  all_goals cases out

structure Faithful (p : RoundParams) (h : History) : Prop where
  decision : ∀ d, h.decision = some d → ∃ s, d = p.decide s
  sent : ∀ c ∈ h.sent, ∃ d t, h.decision = some d ∧ d.eligible = true ∧ c = p.claimAt d t

section

variable (move : Move p now slot r choice e)
include move

theorem Move.decision :
    e.round.past.decision = r.past.decision ∨
      r.pc = .decide ∧ e.round.past.decision = some (p.decide now) := by
  cases move
  case decide here => exact .inr ⟨here, rfl⟩
  case report verdict gossiped here _ => exact .inl (by simp)
  all_goals exact .inl rfl

theorem Move.faithful (sound : Sound p r.pc r.past) (faithful : Faithful p r.past) :
    Faithful p e.round.past := by
  rcases move.decision with same | ⟨here, decided⟩
  · refine ⟨fun d decided => faithful.decision d (same ▸ decided), fun c sent => ?_⟩
    rcases move.sent with ⟨kept, -⟩ | ⟨d, claim, deadline, here, -, grown, -⟩
    · rw [same]
      exact faithful.sent c (kept ▸ sent)
    · simp only [Sound, here] at sound
      obtain ⟨holding, unsent, t, built⟩ := sound
      rw [grown, unsent, List.nil_append, List.mem_singleton] at sent
      rw [same]
      exact ⟨d, t, holding.decision, holding.eligible, sent ▸ built⟩
  · simp only [Sound, here] at sound
    obtain ⟨-, -, unsent, -, -⟩ := sound
    refine ⟨fun d decided' => ⟨now, ?_⟩, fun c sent => ?_⟩
    · rw [decided, Option.some.injEq] at decided'
      exact decided'.symm
    · rcases move.sent with ⟨kept, -⟩ | ⟨d, claim, deadline, elsewhere, -⟩
      · simp [kept, unsent] at sent
      · simp [here] at elsewhere

theorem Move.reserves (taken : e.slot = true) :
    slot = true ∨ ∃ d deadline, r.pc = .tryClaim d deadline := by
  cases move
  case slotWon here _ => exact .inr ⟨_, _, here⟩
  case publishFailed here => cases taken
  case beaten here => cases taken
  case report verdict gossiped here _ =>
    unfold Round.report at taken
    split at taken
    · exact .inl taken
    · exact .inl taken
    · cases taken
  all_goals exact .inl taken

/-- What a move does to the slot and to the round's hold on it. -/
theorem Move.holds :
    (e.slot = slot ∧ e.round.past.holds = r.past.holds) ∨
      (slot = false ∧ e.slot = true ∧ e.round.past.holds = true) ∨
      (e.slot = false ∧ e.round.past.holds = false ∧
        ((∃ rival, r.pc = .beaten rival) ∨ (∃ err, r.pc = .publishFailed err) ∨
          ∃ v, r.pc = .report v ∧ v.outcome = .failed)) := by
  cases move
  case slotWon here free => exact .inr (.inl ⟨free, rfl, rfl⟩)
  case publishFailed here => exact .inr (.inr ⟨rfl, rfl, .inr (.inl ⟨_, here⟩)⟩)
  case beaten here => exact .inr (.inr ⟨rfl, rfl, .inl ⟨_, here⟩⟩)
  case report verdict gossiped here _ =>
    unfold Round.report
    cases outcome : verdict.outcome with
    | won | lost => exact .inl ⟨rfl, rfl⟩
    | failed => exact .inr (.inr ⟨rfl, rfl, .inr (.inr ⟨verdict, here, outcome⟩)⟩)
  all_goals exact .inl ⟨rfl, rfl⟩

theorem Move.cut (cut : e.round.past.cut = true) :
    r.past.cut = true ∨ r.cancelled = true := by
  cases move
  case preCancelled cancelled | tieCancelled cancelled | verdictCancelled cancelled =>
    exact .inr cancelled
  case report verdict gossiped here _ => exact .inl (by simpa using cut)
  all_goals exact .inl cut

theorem Move.cancelled : e.round.cancelled = r.cancelled := by
  cases move
  case report verdict gossiped here _ => simp
  all_goals rfl

end

end Round

end Falak.Election
