import Falak.Election.RoundMoves

/-! When a round lets time pass: its next step waits for an event or a timer. -/

namespace Falak.Election.Round

def quiet (r : Round) : Bool :=
  !r.cancelled && r.listener.claims.recv.isNone && r.listener.failures.recv.isNone

def idle (p : RoundParams) (latency : Int) (r : Round) (later : Int) : Bool :=
  match r.pc with
  | .prePublish d deadline => r.quiet && later ≤ d.publishAt && later ≤ deadline
  | .publish _ _ tiebreakDeadline => later ≤ tiebreakDeadline - p.tiebreakWindow + latency
  | .tiebreakSelect _ tiebreakDeadline =>
    !r.cancelled && r.listener.claims.recv.isNone && later ≤ tiebreakDeadline
  | .verdictSelect deadline => r.quiet && later ≤ deadline
  | .returned => true
  | .panicked => true
  | _ => false

def stage (now : Int) : Pc → Nat
  | .decide => 14
  | .deadline _ => 13
  | .guard _ _ => 12
  | .wait _ _ => 11
  | .prePublish d _ => if now < d.publishAt then 10 else 9
  | .tryClaim _ _ => 8
  | .stamp _ => 7
  | .publish _ _ _ => 6
  | .publishFailed _ => 3
  | .tiebreak _ _ => 5
  | .tiebreakSelect _ tiebreakDeadline => if now < tiebreakDeadline then 4 else 3
  | .beaten _ => 3
  | .verdict _ => 5
  | .verdictSelect deadline => if now < deadline then 4 else 3
  | .report _ => 2
  | .unlisten => 1
  | .returned => 0
  | .panicked => 0

theorem stage_mono {now later : Int} (after : now ≤ later) (pc : Pc) :
    stage later pc ≤ stage now pc := by
  cases pc with
  | prePublish | tiebreakSelect | verdictSelect =>
    simp only [stage]
    split <;> split <;> omega
  | _ => exact Nat.le_refl _

/-- Whether the next instruction of a round waits for nothing. -/
def proceeds : Pc → Bool
  | .prePublish _ _ | .tiebreakSelect _ _ | .verdictSelect _ | .unlisten | .returned
  | .panicked => false
  | _ => true

variable {p : RoundParams} {now : Int} {slot : Bool} {r : Round}

theorem exists_turn (p : RoundParams) (now : Int) (slot : Bool) (turn : proceeds r.pc = true) :
    ∃ choice e, Move p now slot r choice e ∧ (∀ err, choice ≠ .publishError err) ∧
      (choice = .go → ∀ v, r.pc ≠ .report v) ∧ e.round.listener = r.listener ∧
      stage now e.round.pc < stage now r.pc := by
  cases here : r.pc with
  | decide => exact ⟨_, _, .decide here, by simp, by simp, rfl, by simp [stage]⟩
  | deadline d => exact ⟨_, _, .deadline here, by simp, by simp, rfl, by simp [stage]⟩
  | guard d deadline =>
    cases eligible : d.eligible with
    | false => exact ⟨_, _, .ineligible here eligible, by simp, by simp, rfl, by simp [stage]⟩
    | true =>
      cases slot with
      | true => exact ⟨_, _, .stepAside here eligible rfl, by simp, by simp, rfl, by simp [stage]⟩
      | false => exact ⟨_, _, .contend here eligible rfl, by simp, by simp, rfl, by simp [stage]⟩
  | wait d deadline =>
    by_cases early : now < d.publishAt
    · exact ⟨_, _, .sleep here early, by simp, by simp, rfl, by simp [stage, early]⟩
    · exact ⟨_, _, .due here (by omega), by simp, by simp, rfl, by simp [stage]⟩
  | tryClaim d deadline =>
    cases slot with
    | true => exact ⟨_, _, .slotTaken here rfl, by simp, by simp, rfl, by simp [stage]⟩
    | false => exact ⟨_, _, .slotWon here rfl, by simp, by simp, rfl, by simp [stage]⟩
  | stamp d => exact ⟨_, _, .stamp here, by simp, by simp, rfl, by simp [stage]⟩
  | publish d claim tiebreakDeadline =>
    exact ⟨_, _, .published here, by simp, by simp, rfl, by simp [stage]⟩
  | publishFailed err => exact ⟨_, _, .publishFailed here, by simp, by simp, rfl, by simp [stage]⟩
  | tiebreak d tiebreakDeadline =>
    by_cases left : now < tiebreakDeadline
    · exact ⟨_, _, .windowOpen here left, by simp, by simp, rfl, by simp [stage, left]⟩
    · exact ⟨_, _, .windowOver here (by omega), by simp, by simp, rfl, by simp [stage]⟩
  | beaten rival => exact ⟨_, _, .beaten here, by simp, by simp, rfl, by simp [stage]⟩
  | verdict deadline =>
    by_cases left : now < deadline
    · exact ⟨_, _, .verdictOpen here left, by simp, by simp, rfl, by simp [stage, left]⟩
    · exact ⟨_, _, .verdictOver here (by omega), by simp, by simp, rfl, by simp [stage]⟩
  | report verdict =>
    have silent : Move p now slot r .unheard (r.report p now slot verdict false) :=
      .report here rfl
    exact ⟨_, _, silent, by simp, by simp, by simp, by simp [stage]⟩
  | _ => simp [proceeds, here] at turn

def distance (now : Int) (r : Round) : Nat := 3 * r.listener.claims.buf.length + stage now r.pc

theorem length_hear {rival : Claim} {rest : Chan Claim}
    (received : r.listener.claims.recv = some (.value rival rest)) :
    (r.hear rival rest).listener.claims.buf.length + 1 = r.listener.claims.buf.length := by
  rw [(Chan.recv_value received).1]
  rfl

theorem ready (latency : Int) (live : r.cancelled = false)
    (claimsOpen : r.listener.claims.closed = false)
    (failuresOpen : r.listener.failures.closed = false)
    (inTime : ∀ d deadline, r.pc = .prePublish d deadline → d.publishAt ≤ deadline)
    (running : r.pc ≠ .returned) (alive : r.pc ≠ .panicked) :
    (∃ choice e, (∀ err, choice ≠ .publishError err) ∧ Move p now slot r choice e ∧
      e.round.distance now < r.distance now ∧
      (stage now e.round.pc < stage now r.pc ∨ ∃ d tiebreakDeadline rival rest,
        r.pc = .tiebreakSelect d tiebreakDeadline ∧
        r.listener.claims.recv = some (.value rival rest))) ∨
    ∃ timer, now < timer ∧ (∀ later ≤ timer, r.idle p latency later = true) ∧
      stage timer r.pc < stage now r.pc := by
  have heard {rival : Claim} {rest : Chan Claim} {pc : Pc}
      (received : r.listener.claims.recv = some (.value rival rest))
      (near : stage now pc < stage now r.pc + 3) :
      ({ r.hear rival rest with pc := pc } : Round).distance now < r.distance now := by
    have shorter := length_hear received
    simp only [distance]
    omega
  have claims := Chan.recv_of_open claimsOpen
  have failures := Chan.recv_of_open failuresOpen
  cases here : r.pc with
  | prePublish d deadline =>
    have inTime := inTime d deadline here
    have far : 8 < stage now (.prePublish d deadline) := by
      simp only [stage]
      split <;> omega
    have near : 2 < stage now (.prePublish d deadline) := by omega
    rcases claims with unread | ⟨rival, rest, received⟩
    · rcases failures with quiet | ⟨f, rest, received⟩
      · by_cases before : now < d.publishAt
        · refine .inr ⟨d.publishAt, before, fun later onTime => ?_, by simp [stage, before]⟩
          simp only [idle, here, Round.quiet, live, unread, quiet, Option.isNone_none,
            Bool.not_false, Bool.and_true, Bool.true_and, Bool.and_eq_true, decide_eq_true_eq]
          omega
        · exact .inl ⟨_, _, by simp, .preTimer here (by omega),
            by simp [distance, stage, here, before], .inl (by simp [stage, before])⟩
      · refine .inl ⟨_, _, by simp, .preFailure here received, ?_, .inl near⟩
        exact Nat.add_lt_add_left (here ▸ near) _
    · cases better : isBetter rival d p.nodeID with
      | true =>
        exact .inl ⟨_, _, by simp, .preLost here received better,
          heard received (here ▸ Nat.lt_add_right 3 near), .inl near⟩
      | false =>
        exact .inl ⟨_, _, by simp, .preWorse here received better,
          heard received (here ▸ Nat.lt_add_right 3 far), .inl far⟩
  | tiebreakSelect d tiebreakDeadline =>
    have near : 5 < stage now (.tiebreakSelect d tiebreakDeadline) + 3 := by
      simp only [stage]
      split <;> omega
    have least : 3 < stage now (.tiebreakSelect d tiebreakDeadline) + 3 := by omega
    rcases claims with unread | ⟨rival, rest, received⟩
    · by_cases left : now < tiebreakDeadline
      · refine .inr ⟨tiebreakDeadline, left, fun later onTime => ?_, by simp [stage, left]⟩
        simp [idle, here, live, unread, onTime]
      · exact .inl ⟨_, _, by simp, .tieTimer here (by omega),
          by simp [distance, stage, here, left], .inl (by simp [stage, left])⟩
    · cases better : isBetter rival d p.nodeID with
      | true =>
        exact .inl ⟨_, _, by simp, .tieLost here received better, heard received (here ▸ least),
          .inr ⟨d, _, rival, rest, rfl, received⟩⟩
      | false =>
        exact .inl ⟨_, _, by simp, .tieWorse here received better, heard received (here ▸ near),
          .inr ⟨d, _, rival, rest, rfl, received⟩⟩
  | verdictSelect deadline =>
    have near : 2 < stage now (.verdictSelect deadline) := by
      simp only [stage]
      split <;> omega
    rcases claims with unread | ⟨rival, rest, received⟩
    · rcases failures with quiet | ⟨f, rest, received⟩
      · by_cases left : now < deadline
        · refine .inr ⟨deadline, left, fun later onTime => ?_, by simp [stage, left]⟩
          simp [idle, here, Round.quiet, live, unread, quiet, onTime]
        · exact .inl ⟨_, _, by simp, .verdictTimer here (by omega),
            by simp [distance, stage, here, left], .inl (by simp [stage, left])⟩
      · refine .inl ⟨_, _, by simp, .verdictFailure here received, ?_, .inl near⟩
        exact Nat.add_lt_add_left (here ▸ near) _
    · exact .inl ⟨_, _, by simp, .verdictLost here received,
        heard received (here ▸ Nat.lt_add_right 3 near), .inl near⟩
  | unlisten =>
    refine .inl ⟨_, _, by simp, .unlisten here, ?_, .inl (by simp [stage])⟩
    simp only [distance, here, stage, Listener.close]
    split <;> simp
  | returned => exact absurd here running
  | panicked => exact absurd here alive
  | _ =>
    obtain ⟨choice, e, move, succeeds, -, same, closer⟩ :=
      exists_turn p now slot (r := r) (by simp [here, proceeds])
    rw [here] at closer
    refine .inl ⟨choice, e, succeeds, move, ?_, .inl closer⟩
    simpa [distance, same, here] using closer

end Falak.Election.Round
