import Falak.Election.Round

/-! Every way a round can move, said once, so that no later proof unfolds the step function. -/

namespace Falak.Election.Round

inductive Move (p : RoundParams) (now : Int) (slot : Bool) (r : Round) : Choice → Effect → Prop
  | decide (here : r.pc = .decide) :
      Move p now slot r .go
        ⟨{ r with pc := .deadline (p.decide now), past.decision := some (p.decide now) }, slot,
          none⟩
  | deadline {d : Decision} (here : r.pc = .deadline d) :
      Move p now slot r .go ⟨{ r with pc := .guard d (now + p.timeout) }, slot, none⟩
  | ineligible {d : Decision} {deadline : Int} (here : r.pc = .guard d deadline)
      (not : d.eligible = false) :
      Move p now slot r .go ⟨{ r with pc := .verdict deadline }, slot, none⟩
  | stepAside {d : Decision} {deadline : Int} (here : r.pc = .guard d deadline)
      (eligible : d.eligible = true) (taken : slot = true) :
      Move p now slot r .go ⟨{ r with pc := .verdict deadline }, slot, none⟩
  | contend {d : Decision} {deadline : Int} (here : r.pc = .guard d deadline)
      (eligible : d.eligible = true) (free : slot = false) :
      Move p now slot r .go ⟨{ r with pc := .wait d deadline }, slot, none⟩
  | sleep {d : Decision} {deadline : Int} (here : r.pc = .wait d deadline)
      (early : now < d.publishAt) :
      Move p now slot r .go ⟨{ r with pc := .prePublish d deadline }, slot, none⟩
  | due {d : Decision} {deadline : Int} (here : r.pc = .wait d deadline)
      (late : d.publishAt ≤ now) :
      Move p now slot r .go ⟨{ r with pc := .tryClaim d deadline }, slot, none⟩
  | preCancelled {d : Decision} {deadline : Int} (here : r.pc = .prePublish d deadline)
      (cancelled : r.cancelled = true) :
      Move p now slot r .ctxDone
        ⟨{ r with pc := .report (.failure "context cancelled"), past.cut := true }, slot, none⟩
  | preFailureNil {d : Decision} {deadline : Int} (here : r.pc = .prePublish d deadline)
      (received : r.listener.failures.recv = some .zero) :
      Move p now slot r .failure ⟨{ r with pc := .panicked }, slot, none⟩
  | preFailure {d : Decision} {deadline : Int} {f : ElectionFailed} {rest : Chan ElectionFailed}
      (here : r.pc = .prePublish d deadline)
      (received : r.listener.failures.recv = some (.value f rest)) :
      Move p now slot r .failure
        ⟨{ r.drain rest with pc := .report (.failure ("remote failure: " ++ f.reason)) }, slot,
          none⟩
  | preClaimNil {d : Decision} {deadline : Int} (here : r.pc = .prePublish d deadline)
      (received : r.listener.claims.recv = some .zero) :
      Move p now slot r .claim ⟨{ r with pc := .panicked }, slot, none⟩
  | preLost {d : Decision} {deadline : Int} {rival : Claim} {rest : Chan Claim}
      (here : r.pc = .prePublish d deadline)
      (received : r.listener.claims.recv = some (.value rival rest))
      (better : isBetter rival d p.nodeID = true) :
      Move p now slot r .claim
        ⟨{ r.hear rival rest with pc := .report (.lostTo rival) }, slot, none⟩
  | preWorse {d : Decision} {deadline : Int} {rival : Claim} {rest : Chan Claim}
      (here : r.pc = .prePublish d deadline)
      (received : r.listener.claims.recv = some (.value rival rest))
      (worse : isBetter rival d p.nodeID = false) :
      Move p now slot r .claim ⟨{ r.hear rival rest with pc := .tryClaim d deadline }, slot, none⟩
  | preTimer {d : Decision} {deadline : Int} (here : r.pc = .prePublish d deadline)
      (fired : d.publishAt ≤ now) :
      Move p now slot r .timer ⟨{ r with pc := .tryClaim d deadline }, slot, none⟩
  | preDeadline {d : Decision} {deadline : Int} (here : r.pc = .prePublish d deadline)
      (fired : deadline ≤ now) :
      Move p now slot r .deadlineTimer
        ⟨{ r with pc := .report (.failure "election timeout") }, slot, none⟩
  | slotTaken {d : Decision} {deadline : Int} (here : r.pc = .tryClaim d deadline)
      (taken : slot = true) :
      Move p now slot r .go ⟨{ r with pc := .verdict deadline }, slot, none⟩
  | slotWon {d : Decision} {deadline : Int} (here : r.pc = .tryClaim d deadline)
      (free : slot = false) :
      Move p now slot r .go ⟨{ r with pc := .stamp d, past.holds := true }, true, none⟩
  | stamp {d : Decision} (here : r.pc = .stamp d) :
      Move p now slot r .go
        ⟨{ r with pc := .publish d (p.claimAt d now) (now + p.tiebreakWindow) }, slot, none⟩
  | published {d : Decision} {claim : Claim} {tiebreakDeadline : Int}
      (here : r.pc = .publish d claim tiebreakDeadline) :
      Move p now slot r .published
        ⟨{ r with pc := .tiebreak d tiebreakDeadline, past.sent := r.past.sent ++ [claim] }, slot,
          some (.claim claim)⟩
  | publishError {d : Decision} {claim : Claim} {tiebreakDeadline : Int} {err : String}
      (here : r.pc = .publish d claim tiebreakDeadline) :
      Move p now slot r (.publishError err) ⟨{ r with pc := .publishFailed err }, slot, none⟩
  | publishFailed {err : String} (here : r.pc = .publishFailed err) :
      Move p now slot r .go
        ⟨{ r with pc := .report (.failure ("publish failed: " ++ err)), past.holds := false },
          false, none⟩
  | windowOver {d : Decision} {tiebreakDeadline : Int} (here : r.pc = .tiebreak d tiebreakDeadline)
      (passed : tiebreakDeadline ≤ now) :
      Move p now slot r .go ⟨{ r with pc := .report (.wonBy p d) }, slot, none⟩
  | windowOpen {d : Decision} {tiebreakDeadline : Int} (here : r.pc = .tiebreak d tiebreakDeadline)
      (left : now < tiebreakDeadline) :
      Move p now slot r .go ⟨{ r with pc := .tiebreakSelect d tiebreakDeadline }, slot, none⟩
  | tieCancelled {d : Decision} {tiebreakDeadline : Int}
      (here : r.pc = .tiebreakSelect d tiebreakDeadline) (cancelled : r.cancelled = true) :
      Move p now slot r .ctxDone
        ⟨{ r with pc := .report (.failure "context cancelled"), past.cut := true }, slot, none⟩
  | tieClaimNil {d : Decision} {tiebreakDeadline : Int}
      (here : r.pc = .tiebreakSelect d tiebreakDeadline)
      (received : r.listener.claims.recv = some .zero) :
      Move p now slot r .claim ⟨{ r with pc := .panicked }, slot, none⟩
  | tieLost {d : Decision} {tiebreakDeadline : Int} {rival : Claim} {rest : Chan Claim}
      (here : r.pc = .tiebreakSelect d tiebreakDeadline)
      (received : r.listener.claims.recv = some (.value rival rest))
      (better : isBetter rival d p.nodeID = true) :
      Move p now slot r .claim ⟨{ r.hear rival rest with pc := .beaten rival }, slot, none⟩
  | tieWorse {d : Decision} {tiebreakDeadline : Int} {rival : Claim} {rest : Chan Claim}
      (here : r.pc = .tiebreakSelect d tiebreakDeadline)
      (received : r.listener.claims.recv = some (.value rival rest))
      (worse : isBetter rival d p.nodeID = false) :
      Move p now slot r .claim
        ⟨{ r.hear rival rest with pc := .tiebreak d tiebreakDeadline }, slot, none⟩
  | tieTimer {d : Decision} {tiebreakDeadline : Int}
      (here : r.pc = .tiebreakSelect d tiebreakDeadline) (fired : tiebreakDeadline ≤ now) :
      Move p now slot r .timer ⟨{ r with pc := .report (.wonBy p d) }, slot, none⟩
  | beaten {rival : Claim} (here : r.pc = .beaten rival) :
      Move p now slot r .go
        ⟨{ r with pc := .report (.lostTo rival), past.holds := false }, false, none⟩
  | verdictOver {deadline : Int} (here : r.pc = .verdict deadline) (passed : deadline ≤ now) :
      Move p now slot r .go
        ⟨{ r with pc := .report (.failure "election timeout (no claim heard)") }, slot, none⟩
  | verdictOpen {deadline : Int} (here : r.pc = .verdict deadline) (left : now < deadline) :
      Move p now slot r .go ⟨{ r with pc := .verdictSelect deadline }, slot, none⟩
  | verdictCancelled {deadline : Int} (here : r.pc = .verdictSelect deadline)
      (cancelled : r.cancelled = true) :
      Move p now slot r .ctxDone
        ⟨{ r with pc := .report (.failure "context cancelled"), past.cut := true }, slot, none⟩
  | verdictClosed {deadline : Int} (here : r.pc = .verdictSelect deadline)
      (received : r.listener.claims.recv = some .zero) :
      Move p now slot r .claim
        ⟨{ r with pc := .report (.failure "claim channel closed") }, slot, none⟩
  | verdictLost {deadline : Int} {rival : Claim} {rest : Chan Claim}
      (here : r.pc = .verdictSelect deadline)
      (received : r.listener.claims.recv = some (.value rival rest)) :
      Move p now slot r .claim
        ⟨{ r.hear rival rest with pc := .report (.lostTo rival) }, slot, none⟩
  | verdictAgain {deadline : Int} (here : r.pc = .verdictSelect deadline)
      (received : r.listener.failures.recv = some .zero) :
      Move p now slot r .failure ⟨{ r with pc := .verdict deadline }, slot, none⟩
  | verdictFailure {deadline : Int} {f : ElectionFailed} {rest : Chan ElectionFailed}
      (here : r.pc = .verdictSelect deadline)
      (received : r.listener.failures.recv = some (.value f rest)) :
      Move p now slot r .failure
        ⟨{ r.drain rest with pc := .report (.failure ("remote failure: " ++ f.reason)) }, slot,
          none⟩
  | verdictTimer {deadline : Int} (here : r.pc = .verdictSelect deadline)
      (fired : deadline ≤ now) :
      Move p now slot r .timer
        ⟨{ r with pc := .report (.failure "election timeout (no claim heard)") }, slot, none⟩
  | report {verdict : Report} {choice : Choice} {gossiped : Bool} (here : r.pc = .report verdict)
      (way : choice = if gossiped then .go else .unheard) :
      Move p now slot r choice (r.report p now slot verdict gossiped)
  | unlisten (here : r.pc = .unlisten) :
      Move p now slot r .go ⟨{ r with pc := .returned, listener := r.listener.close }, slot, none⟩

section

variable (p : RoundParams) (now : Int) (slot : Bool) (r : Round) (v : Report) (gossiped : Bool)

@[simp] theorem report_round :
    (r.report p now slot v gossiped).round.pc = .unlisten ∧
      (r.report p now slot v gossiped).round.past.reports = r.past.reports ++ [v] ∧
      (r.report p now slot v gossiped).round.past.decision = r.past.decision ∧
      (r.report p now slot v gossiped).round.past.sent = r.past.sent ∧
      (r.report p now slot v gossiped).round.past.heard = r.past.heard ∧
      (r.report p now slot v gossiped).round.past.cut = r.past.cut ∧
      (r.report p now slot v gossiped).round.listener = r.listener ∧
      (r.report p now slot v gossiped).round.cancelled = r.cancelled := by
  unfold report
  split <;> simp

theorem report_out {m : Message} (out : (r.report p now slot v gossiped).out = some m) :
    v.outcome = .failed ∧ m = .failed (p.failureAt v.reason now) := by
  unfold report at out
  cases outcome : v.outcome with
  | won | lost => simp [outcome] at out
  | failed =>
    cases gossiped with
    | false => simp [outcome] at out
    | true => exact ⟨rfl, by simpa [outcome] using out.symm⟩

end

section

variable {p : RoundParams} {now : Int} {slot : Bool} {r : Round} {choice : Choice} {e : Effect}

theorem step_move (stepped : r.step p now slot choice = some e) : Move p now slot r choice e := by
  cases here : r.pc with
  | decide =>
    cases choice <;> simp [step, here] at stepped
    subst stepped; exact .decide here
  | deadline d =>
    cases choice <;> simp [step, goto, here] at stepped
    subst stepped; exact .deadline here
  | guard d deadline =>
    cases choice <;> simp [step, goto, here] at stepped
    split at stepped
    · cases stepped; exact .ineligible here ‹_›
    · split at stepped
      · cases stepped; exact .stepAside here (by simp_all) ‹_›
      · cases stepped; exact .contend here (by simp_all) (by simp_all)
  | wait d deadline =>
    cases choice <;> simp [step, goto, here] at stepped
    split at stepped
    · cases stepped; exact .sleep here ‹_›
    · cases stepped; exact .due here (Int.not_lt.mp ‹_›)
  | prePublish d deadline =>
    cases choice <;> simp [step, goto, abandon, here] at stepped
    case ctxDone => obtain ⟨cancelled, rfl⟩ := stepped; exact .preCancelled here cancelled
    case failure =>
      split at stepped
      · cases stepped
      · cases stepped; exact .preFailureNil here ‹_›
      · cases stepped; exact .preFailure here ‹_›
    case claim =>
      split at stepped
      · cases stepped
      · cases stepped; exact .preClaimNil here ‹_›
      · split at stepped
        · cases stepped; exact .preLost here ‹_› ‹_›
        · cases stepped; exact .preWorse here ‹_› (by simp_all)
    case timer => obtain ⟨fired, rfl⟩ := stepped; exact .preTimer here fired
    case deadlineTimer => obtain ⟨fired, rfl⟩ := stepped; exact .preDeadline here fired
  | tryClaim d deadline =>
    cases choice <;> simp [step, goto, here] at stepped
    split at stepped
    · cases stepped; exact .slotTaken here ‹_›
    · cases stepped; exact .slotWon here (by simp_all)
  | stamp d =>
    cases choice <;> simp [step, goto, here] at stepped
    subst stepped; exact .stamp here
  | publish d claim tiebreakDeadline =>
    cases choice <;> simp [step, goto, here] at stepped
    case published => subst stepped; exact .published here
    case publishError => subst stepped; exact .publishError here
  | publishFailed err =>
    cases choice <;> simp [step, here] at stepped
    subst stepped; exact .publishFailed here
  | tiebreak d tiebreakDeadline =>
    cases choice <;> simp [step, goto, here] at stepped
    split at stepped
    · cases stepped; exact .windowOver here ‹_›
    · cases stepped; exact .windowOpen here (Int.not_le.mp ‹_›)
  | tiebreakSelect d tiebreakDeadline =>
    -- The second select has no case for failures.
    cases choice <;> simp [step, goto, abandon, here] at stepped
    case ctxDone => obtain ⟨cancelled, rfl⟩ := stepped; exact .tieCancelled here cancelled
    case claim =>
      split at stepped
      · cases stepped
      · cases stepped; exact .tieClaimNil here ‹_›
      · split at stepped
        · cases stepped; exact .tieLost here ‹_› ‹_›
        · cases stepped; exact .tieWorse here ‹_› (by simp_all)
    case timer => obtain ⟨fired, rfl⟩ := stepped; exact .tieTimer here fired
  | beaten rival =>
    cases choice <;> simp [step, here] at stepped
    subst stepped; exact .beaten here
  | verdict deadline =>
    cases choice <;> simp [step, goto, here] at stepped
    split at stepped
    · cases stepped; exact .verdictOver here ‹_›
    · cases stepped; exact .verdictOpen here (Int.not_le.mp ‹_›)
  | verdictSelect deadline =>
    cases choice <;> simp [step, goto, abandon, here] at stepped
    case ctxDone => obtain ⟨cancelled, rfl⟩ := stepped; exact .verdictCancelled here cancelled
    case failure =>
      split at stepped
      · cases stepped
      · cases stepped; exact .verdictAgain here ‹_›
      · cases stepped; exact .verdictFailure here ‹_›
    case claim =>
      split at stepped
      · cases stepped
      · cases stepped; exact .verdictClosed here ‹_›
      · cases stepped; exact .verdictLost here ‹_›
    case timer => obtain ⟨fired, rfl⟩ := stepped; exact .verdictTimer here fired
  | report verdict =>
    cases choice <;> simp [step, here] at stepped
    all_goals subst stepped; exact .report here rfl
  | unlisten =>
    cases choice <;> simp [step, here] at stepped
    subst stepped; exact .unlisten here
  | returned | panicked => cases choice <;> simp [step, here] at stepped

theorem Move.step (move : Move p now slot r choice e) : r.step p now slot choice = some e := by
  cases move
  case report verdict gossiped here way => cases gossiped <;> simp [Round.step, here, way]
  all_goals simp_all [Round.step, goto, abandon]

end

end Falak.Election.Round
