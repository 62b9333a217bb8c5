import Falak.Election.Listener
import Falak.Election.Tiebreak

/-! One election round, as the instructions between its blocking points and shared accesses. -/

namespace Falak.Election

variable (r : Round) (slot : Bool) (p : RoundParams) (now : Int)

structure RoundParams where
  nodeID : String
  req : Request
  decide : Int → Decision
  timeout : Int
  tiebreakWindow : Int

inductive Pc
  /-- The listener is registered and the strategy is asked next. -/
  | decide
  | deadline (decision : Decision)
  /-- Eligibility and the local claim flag are checked next. -/
  | guard (decision : Decision) (deadline : Int)
  | wait (decision : Decision) (deadline : Int)
  /-- Blocked in the select before publishing. -/
  | prePublish (decision : Decision) (deadline : Int)
  /-- The local claim slot is reserved next. -/
  | tryClaim (decision : Decision) (deadline : Int)
  /-- The publish time is read and the claim is built next. -/
  | stamp (decision : Decision)
  | publish (decision : Decision) (claim : Claim) (tiebreakDeadline : Int)
  | publishFailed (err : String)
  | tiebreak (decision : Decision) (tiebreakDeadline : Int)
  | tiebreakSelect (decision : Decision) (tiebreakDeadline : Int)
  | beaten (rival : Claim)
  /-- At the head of the loop of `waitForRemoteVerdict`. -/
  | verdict (deadline : Int)
  /-- Blocked in the select of `waitForRemoteVerdict`. -/
  | verdictSelect (deadline : Int)
  | report (verdict : Report)
  | unlisten
  | returned
  /-- A nil message was dereferenced. -/
  | panicked
  deriving DecidableEq, Repr

inductive Choice
  | go
  | ctxDone
  | failure
  | claim
  | timer
  | deadlineTimer
  | published
  | publishError (err : String)
  | unheard
  deriving DecidableEq, Repr

/-- What a round has done so far, which no instruction reads. -/
structure History where
  decision : Option Decision
  heard : List Claim
  sent : List Claim
  reports : List Report
  holds : Bool
  /-- Whether the round gave up because its context was cancelled. -/
  cut : Bool
  deriving DecidableEq, Repr

structure Round where
  pc : Pc
  listener : Listener
  cancelled : Bool
  past : History

structure Effect where
  round : Round
  slot : Bool
  out : Option Message

def Round.init (listener : Listener) : Round :=
  { pc := .decide
    listener := listener
    cancelled := false
    past := ⟨none, [], [], [], false, false⟩ }

def Round.goto (pc : Pc) : Option Effect :=
  some ⟨{ r with pc := pc }, slot, none⟩

def Round.hear (rival : Claim) (rest : Chan Claim) : Round :=
  { r with listener.claims := rest, past.heard := r.past.heard ++ [rival] }

def Round.drain (rest : Chan ElectionFailed) : Round :=
  { r with listener.failures := rest }

def Report.failure (reason : String) : Report := ⟨.failed, "", 0, reason⟩

def Round.abandon : Option Effect :=
  if r.cancelled then
    some ⟨{ r with pc := .report (.failure "context cancelled"), past.cut := true }, slot, none⟩
  else none

def Report.lostTo (rival : Claim) : Report := ⟨.lost, rival.nodeID, rival.gravityScore, ""⟩

def Report.wonBy (d : Decision) : Report := ⟨.won, p.nodeID, d.score, ""⟩

def RoundParams.claimAt (d : Decision) (publishedAt : Int) : Claim :=
  { capsuleID := p.req.capsuleID
    replicaID := p.req.replicaID
    clusterPath := p.req.clusterPath
    nodeID := p.nodeID
    gravityScore := d.score
    timestampMicros := unixMicro publishedAt }

def RoundParams.failureAt (reason : String) (now : Int) : ElectionFailed :=
  { capsuleID := p.req.capsuleID
    replicaID := p.req.replicaID
    clusterPath := p.req.clusterPath
    senderID := p.nodeID
    reason := reason
    timestampMicros := unixMicro now }

def Round.report (slot : Bool) (r : Round) (verdict : Report) (gossiped : Bool) : Effect :=
  let done := { r with pc := .unlisten, past.reports := r.past.reports ++ [verdict] }
  match verdict.outcome with
  | .won => ⟨done, slot, none⟩
  | .lost => ⟨done, slot, none⟩
  | .failed =>
    ⟨{ done with past.holds := false }, false,
      if gossiped then some (.failed (p.failureAt verdict.reason now)) else none⟩

def Round.step (slot : Bool) (r : Round) (choice : Choice) :
    Option Effect :=
  match r.pc, choice with
  | .decide, .go =>
    some ⟨{ r with pc := .deadline (p.decide now), past.decision := some (p.decide now) }, slot,
      none⟩
  | .deadline d, .go => r.goto slot (.guard d (now + p.timeout))
  | .guard d deadline, .go =>
    if !d.eligible then r.goto slot (.verdict deadline)
    else if slot then r.goto slot (.verdict deadline)
    else r.goto slot (.wait d deadline)
  | .wait d deadline, .go =>
    if d.publishAt - now > 0 then r.goto slot (.prePublish d deadline)
    else r.goto slot (.tryClaim d deadline)
  | .prePublish _ _, .ctxDone => r.abandon slot
  | .prePublish _ _, .failure =>
    match r.listener.failures.recv with
    | none => none
    | some .zero => r.goto slot .panicked
    | some (.value f rest) =>
      (r.drain rest).goto slot (.report (.failure ("remote failure: " ++ f.reason)))
  | .prePublish d deadline, .claim =>
    match r.listener.claims.recv with
    | none => none
    | some .zero => r.goto slot .panicked
    | some (.value rival rest) =>
      if isBetter rival d p.nodeID then (r.hear rival rest).goto slot (.report (.lostTo rival))
      else (r.hear rival rest).goto slot (.tryClaim d deadline)
  | .prePublish d deadline, .timer =>
    if d.publishAt ≤ now then r.goto slot (.tryClaim d deadline) else none
  | .prePublish _ deadline, .deadlineTimer =>
    if deadline ≤ now then r.goto slot (.report (.failure "election timeout")) else none
  | .tryClaim d deadline, .go =>
    if slot then r.goto slot (.verdict deadline)
    else some ⟨{ r with pc := .stamp d, past.holds := true }, true, none⟩
  | .stamp d, .go => r.goto slot (.publish d (p.claimAt d now) (now + p.tiebreakWindow))
  | .publish d claim tiebreakDeadline, .published =>
    some ⟨{ r with pc := .tiebreak d tiebreakDeadline, past.sent := r.past.sent ++ [claim] }, slot,
      some (.claim claim)⟩
  | .publish _ _ _, .publishError err => r.goto slot (.publishFailed err)
  | .publishFailed err, .go =>
    some ⟨{ r with pc := .report (.failure ("publish failed: " ++ err)), past.holds := false },
      false, none⟩
  | .tiebreak d tiebreakDeadline, .go =>
    if tiebreakDeadline - now ≤ 0 then r.goto slot (.report (.wonBy p d))
    else r.goto slot (.tiebreakSelect d tiebreakDeadline)
  | .tiebreakSelect _ _, .ctxDone => r.abandon slot
  | .tiebreakSelect d tiebreakDeadline, .claim =>
    match r.listener.claims.recv with
    | none => none
    | some .zero => r.goto slot .panicked
    | some (.value rival rest) =>
      if isBetter rival d p.nodeID then (r.hear rival rest).goto slot (.beaten rival)
      else (r.hear rival rest).goto slot (.tiebreak d tiebreakDeadline)
  | .tiebreakSelect d tiebreakDeadline, .timer =>
    if tiebreakDeadline ≤ now then r.goto slot (.report (.wonBy p d)) else none
  | .beaten rival, .go =>
    some ⟨{ r with pc := .report (.lostTo rival), past.holds := false }, false, none⟩
  | .verdict deadline, .go =>
    if deadline - now ≤ 0 then
      r.goto slot (.report (.failure "election timeout (no claim heard)"))
    else r.goto slot (.verdictSelect deadline)
  | .verdictSelect _, .ctxDone => r.abandon slot
  | .verdictSelect _, .claim =>
    match r.listener.claims.recv with
    | none => none
    | some .zero => r.goto slot (.report (.failure "claim channel closed"))
    | some (.value rival rest) => (r.hear rival rest).goto slot (.report (.lostTo rival))
  | .verdictSelect deadline, .failure =>
    match r.listener.failures.recv with
    | none => none
    | some .zero => r.goto slot (.verdict deadline)
    | some (.value f rest) =>
      (r.drain rest).goto slot (.report (.failure ("remote failure: " ++ f.reason)))
  | .verdictSelect deadline, .timer =>
    if deadline ≤ now then
      r.goto slot (.report (.failure "election timeout (no claim heard)"))
    else none
  | .report verdict, .go => some (r.report p now slot verdict true)
  | .report verdict, .unheard => some (r.report p now slot verdict false)
  | .unlisten, .go =>
    some ⟨{ r with pc := .returned, listener := r.listener.close }, slot, none⟩
  | _, _ => none

end Falak.Election
