import Falak.Election.LocalClaim
import Falak.Election.Prompt

/-!
Several nodes that answer for several slots of one capsule, each at a planned time of its own.

The nodes are listed from the highest score to the lowest, so the node of an index is the one that
the slot of the same index is meant for.
-/

namespace Falak.Election

variable {n k : Nat}

abbrev Seat (n k : Nat) := Fin n × Fin k

def Seat.Own (x : Seat n k) : Prop := x.1.val = x.2.val

instance (x : Seat n k) : Decidable x.Own := inferInstanceAs (Decidable (_ = _))

variable {x : Seat n k} {t timeout now : Int} {plan : Seat n k → Int} {p : Seat n k → RoundParams}
  {slot : Bool} {r : Round} {choice : Choice} {e : Effect}

theorem Seat.Own.unique {y : Seat n k} (first : x.Own) (second : y.Own) (slot : x.2 = y.2) :
    x = y := by
  obtain ⟨a, i⟩ := x
  obtain ⟨b, j⟩ := y
  simp only [Own] at first second slot
  simp only [Prod.mk.injEq]
  omega

structure Staggered (p : Seat n k → RoundParams) (t timeout window : Int) (plan : Seat n k → Int) :
    Prop where
  node : ∀ x y, (p x).nodeID = (p y).nodeID ↔ x.1 = y.1
  capsule : ∀ x y, (p x).req.capsuleID = (p y).req.capsuleID
  cluster : ∀ x y, (p x).req.clusterPath = (p y).req.clusterPath
  replica : ∀ x y, (p x).req.replicaID = (p y).req.replicaID ↔ x.2 = y.2
  deadline : ∀ x, (p x).timeout = timeout
  tiebreak : ∀ x, (p x).tiebreakWindow = window
  eligible : ∀ x, ((p x).decide t).eligible = true
  publishAt : ∀ x, ((p x).decide t).publishAt = plan x
  better : ∀ x y, x.1 < y.1 → ((p y).decide t).score < ((p x).decide t).score
  nodeOrder : ∀ x y, x.1 < y.1 → x.2 = y.2 → plan x < plan y
  slotOrder : ∀ x y, x.1 = y.1 → x.2 < y.2 → plan x < plan y
  notBefore : ∀ x, t ≤ plan x
  inTime : ∀ x, plan x < t + timeout

namespace Staggered

variable {p : Seat n k → RoundParams} {t timeout window : Int} {plan : Seat n k → Int}

theorem shares_iff (staggered : Staggered p t timeout window plan) (x y : Seat n k) :
    Cluster.Shares p x y ↔ x.1 = y.1 := by
  simp [Cluster.Shares, staggered.node, staggered.capsule x y]

theorem addressed_iff (staggered : Staggered p t timeout window plan) (x y : Seat n k) :
    Cluster.addressed p x y = true ↔ x.1 ≠ y.1 ∧ x.2 = y.2 := by
  simp [Cluster.addressed, staggered.node, staggered.capsule x y, staggered.cluster x y,
    staggered.replica]

end Staggered

def opens (t timeout : Int) (plan : Seat n k → Int) (i : Fin k) : Int :=
  if here : i.val < n then plan (⟨i.val, here⟩, i) else t + timeout

theorem opens_own {y : Seat n k} (own : y.Own) : opens t timeout plan y.2 = plan y := by
  simp only [Seat.Own] at own
  simp [opens, ← own]

theorem opens_vacant {i : Fin k} (vacant : ∀ y : Seat n k, y.Own → y.2 ≠ i) :
    opens t timeout plan i = t + timeout := by
  unfold opens
  split
  · rename_i here
    exact absurd rfl (vacant (⟨i.val, here⟩, i) rfl)
  · rfl

theorem own_or_vacant (n : Nat) (i : Fin k) :
    (∃ y : Seat n k, y.Own ∧ y.2 = i) ∨ ∀ y : Seat n k, y.Own → y.2 ≠ i := by
  by_cases here : i.val < n
  · exact .inl ⟨(⟨i.val, here⟩, i), rfl, rfl⟩
  · refine .inr fun y own same => here ?_
    simp only [Seat.Own, same] at own
    omega

section

variable (p : Seat n k → RoundParams) (t timeout window : Int) (plan : Seat n k → Int)

def seatClaim (y : Seat n k) : Claim := (p y).claimAt ((p y).decide t) (plan y)

inductive Verdict (x : Seat n k) : Report → Prop
  | won (own : x.Own) : Verdict x (.wonBy (p x) ((p x).decide t))
  | lost {y : Seat n k} (other : ¬ x.Own) (own : y.Own) (slot : y.2 = x.2) :
      Verdict x (.lostTo (seatClaim p t plan y))
  | failed {reason : String} (vacant : ∀ y : Seat n k, y.Own → y.2 ≠ x.2) :
      Verdict x (.failure reason)

structure Done (x : Seat n k) (now : Int) (v : Report) (h : History) : Prop where
  verdict : Verdict p t plan x v
  sent : h.sent = if x.Own then [seatClaim p t plan x] else []
  holds : h.holds = decide x.Own
  opened : opens t timeout plan x.2 ≤ now

def settledBy (x : Seat n k) : Int :=
  if x.Own then plan x + max 0 window else opens t timeout plan x.2

def Place (x : Seat n k) (now : Int) (pc : Pc) (h : History) : Prop :=
  match pc with
  | .decide => now = t
  | .deadline d => d = (p x).decide t ∧ now = t
  | .guard d deadline => d = (p x).decide t ∧ deadline = t + timeout ∧ now = t
  | .wait d deadline => d = (p x).decide t ∧ deadline = t + timeout ∧ now = t
  | .prePublish d deadline =>
    d = (p x).decide t ∧ deadline = t + timeout ∧ now ≤ plan x ∧ now ≤ opens t timeout plan x.2
  | .tryClaim d deadline =>
    d = (p x).decide t ∧ deadline = t + timeout ∧ now = plan x ∧ x.1.val ≤ x.2.val
  | .stamp d => x.Own ∧ d = (p x).decide t ∧ now = plan x
  | .publish d c tiebreakDeadline =>
    x.Own ∧ d = (p x).decide t ∧ c = seatClaim p t plan x ∧
      tiebreakDeadline = plan x + window ∧ now = plan x
  | .tiebreak d tiebreakDeadline =>
    x.Own ∧ d = (p x).decide t ∧ tiebreakDeadline = plan x + window ∧ plan x ≤ now ∧
      now ≤ settledBy t timeout window plan x ∧ h.sent = [seatClaim p t plan x]
  | .tiebreakSelect d tiebreakDeadline =>
    x.Own ∧ d = (p x).decide t ∧ tiebreakDeadline = plan x + window ∧ plan x ≤ now ∧
      now ≤ settledBy t timeout window plan x ∧ h.sent = [seatClaim p t plan x]
  | .verdict deadline => x.1.val < x.2.val ∧ deadline = t + timeout ∧ now ≤ plan x
  | .verdictSelect deadline =>
    x.1.val < x.2.val ∧ deadline = t + timeout ∧ now ≤ opens t timeout plan x.2
  | .report v => Done p t timeout plan x now v h ∧ now ≤ settledBy t timeout window plan x
  | .unlisten => (∃ v, h.reports = [v] ∧ Done p t timeout plan x now v h) ∧
      now ≤ settledBy t timeout window plan x
  | .returned => ∃ v, h.reports = [v] ∧ Done p t timeout plan x now v h
  | _ => False

structure Sees (x : Seat n k) (now : Int) (slot : Bool) (r : Round) : Prop where
  live : r.cancelled = false
  claimsOpen : r.pc ≠ .returned → r.listener.claims.closed = false
  failuresOpen : r.pc ≠ .returned → r.listener.failures.closed = false
  claims : ∀ c ∈ r.listener.claims.buf, ¬ x.Own ∧
    ∃ y : Seat n k, y.Own ∧ y.2 = x.2 ∧ c = seatClaim p t plan y ∧ plan y ≤ now
  failures : r.listener.failures.buf ≠ [] →
    (∀ y : Seat n k, y.Own → y.2 ≠ x.2) ∧ t + timeout ≤ now
  taken : now < t + timeout → slot = true →
    ∃ y : Seat n k, y.Own ∧ y.1 = x.1 ∧ plan y ≤ now ∧ (y = x → r.past.holds = true)
  reserved : now < t + timeout →
    (∃ y : Seat n k, y.Own ∧ y.1 = x.1 ∧ plan y < now) → slot = true

end

namespace Staggered

variable {p : Seat n k → RoundParams} {t timeout window : Int} {plan : Seat n k → Int}

theorem opens_range (staggered : Staggered p t timeout window plan) (x : Seat n k) :
    t ≤ opens t timeout plan x.2 ∧ opens t timeout plan x.2 ≤ t + timeout := by
  have start := staggered.notBefore x
  have stop := staggered.inTime x
  rcases own_or_vacant n x.2 with ⟨y, own, slot⟩ | vacant
  · have start := staggered.notBefore y
    have stop := staggered.inTime y
    rw [← slot, opens_own own]
    omega
  · rw [opens_vacant vacant]
    omega

variable {x : Seat n k}

section

variable (staggered : Staggered p t timeout window plan)
include staggered

theorem plan_lt_opens (above : x.1.val < x.2.val) : plan x < opens t timeout plan x.2 := by
  rcases own_or_vacant n x.2 with ⟨y, own, slot⟩ | vacant
  · rw [← slot, opens_own own]
    refine staggered.nodeOrder x y ?_ slot.symm
    simp only [Seat.Own, slot] at own
    exact Fin.lt_def.mpr (own ▸ above)
  · rw [opens_vacant vacant]
    exact staggered.inTime x

theorem opens_lt_plan (below : x.2.val < x.1.val) : opens t timeout plan x.2 < plan x := by
  rcases own_or_vacant n x.2 with ⟨y, own, slot⟩ | vacant
  · rw [← slot, opens_own own]
    refine staggered.nodeOrder y x ?_ slot
    simp only [Seat.Own, slot] at own
    exact Fin.lt_def.mpr (own ▸ below)
  · exact absurd rfl (vacant (⟨x.2.val, by omega⟩, x.2) rfl)

theorem not_below (waits : plan x ≤ opens t timeout plan x.2) : x.1.val ≤ x.2.val := by
  by_contra below
  have := staggered.opens_lt_plan (Nat.not_le.mp below)
  omega

theorem above_of_taken {y : Seat n k} (own : y.Own) (node : y.1 = x.1) (early : plan y ≤ plan x)
    (other : y ≠ x) : x.1.val < x.2.val := by
  rcases Nat.lt_trichotomy x.2.val y.2.val with before | same | after
  · have := staggered.slotOrder x y node.symm (Fin.lt_def.mpr before)
    omega
  · exact absurd (Prod.ext node (Fin.ext same.symm)) other
  · simp only [Seat.Own] at own
    omega

theorem own_before (above : x.1.val < x.2.val) :
    ∃ y : Seat n k, y.Own ∧ y.1 = x.1 ∧ plan y < plan x := by
  refine ⟨(x.1, ⟨x.1.val, by omega⟩), rfl, rfl, ?_⟩
  exact staggered.slotOrder _ _ rfl (Fin.lt_def.mpr above)

theorem claim_better {y : Seat n k} {now : Int} (other : ¬ x.Own) (own : y.Own) (slot : y.2 = x.2)
    (claimed : plan y ≤ now) (waits : now ≤ plan x) :
    isBetter (seatClaim p t plan y) ((p x).decide t) (p x).nodeID = true := by
  rcases Nat.lt_trichotomy x.1.val y.1.val with above | same | below
  · have := staggered.nodeOrder x y (Fin.lt_def.mpr above) slot.symm
    omega
  · exact absurd (Prod.ext (Fin.ext same) slot.symm ▸ own) other
  · exact isBetter_of_gt (staggered.better y x (Fin.lt_def.mpr below))

end

end Staggered

section

variable {p : Seat n k → RoundParams} {t timeout window : Int} {plan : Seat n k → Int}
  {x : Seat n k} {now : Int} {v : Report} {h : History}

theorem Done.claimed (done : Done p t timeout plan x now v h) (own : x.Own) : plan x ≤ now := by
  have opened := done.opened
  rwa [opens_own own] at opened

theorem lost_of_claim {y : Seat n k} (other : ¬ x.Own) (own : y.Own) (slot : y.2 = x.2)
    (claimed : plan y ≤ now) (sent : h.sent = []) (holds : h.holds = false)
    (waits : now ≤ opens t timeout plan x.2) :
    Place p t timeout window plan x now (.report (.lostTo (seatClaim p t plan y))) h := by
  refine ⟨⟨.lost other own slot, by simp [other, sent], by simp [other, holds], ?_⟩, ?_⟩
  · rw [← slot, opens_own own]
    exact claimed
  · rwa [settledBy, if_neg other]

theorem failed_of_vacant {reason : String} (vacant : ∀ y : Seat n k, y.Own → y.2 ≠ x.2)
    (late : t + timeout ≤ now) (sent : h.sent = []) (holds : h.holds = false)
    (waits : now ≤ opens t timeout plan x.2) :
    Place p t timeout window plan x now (.report (.failure reason)) h := by
  have other : ¬ x.Own := fun own => vacant x own rfl
  refine ⟨⟨.failed vacant, by simp [other, sent], by simp [other, holds], ?_⟩, ?_⟩
  · rw [opens_vacant vacant]
    exact late
  · rwa [settledBy, if_neg other]

theorem done_of_window (own : x.Own) (claimed : plan x ≤ now)
    (sent : h.sent = [seatClaim p t plan x]) (holds : h.holds = true) :
    Done p t timeout plan x now (.wonBy (p x) ((p x).decide t)) h := by
  refine ⟨.won own, by simp [own, sent], by simp [own, holds], ?_⟩
  rw [opens_own own]
  exact claimed

theorem done_report {slot gossiped : Bool} {r : Round}
    (done : Done p t timeout plan x now v r.past) :
    Done p t timeout plan x now v (r.report (p x) now slot v gossiped).round.past := by
  obtain ⟨verdict, sent, holds, opened⟩ := done
  cases verdict with
  | won own => exact ⟨.won own, sent, holds, opened⟩
  | lost other own same => exact ⟨.lost other own same, sent, holds, opened⟩
  | failed vacant =>
    have other : ¬ x.Own := fun own => vacant x own rfl
    exact ⟨.failed vacant, sent, by simp [Round.report, Report.failure, other], opened⟩

end

theorem Sees.read {rival : Claim} {rest : Chan Claim} (sees : Sees p t timeout plan x now slot r)
    (received : r.listener.claims.recv = some (.value rival rest)) :
    ¬ x.Own ∧ ∃ y : Seat n k, y.Own ∧ y.2 = x.2 ∧ rival = seatClaim p t plan y ∧ plan y ≤ now := by
  refine sees.claims rival ?_
  rw [(Chan.recv_value received).1]
  exact List.mem_cons_self

theorem Sees.heard {f : ElectionFailed} {rest : Chan ElectionFailed}
    (sees : Sees p t timeout plan x now slot r)
    (received : r.listener.failures.recv = some (.value f rest)) :
    (∀ y : Seat n k, y.Own → y.2 ≠ x.2) ∧ t + timeout ≤ now :=
  sees.failures (by simp [(Chan.recv_value received).1])

theorem Round.Move.place {window : Int} (staggered : Staggered p t timeout window plan)
    (move : Move (p x) now slot r choice e) (sound : Sound (p x) r.pc r.past)
    (sees : Sees p t timeout plan x now slot r) (published : ∀ err, choice ≠ .publishError err)
    (place : Place p t timeout window plan x now r.pc r.past) :
    Place p t timeout window plan x now e.round.pc e.round.past := by
  have start := staggered.notBefore x
  have stop := staggered.inTime x
  have range := staggered.opens_range x
  obtain ⟨pc, listener, cancelled, past⟩ := r
  cases move with
  | decide here =>
    cases here
    exact ⟨by rw [place], place⟩
  | deadline here =>
    cases here
    obtain ⟨rfl, rfl⟩ := place
    exact ⟨rfl, by rw [staggered.deadline x], rfl⟩
  | ineligible here not =>
    cases here
    rw [place.1, staggered.eligible x] at not
    cases not
  | stepAside here _ taken =>
    cases here
    obtain ⟨rfl, deadline, rfl⟩ := place
    obtain ⟨y, own, node, early, holder⟩ := sees.taken (by omega) taken
    have other : y ≠ x := fun same => nomatch sound.2.2.symm.trans (holder same)
    exact ⟨staggered.above_of_taken own node (by omega) other, deadline, start⟩
  | contend here | windowOpen here =>
    cases here
    exact place
  | sleep here before =>
    cases here
    obtain ⟨rfl, deadline, rfl⟩ := place
    exact ⟨rfl, deadline, start, range.1⟩
  | due here late =>
    cases here
    obtain ⟨rfl, deadline, rfl⟩ := place
    rw [staggered.publishAt x] at late
    exact ⟨rfl, deadline, by omega, staggered.not_below (by omega)⟩
  | preCancelled _ cancelled | tieCancelled _ cancelled | verdictCancelled _ cancelled =>
    cases sees.live.symm.trans cancelled
  | preFailureNil here received | verdictAgain here received =>
    cases here
    cases (sees.failuresOpen nofun).symm.trans (Chan.recv_zero received).2
  | preFailure here received =>
    cases here
    obtain ⟨-, -, waits, -⟩ := place
    have late := (sees.heard received).2
    omega
  | preClaimNil here received | tieClaimNil here received | verdictClosed here received =>
    cases here
    cases (sees.claimsOpen nofun).symm.trans (Chan.recv_zero received).2
  | preLost here received better =>
    cases here
    obtain ⟨other, y, own, same, rfl, claimed⟩ := sees.read received
    exact lost_of_claim other own same claimed sound.1.sent sound.2.2.1 place.2.2.2
  | preWorse here received worse =>
    cases here
    obtain ⟨other, y, own, same, rfl, claimed⟩ := sees.read received
    rw [place.1, staggered.claim_better other own same claimed place.2.2.1] at worse
    cases worse
  | preTimer here fired =>
    cases here
    obtain ⟨rfl, deadline, waits, opened⟩ := place
    rw [staggered.publishAt x] at fired
    exact ⟨rfl, deadline, by omega, staggered.not_below (by omega)⟩
  | preDeadline here fired =>
    cases here
    obtain ⟨-, rfl, waits, -⟩ := place
    omega
  | verdictOver here passed =>
    cases here
    obtain ⟨-, rfl, waits⟩ := place
    omega
  | slotTaken here taken =>
    cases here
    obtain ⟨rfl, deadline, rfl, -⟩ := place
    obtain ⟨y, own, node, early, holder⟩ := sees.taken stop taken
    have other : y ≠ x := fun same => nomatch sound.2.2.1.symm.trans (holder same)
    exact ⟨staggered.above_of_taken own node early other, deadline, Int.le_refl _⟩
  | slotWon here free =>
    cases here
    obtain ⟨rfl, -, rfl, order⟩ := place
    refine ⟨?_, rfl, rfl⟩
    by_contra other
    simp only [Seat.Own] at other
    have taken := sees.reserved stop (staggered.own_before (by omega))
    simp [free] at taken
  | stamp here =>
    cases here
    obtain ⟨own, rfl, rfl⟩ := place
    exact ⟨own, rfl, rfl, by rw [staggered.tiebreak x], rfl⟩
  | published here =>
    cases here
    obtain ⟨own, rfl, rfl, tiebreakDeadline, rfl⟩ := place
    refine ⟨own, rfl, tiebreakDeadline, Int.le_refl _, ?_, congrArg (· ++ _) sound.2.1⟩
    rw [settledBy, if_pos own]
    omega
  | publishError here => exact absurd rfl (published _)
  | publishFailed here | beaten here =>
    cases here
    exact place.elim
  | windowOver here | tieTimer here =>
    cases here
    obtain ⟨own, rfl, -, claimed, onTime, sent⟩ := place
    exact ⟨done_of_window own claimed sent sound.1.holds, onTime⟩
  | tieLost here received | tieWorse here received =>
    cases here
    exact absurd place.1 (sees.read received).1
  | verdictOpen here left =>
    cases here
    obtain ⟨above, deadline, waits⟩ := place
    have := staggered.plan_lt_opens above
    exact ⟨above, deadline, by omega⟩
  | verdictLost here received =>
    cases here
    obtain ⟨⟨d, undecided⟩, free⟩ := sound
    obtain ⟨other, y, own, same, rfl, claimed⟩ := sees.read received
    exact lost_of_claim other own same claimed undecided.sent free place.2.2
  | verdictFailure here received =>
    cases here
    obtain ⟨⟨d, undecided⟩, free⟩ := sound
    obtain ⟨vacant, late⟩ := sees.heard received
    exact failed_of_vacant vacant late undecided.sent free place.2.2
  | verdictTimer here fired =>
    cases here
    obtain ⟨⟨d, undecided⟩, free⟩ := sound
    obtain ⟨above, rfl, waits⟩ := place
    rcases own_or_vacant n x.2 with ⟨y, own, same⟩ | vacant
    · have := staggered.inTime y
      rw [← same, opens_own own] at waits
      omega
    · exact failed_of_vacant vacant fired undecided.sent free waits
  | @report v _ gossiped here way =>
    cases here
    rw [(report_round ..).1]
    refine ⟨⟨v, ?_, done_report place.1⟩, place.2⟩
    rw [(report_round ..).2.1, sound.1, List.nil_append]
  | unlisten here =>
    cases here
    exact place.1

theorem Round.Move.claims_kept {window : Int} (staggered : Staggered p t timeout window plan)
    (move : Move (p x) now slot r choice e) (sees : Sees p t timeout plan x now slot r)
    (place : Place p t timeout window plan x now r.pc r.past) (other : ¬ x.Own)
    (waiting : e.round.waiting = true) : e.round.listener.claims = r.listener.claims := by
  cases move
  case preLost => simp [Round.waiting] at waiting
  case preWorse here received worse =>
    simp only [Place, here] at place
    obtain ⟨-, y, own, same, rfl, claimed⟩ := sees.read received
    rw [place.1, staggered.claim_better other own same claimed place.2.2.1] at worse
    cases worse
  case tieLost => simp [Round.waiting] at waiting
  case tieWorse here _ _ =>
    simp only [Place, here] at place
    exact absurd place.1 other
  case verdictLost => simp [Round.waiting] at waiting
  case report => simp
  case unlisten => simp [Round.waiting] at waiting
  all_goals rfl

end Falak.Election
