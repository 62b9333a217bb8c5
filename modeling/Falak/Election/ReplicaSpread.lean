import Falak.Election.DelayLaws
import Falak.Election.SpreadProgress

/-! The delay strategy spreads the replicas of a capsule over the best nodes, one for each. -/

namespace Falak.Election

variable {n k : Nat}

structure DelayElection (n k : Nat) where
  strategy : DelayStrategy
  nodeID : Fin n → String
  score : Fin n → Score
  capsuleID : CapsuleID
  clusterPath : String
  timeout : Int
  tiebreakWindow : Int
  random : Seat n k → Option (Fin (2 ^ 64))

namespace DelayElection

/-- The round of a node for a slot, decided by the delay strategy. -/
def round (e : DelayElection n k) (x : Seat n k) : RoundParams :=
  let req : Request := ⟨e.capsuleID, replicaSlotID x.2.val, e.clusterPath⟩
  { nodeID := e.nodeID x.1
    req := req
    decide := e.strategy.decide (.ok ⟨e.score x.1, true, ⟨.ok, ""⟩⟩) req (e.random x)
    timeout := e.timeout
    tiebreakWindow := e.tiebreakWindow }

def wait (e : DelayElection n k) (x : Seat n k) : Int :=
  waitForScore (e.score x.1) e.strategy.maxWait + x.2.val * e.strategy.replicaStagger

structure Spreads (e : DelayElection n k) : Prop where
  nodes : Function.Injective e.nodeID
  scores : ∀ a b, a < b → e.score b < e.score a
  waits : Function.Injective fun a => waitForScore (e.score a) e.strategy.maxWait
  maxWait : 0 ≤ e.strategy.maxWait
  stagger : 0 < e.strategy.replicaStagger
  jitter : ∀ x, jitter e.strategy.maxJitter (e.random x) = 0
  inTime : ∀ x, e.wait x < e.timeout
  fits : e.timeout < 2 ^ 63

theorem Spreads.decide {e : DelayElection n k} (spreads : e.Spreads) (x : Seat n k) (t : Int) :
    (e.round x).decide t = ⟨true, e.score x.1, t + e.wait x, "delay strategy: eligible"⟩ := by
  have inTime := spreads.inTime x
  have fits := spreads.fits
  simp only [wait] at inTime
  exact e.strategy.decide_eligible spreads.maxWait spreads.stagger (spreads.jitter x) (by omega) t

theorem Spreads.staggered {e : DelayElection n k} (spreads : e.Spreads) (t : Int) :
    Staggered e.round t e.timeout e.tiebreakWindow fun x => t + e.wait x := by
  have replica : ∀ x y : Seat n k, replicaSlotID x.2.val = replicaSlotID y.2.val ↔ x.2 = y.2 := by
    intro x y
    exact ⟨fun same => Fin.ext (eq_of_toString_eq same), fun same => by rw [same]⟩
  refine ⟨fun x y => spreads.nodes.eq_iff, fun _ _ => rfl, fun _ _ => rfl, replica, fun _ => rfl,
    fun _ => rfl, fun x => by rw [spreads.decide], fun x => by rw [spreads.decide], ?_, ?_, ?_, ?_,
    ?_⟩
  · intro x y better
    exact spreads.scores _ _ better
  · intro x y better slot
    have order := waitForScore_anti spreads.maxWait (spreads.scores _ _ better).le
    have distinct : waitForScore (e.score x.1) e.strategy.maxWait ≠
        waitForScore (e.score y.1) e.strategy.maxWait :=
      fun same => absurd (spreads.waits same) (Fin.ne_of_lt better)
    simp only [wait, slot]
    omega
  · intro x y node later
    have step := Int.mul_lt_mul_of_pos_right
      (show (x.2.val : Int) < y.2.val by exact_mod_cast later) spreads.stagger
    simp only [wait, node]
    omega
  · intro x
    have base := waitForScore_nonneg spreads.maxWait (e.score x.1)
    have slots : 0 ≤ (x.2.val : Int) * e.strategy.replicaStagger :=
      Int.mul_nonneg (by omega) (Int.le_of_lt spreads.stagger)
    simp only [wait]
    omega
  · intro x
    have := spreads.inTime x
    omega

end DelayElection

namespace Cluster

def SpreadReport (e : DelayElection n k) (a : Fin n) (i : Fin k) (v : Report) : Prop :=
  (∀ here : i.val < n, v.outcome = (if a.val = i.val then .won else .lost) ∧
    v.winner = e.nodeID ⟨i.val, here⟩) ∧
  (n ≤ i.val → v.outcome = .failed)

theorem spreadReport_of_verdict {e : DelayElection n k} {t : Int} {plan : Seat n k → Int}
    {x : Seat n k} {v : Report} (verdict : Verdict e.round t plan x v) :
    SpreadReport e x.1 x.2 v := by
  cases verdict with
  | won own =>
    simp only [Seat.Own] at own
    refine ⟨fun here => ⟨by simp [own, Report.wonBy], ?_⟩, fun beyond => by omega⟩
    have same : x.1 = ⟨x.2.val, here⟩ := Fin.ext own
    rw [← same]
    rfl
  | @lost y other own slot =>
    simp only [Seat.Own] at other own
    rw [slot] at own
    refine ⟨fun here => ⟨by simp [other, Report.lostTo], ?_⟩, fun beyond => by omega⟩
    have same : y.1 = ⟨x.2.val, here⟩ := Fin.ext own
    rw [← same]
    rfl
  | failed vacant =>
    refine ⟨fun here => ?_, fun _ => rfl⟩
    exact absurd rfl (vacant (⟨x.2.val, here⟩, x.2) rfl)

/-- Every slot goes to the node of its index, and the slots beyond the last node go to none. -/
theorem replicas_spread (e : DelayElection n k) (spreads : e.Spreads) (t : Int)
    {w : Cluster (Seat n k)} (reached : Reach (step e.round) (Instant e.round) (init t) w) :
    (∀ a i, ∀ v ∈ (w.rounds (a, i)).past.reports, SpreadReport e a i v) ∧
      (t + e.timeout + max 0 e.tiebreakWindow < w.now →
        ∀ a i, ∃ v, (w.rounds (a, i)).past.reports = [v] ∧ SpreadReport e a i v) ∧
      ∃ w', Reach (step e.round) (Instant e.round) w w' ∧
        ∀ a i, ∃ v, (w'.rounds (a, i)).past.reports = [v] ∧ SpreadReport e a i v := by
  have staggered := spreads.staggered t
  have ended : ∀ {w : Cluster (Seat n k)},
      Seated e.round t e.timeout e.tiebreakWindow (fun x => t + e.wait x) w →
      (∀ x, (w.rounds x).pc = .returned) →
        ∀ a i, ∃ v, (w.rounds (a, i)).past.reports = [v] ∧ SpreadReport e a i v := by
    intro w seated returned a i
    have place := seated.place (a, i)
    simp only [Place, returned (a, i)] at place
    obtain ⟨v, reports, done⟩ := place
    exact ⟨v, reports, spreadReport_of_verdict done.verdict⟩
  have seated := seated_of_reach staggered reached
  refine ⟨fun a i v reported => spreadReport_of_verdict (seated.verdict (a, i) reported), ?_, ?_⟩
  · intro late
    exact ended seated fun x => seated.returned staggered late x
  · obtain ⟨w', continued, returned⟩ := seated.ends staggered
    exact ⟨w', continued, ended (seated_of_reach staggered (reached.trans continued)) returned⟩

def twoNodes : DelayElection 2 3 :=
  { strategy := { DelayStrategy.new with maxJitter := 0 }
    nodeID := fun a => if a.val = 0 then "node-a" else "node-b"
    score := fun a => if a.val = 0 then 90 else 80
    capsuleID := "capsule"
    clusterPath := "cluster"
    timeout := 10 * second
    tiebreakWindow := 300 * millisecond
    random := fun _ => none }

/-- The two nodes take the first two slots, and both fail for the third one. -/
theorem replicas_spread_twoNodes :
    ∃ w, Reach (step twoNodes.round) (Instant twoNodes.round) (init 0) w ∧
      ∀ a i, ∃ v, (w.rounds (a, i)).past.reports = [v] ∧ SpreadReport twoNodes a i v := by
  have spreads : twoNodes.Spreads := by
    refine ⟨?_, ?_, ?_, ?_, ?_, fun _ => rfl, ?_, ?_⟩ <;> decide +kernel
  exact (replicas_spread twoNodes spreads 0 .start).2.2

end Cluster

end Falak.Election
