import Falak.Election.Spread
import Mathlib.Algebra.BigOperators.Group.Finset.Piecewise
import Mathlib.Algebra.Order.BigOperators.Group.Finset
import Mathlib.Algebra.Group.Action.Defs
import Mathlib.Data.Fintype.Prod
import Mathlib.Data.Finset.Max

/-! Staggered seats come to an end: every instant run can be continued until all rounds return. -/

namespace Falak.Election

variable {n k : Nat} {p : Seat n k → RoundParams} {t timeout window : Int}
  {plan : Seat n k → Int}

def Listener.queued (l : Listener) : Nat := l.claims.buf.length + l.failures.buf.length

theorem Listener.queued_dispatch (l : Listener) (m : Message) :
    (l.dispatch m).queued ≤ l.queued + 1 := by
  cases m with
  | claim c =>
    simp only [dispatch, dispatchClaim, queued]
    split
    · omega
    · have := l.claims.length_trySend c
      dsimp only
      omega
  | failed f =>
    simp only [dispatch, dispatchFailure, queued]
    split
    · omega
    · have := l.failures.length_trySend f
      dsimp only
      omega

variable {now : Int} {slot : Bool} {r : Round}

theorem Round.Move.queued_le {q : RoundParams} {choice : Choice} {e : Effect}
    (move : Move q now slot r choice e) : e.round.listener.queued ≤ r.listener.queued := by
  cases move
  case preFailure received | verdictFailure received =>
    have held := congrArg List.length (Chan.recv_value received).1
    simp only [List.length_cons] at held
    simp only [Listener.queued, drain]
    omega
  case preLost received _ | preWorse received _ | tieLost received _ | tieWorse received _
      | verdictLost received =>
    have held := congrArg List.length (Chan.recv_value received).1
    simp only [List.length_cons] at held
    simp only [Listener.queued, hear]
    omega
  case report => simp
  case unlisten =>
    simp only [Listener.close, Listener.queued]
    split <;> simp
  all_goals exact Nat.le_refl _

def Ready (q : RoundParams) (now : Int) (slot : Bool) (r : Round) : Prop :=
  (∃ choice e, (∀ err, choice ≠ .publishError err) ∧ Round.Move q now slot r choice e ∧
    Round.stage now e.round.pc < Round.stage now r.pc) ∨
  ∃ timer, now < timer ∧ (∀ later ≤ timer, r.idle q 0 later = true) ∧
    Round.stage timer r.pc < Round.stage now r.pc

theorem Place.ready (staggered : Staggered p t timeout window plan) {x : Seat n k}
    (place : Place p t timeout window plan x now r.pc r.past)
    (sees : Sees p t timeout plan x now slot r) (running : r.pc ≠ .returned) :
    Ready (p x) now slot r := by
  have alive : r.pc ≠ .panicked := fun here => by simp [Place, here] at place
  have inTime : ∀ d deadline, r.pc = .prePublish d deadline → d.publishAt ≤ deadline := by
    intro d deadline here
    simp only [Place, here] at place
    rw [place.1, place.2.1, staggered.publishAt x]
    exact Int.le_of_lt (staggered.inTime x)
  rcases Round.ready 0 sees.live (sees.claimsOpen running) (sees.failuresOpen running) inTime
    running alive with ⟨choice, e, succeeds, move, -, closer | heard⟩ | waits
  · exact .inl ⟨choice, e, succeeds, move, closer⟩
  · obtain ⟨d, tiebreakDeadline, rival, rest, here, received⟩ := heard
    simp only [Place, here] at place
    exact absurd place.1 (sees.read received).1
  · exact .inr waits

namespace Cluster

variable {w : Cluster (Seat n k)}

def load (w : Cluster (Seat n k)) (x : Seat n k) : Nat :=
  (2 * Fintype.card (Seat n k) + 1) * Round.stage w.now (w.rounds x).pc +
    2 * (w.inbox x).length + (w.rounds x).listener.queued

def remaining (w : Cluster (Seat n k)) : Nat := ∑ x, w.load x

theorem length_post_le (u x : Seat n k) (inbox : Seat n k → List Message) (out : Option Message) :
    (post p u inbox out x).length ≤ (inbox x).length + 1 := by
  unfold post
  split
  · omega
  · split
    · simp
    · omega

variable {u : Seat n k}

theorem remaining_run {choice : Choice} {e : Effect}
    (move : Round.Move (p u) w.now (w.slot p u) (w.rounds u) choice e)
    (closer : Round.stage w.now e.round.pc < Round.stage w.now (w.rounds u).pc) :
    (w.commit p u e).remaining < w.remaining := by
  have each : ∀ x, (w.commit p u e).load x +
      (if x = u then 2 * Fintype.card (Seat n k) + 1 else 0) ≤ w.load x + 2 := by
    intro x
    have posted := length_post_le (p := p) u x w.inbox e.out
    by_cases mover : x = u
    · subst mover
      have queued := move.queued_le
      simp only [load, commit_self, commit_now, commit_inbox, if_true]
      have turns := Nat.mul_le_mul_left (2 * Fintype.card (Seat n k) + 1) closer
      rw [Nat.mul_succ] at turns
      omega
    · simp only [load, commit_other e mover, commit_now, commit_inbox, mover, if_false]
      omega
  have total := Finset.sum_le_sum fun x (_ : x ∈ Finset.univ) => each x
  simp only [Finset.sum_add_distrib, Finset.sum_ite_eq', Finset.mem_univ, if_true,
    Finset.sum_const, Finset.card_univ, smul_eq_mul] at total
  unfold remaining
  omega

theorem remaining_deliver {m : Message} {rest : List Message} (flying : w.inbox u = m :: rest)
    {w' : Cluster (Seat n k)} (stepped : step p w (.deliver u 0) = some w') :
    w'.remaining < w.remaining := by
  simp only [step, flying, List.getElem?_cons_zero, Option.map_some, Option.some.injEq,
    List.eraseIdx_cons_zero] at stepped
  subst stepped
  refine Finset.sum_lt_sum (fun x _ => ?_) ⟨u, Finset.mem_univ u, ?_⟩
  · by_cases receiver : x = u
    · subst receiver
      have queued := Listener.queued_dispatch (w.rounds x).listener m
      simp only [load, setRound_self, Function.update_self, flying, List.length_cons,
        setRound_now]
      omega
    · simp [load, receiver]
  · have queued := Listener.queued_dispatch (w.rounds u).listener m
    simp only [load, setRound_self, Function.update_self, flying, List.length_cons, setRound_now]
    omega

theorem exists_timer (waits : ∀ x, (w.rounds x).pc ≠ .returned →
      ∃ timer, w.now < timer ∧ (∀ later ≤ timer, (w.rounds x).idle (p x) 0 later = true) ∧
        Round.stage timer (w.rounds x).pc < Round.stage w.now (w.rounds x).pc)
    (running : (w.rounds u).pc ≠ .returned) :
    ∃ later, w.now < later ∧ (∀ x, (w.rounds x).idle (p x) 0 later = true) ∧
      ∃ x, Round.stage later (w.rounds x).pc < Round.stage w.now (w.rounds x).pc := by
  choose timer ahead idle fires using waits
  let waiting : Finset { x // (w.rounds x).pc ≠ .returned } := Finset.univ
  obtain ⟨first, -, least⟩ := Finset.exists_min_image waiting (fun x => timer x.1 x.2)
    ⟨⟨u, running⟩, Finset.mem_univ _⟩
  refine ⟨timer first.1 first.2, ahead _ _, fun x => ?_, first.1, fires _ _⟩
  by_cases returned : (w.rounds x).pc = .returned
  · simp [Round.idle, returned]
  · exact idle x returned _ (least ⟨x, returned⟩ (Finset.mem_univ _))

theorem Seated.closer (staggered : Staggered p t timeout window plan)
    (seated : Seated p t timeout window plan w) (unfinished : ¬ ∀ x, (w.rounds x).pc = .returned) :
    ∃ a w', Instant p w a ∧ Cluster.step p w a = some w' ∧
      Seated p t timeout window plan w' ∧ w'.remaining < w.remaining := by
  by_cases flying : ∃ x m rest, w.inbox x = m :: rest
  · -- A message in flight is delivered.
    obtain ⟨x, m, rest, flying⟩ := flying
    obtain ⟨w', stepped⟩ : ∃ w', Cluster.step p w (.deliver x 0) = some w' := by
      simp [Cluster.step, flying]
    have instant : Instant p w (.deliver x 0) := trivial
    exact ⟨_, w', instant, stepped, seated.step staggered instant stepped,
      remaining_deliver flying stepped⟩
  · by_cases moves : ∃ x choice e, (∀ err, choice ≠ .publishError err) ∧
        Round.Move (p x) w.now (w.slot p x) (w.rounds x) choice e ∧
        Round.stage w.now e.round.pc < Round.stage w.now (w.rounds x).pc
    · -- A round that can move on does so.
      obtain ⟨x, choice, e, succeeds, move, closer⟩ := moves
      have instant : Instant p w (.run x choice) := succeeds
      have stepped : Cluster.step p w (.run x choice) = some (w.commit p x e) := by
        simp [Cluster.step, move.step]
      exact ⟨_, _, instant, stepped, seated.step staggered instant stepped,
        remaining_run move closer⟩
    · obtain ⟨u, running⟩ := not_forall.mp unfinished
      have waits : ∀ x, (w.rounds x).pc ≠ .returned →
          ∃ timer, w.now < timer ∧ (∀ later ≤ timer, (w.rounds x).idle (p x) 0 later = true) ∧
            Round.stage timer (w.rounds x).pc < Round.stage w.now (w.rounds x).pc := by
        intro x running
        rcases (seated.place x).ready staggered (seated.sees staggered x) running with
          ⟨choice, e, instant, move, closer⟩ | waits
        · exact absurd ⟨x, choice, e, instant, move, closer⟩ moves
        · exact waits
      obtain ⟨later, after, idle, x, fires⟩ := exists_timer waits running
      have delivered : ∀ x, w.inbox x = [] := by
        intro x
        cases held : w.inbox x with
        | nil => rfl
        | cons m rest => exact absurd ⟨x, m, rest, held⟩ flying
      have instant : Instant p w (.tick later) := ⟨delivered, idle⟩
      have stepped : Cluster.step p w (.tick later) = some { w with now := later } := by
        simp [Cluster.step, Int.le_of_lt after]
      refine ⟨_, _, instant, stepped, seated.step staggered instant stepped, ?_⟩
      refine Finset.sum_lt_sum (fun z _ => ?_) ⟨x, Finset.mem_univ x, ?_⟩
      · have kept := Round.stage_mono (Int.le_of_lt after) (w.rounds z).pc
        have turns := Nat.mul_le_mul_left (2 * Fintype.card (Seat n k) + 1) kept
        simp only [load]
        omega
      · have turns := Nat.mul_lt_mul_of_pos_left fires
          (Nat.succ_pos (2 * Fintype.card (Seat n k)))
        simp only [load, Nat.succ_eq_add_one] at turns ⊢
        omega

theorem seated_init : Seated p t timeout window plan (init t) := by
  refine ⟨sound_start t _, traced_init t, fun x => ⟨rfl, rfl⟩, fun x => rfl,
    fun x _ => ⟨rfl, rfl, rfl, Nat.succ_pos 15⟩, ?_, ?_, fun _ => ?_⟩
  · intro x y own slot apart published
    simp [init, start, Round.init] at published
  · intro x told
    simp [init, start, Round.init, Listener.new, Chan.make] at told
  · exact ⟨fun x => by simp [slot, init, start, Holds, Round.init],
      fun x y _ held => by simp [Holds, init, start, Round.init] at held⟩

theorem seated_of_reach (staggered : Staggered p t timeout window plan)
    (reached : Reach (Cluster.step p) (Instant p) (init t) w) :
    Seated p t timeout window plan w :=
  reached.invariant (Seated p t timeout window plan) seated_init
    fun _ _ _ seated instant stepped => seated.step staggered instant stepped

theorem Seated.verdict (seated : Seated p t timeout window plan w) (x : Seat n k) {v : Report}
    (reported : v ∈ (w.rounds x).past.reports) : Verdict p t plan x v := by
  have place := seated.place x
  rcases (seated.sound x).reports with ⟨here | here, -⟩ | silent
  · simp only [Place, here] at place
    obtain ⟨⟨v', reports, done⟩, -⟩ := place
    rw [reports, List.mem_singleton] at reported
    exact reported ▸ done.verdict
  · simp only [Place, here] at place
    obtain ⟨v', reports, done⟩ := place
    rw [reports, List.mem_singleton] at reported
    exact reported ▸ done.verdict
  · simp [silent] at reported

theorem Seated.ends (staggered : Staggered p t timeout window plan)
    (seated : Seated p t timeout window plan w) :
    ∃ w', Reach (Cluster.step p) (Instant p) w w' ∧ ∀ x, (w'.rounds x).pc = .returned :=
  Reach.exists_of_rank (Seated p t timeout window plan) remaining
    (fun _ seated unfinished => seated.closer staggered unfinished) w seated

theorem Seated.returned (staggered : Staggered p t timeout window plan)
    (seated : Seated p t timeout window plan w) (late : t + timeout + max 0 window < w.now)
    (x : Seat n k) : (w.rounds x).pc = .returned := by
  have place := seated.place x
  have stop := staggered.inTime x
  have range := staggered.opens_range x
  have settled : settledBy t timeout window plan x ≤ t + timeout + max 0 window := by
    unfold settledBy
    split <;> omega
  cases here : (w.rounds x).pc <;> simp only [Place, here] at place
  case returned => rfl
  all_goals omega

end Cluster

end Falak.Election
