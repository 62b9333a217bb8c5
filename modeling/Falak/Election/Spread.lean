import Falak.Election.Staggered

/-! Staggered seats spread the slots of a capsule: each slot goes to the node it is meant for. -/

namespace Falak.Election.Cluster

variable {n k : Nat} {p : Seat n k → RoundParams} {t timeout window : Int}
  {plan : Seat n k → Int} {w w' : Cluster (Seat n k)}

def Instant (p : Seat n k → RoundParams) (w : Cluster (Seat n k)) : Action (Seat n k) → Prop
  | .tick later =>
    (∀ x, w.inbox x = []) ∧ ∀ x, (w.rounds x).idle (p x) 0 later = true
  | .run _ choice => ∀ err, choice ≠ .publishError err
  | .deliver _ _ => True
  | .inject _ _ => False
  | .cancel _ => False
  | .close _ => False

structure Seated (p : Seat n k → RoundParams) (t timeout window : Int) (plan : Seat n k → Int)
    (w : Cluster (Seat n k)) : Prop where
  sound : Sound p w
  traced : Traced p w
  live : Live w
  place : ∀ x, Place p t timeout window plan x w.now (w.rounds x).pc (w.rounds x).past
  listening : ∀ x, (w.rounds x).pc ≠ .returned → Round.Listening (w.rounds x).listener
  posted : ∀ x y, y.Own → y.2 = x.2 → y ≠ x → (w.rounds y).past.sent ≠ [] →
    (w.rounds x).waiting = true →
      (w.rounds x).listener.claims.buf ≠ [] ∨ ∃ c, .claim c ∈ w.inbox x
  failures : ∀ x, (w.rounds x).listener.failures.buf ≠ [] ∨ (∃ f, .failed f ∈ w.inbox x) →
    (∀ y : Seat n k, y.Own → y.2 ≠ x.2) ∧ t + timeout ≤ w.now
  guarded : w.now < t + timeout → Guarded p w

variable {y u : Seat n k} {later : Int} {a : Action (Seat n k)}

theorem Seated.sent (seated : Seated p t timeout window plan w)
    (published : (w.rounds y).past.sent ≠ []) :
    y.Own ∧ (w.rounds y).past.sent = [seatClaim p t plan y] ∧ plan y ≤ w.now := by
  have sound := seated.sound y
  have place := seated.place y
  have done : ∀ v, Done p t timeout plan y w.now v (w.rounds y).past →
      y.Own ∧ (w.rounds y).past.sent = [seatClaim p t plan y] ∧ plan y ≤ w.now := by
    intro v done
    have sent := done.sent
    by_cases own : y.Own
    · rw [if_pos own] at sent
      exact ⟨own, sent, done.claimed own⟩
    · rw [if_neg own] at sent
      exact absurd sent published
  cases here : (w.rounds y).pc <;> simp only [Place, here] at place <;>
    simp only [Round.Sound, here] at sound
  case decide => exact absurd sound.2.2.1 published
  case deadline | guard | wait | prePublish | tryClaim => exact absurd sound.1.sent published
  case stamp => exact absurd sound.2 published
  case publish => exact absurd sound.2.1 published
  case tiebreak | tiebreakSelect => exact ⟨place.1, place.2.2.2.2.2, place.2.2.2.1⟩
  case verdict | verdictSelect => exact absurd sound.1.choose_spec.sent published
  case report v => exact done v place.1
  case unlisten => exact done _ place.1.choose_spec.2
  case returned => exact done _ place.choose_spec.2

theorem Seated.holds (seated : Seated p t timeout window plan w) (holds : Holds w y) :
    y.Own ∧ plan y ≤ w.now := by
  have sound := seated.sound y
  have place := seated.place y
  simp only [Holds] at holds
  have done : ∀ v, Done p t timeout plan y w.now v (w.rounds y).past → y.Own ∧ plan y ≤ w.now := by
    intro v done
    have held := done.holds
    rw [holds] at held
    have own : y.Own := by simpa using held.symm
    exact ⟨own, done.claimed own⟩
  cases here : (w.rounds y).pc <;> simp only [Place, here] at place <;>
    simp only [Round.Sound, here] at sound
  case decide => simp [sound.2.2.2.2] at holds
  case deadline | guard => simp [sound.2.2] at holds
  case wait | prePublish | tryClaim => simp [sound.2.2.1] at holds
  case stamp => exact ⟨place.1, Int.le_of_eq place.2.2.symm⟩
  case publish => exact ⟨place.1, Int.le_of_eq place.2.2.2.2.symm⟩
  case tiebreak | tiebreakSelect => exact ⟨place.1, place.2.2.2.1⟩
  case verdict | verdictSelect => simp [sound.2] at holds
  case report v => exact done v place.1
  case unlisten => exact done _ place.1.choose_spec.2
  case returned => exact done _ place.choose_spec.2

section

variable (staggered : Staggered p t timeout window plan)
include staggered

section

variable (seated : Seated p t timeout window plan w)
include seated

theorem Seated.holds_of_own (own : y.Own)
    (passed : plan y < w.now) : Holds w y := by
  have sound := seated.sound y
  have place := seated.place y
  have start := staggered.notBefore y
  have done : ∀ v, Done p t timeout plan y w.now v (w.rounds y).past → Holds w y := by
    intro v done
    simpa [Holds, own] using done.holds
  cases here : (w.rounds y).pc <;> simp only [Place, here] at place <;>
    simp only [Round.Sound, here] at sound
  case stamp | publish | tiebreak | tiebreakSelect => exact sound.1.holds
  case verdict | verdictSelect =>
    simp only [Seat.Own] at own
    omega
  case report v => exact done v place.1
  case unlisten => exact done _ place.1.choose_spec.2
  case returned => exact done _ place.choose_spec.2
  all_goals omega

theorem Seated.sees (x : Seat n k) :
    Sees p t timeout plan x w.now (w.slot p x) (w.rounds x) := by
  refine ⟨(seated.live x).1, fun running => (seated.listening x running).claimsOpen,
    fun running => (seated.listening x running).failuresOpen, ?_,
    fun waiting => seated.failures x (.inl waiting), ?_, ?_⟩
  · intro c waiting
    obtain ⟨y, toward, sent⟩ := seated.traced x c (.inl (.inr waiting))
    obtain ⟨node, slot⟩ := (staggered.addressed_iff y x).mp toward
    obtain ⟨own, published, claimed⟩ := seated.sent (List.ne_nil_of_mem sent)
    rw [published, List.mem_singleton] at sent
    exact ⟨fun self => node (congrArg Prod.fst (own.unique self slot)), y, own, slot, sent, claimed⟩
  · intro early taken
    obtain ⟨y, shared, held⟩ := ((seated.guarded early).flag x).mp taken
    obtain ⟨own, claimed⟩ := seated.holds held
    exact ⟨y, own, ((staggered.shares_iff x y).mp shared).symm, claimed, fun same => same ▸ held⟩
  · rintro early ⟨y, own, node, passed⟩
    refine ((seated.guarded early).flag x).mpr ⟨y, (staggered.shares_iff x y).mpr node.symm, ?_⟩
    exact seated.holds_of_own staggered own passed

theorem Seated.tick_own (own : y.Own)
    (unsent : (w.rounds y).past.sent = []) (idle : (w.rounds y).idle (p y) 0 later = true) :
    later ≤ plan y := by
  have place := seated.place y
  cases here : (w.rounds y).pc <;> simp only [Place, here] at place <;>
    simp only [Round.idle, here, Bool.and_eq_true, decide_eq_true_eq, Bool.false_eq_true] at idle
  case prePublish d deadline =>
    have := idle.1.2
    rwa [place.1, staggered.publishAt y] at this
  case publish d c tiebreakDeadline =>
    rw [staggered.tiebreak y] at idle
    omega
  case tiebreakSelect d tiebreakDeadline => simp [unsent] at place
  case verdictSelect deadline =>
    simp only [Seat.Own] at own
    omega
  case returned =>
    obtain ⟨v, -, done⟩ := place
    have sent := done.sent
    simp [own, unsent] at sent

theorem Seated.tick_opens
    (instant : Instant p w (.tick later)) {x : Seat n k} (other : ¬ x.Own)
    (waiting : (w.rounds x).waiting = true) (unread : (w.rounds x).listener.claims.recv = none)
    (onTime : later ≤ t + timeout) : later ≤ opens t timeout plan x.2 := by
  obtain ⟨delivered, idle⟩ := instant
  rcases own_or_vacant n x.2 with ⟨y, own, slot⟩ | vacant
  · rw [← slot, opens_own own]
    refine seated.tick_own staggered own ?_ (idle y)
    by_contra published
    have apart : y ≠ x := fun same => other (same ▸ own)
    rcases seated.posted x y own slot apart published waiting with held | ⟨c, flying⟩
    · exact held (Chan.recv_none.mp unread).1
    · simp [delivered x] at flying
  · rw [opens_vacant vacant]
    exact onTime

theorem Seated.place_tick
    (instant : Instant p w (.tick later)) (after : w.now ≤ later) (x : Seat n k) :
    Place p t timeout window plan x later (w.rounds x).pc (w.rounds x).past := by
  have place := seated.place x
  have idle := instant.2 x
  cases here : (w.rounds x).pc <;> simp only [Place, here] at place ⊢ <;>
    simp only [Round.idle, Round.quiet, here, Bool.and_eq_true, decide_eq_true_eq,
      Bool.false_eq_true, Option.isNone_iff_eq_none] at idle
  case prePublish d deadline =>
    obtain ⟨rfl, rfl, -, -⟩ := place
    obtain ⟨⟨⟨⟨-, unread⟩, -⟩, planned⟩, onTime⟩ := idle
    rw [staggered.publishAt x] at planned
    refine ⟨rfl, rfl, planned, ?_⟩
    by_cases own : x.Own
    · rwa [opens_own own]
    · exact seated.tick_opens staggered instant own (by simp [Round.waiting, here]) unread onTime
  case publish d c tiebreakDeadline =>
    rw [staggered.tiebreak x] at idle
    refine ⟨place.1, place.2.1, place.2.2.1, place.2.2.2.1, ?_⟩
    omega
  case tiebreakSelect d tiebreakDeadline =>
    obtain ⟨own, rfl, rfl, claimed, -, sent⟩ := place
    refine ⟨own, rfl, rfl, by omega, ?_, sent⟩
    simp only [settledBy, own, if_true]
    omega
  case verdictSelect deadline =>
    obtain ⟨above, rfl, -⟩ := place
    obtain ⟨⟨⟨-, unread⟩, -⟩, onTime⟩ := idle
    have other : ¬ x.Own := by
      simp only [Seat.Own]
      omega
    refine ⟨above, rfl, ?_⟩
    exact seated.tick_opens staggered instant other (by simp [Round.waiting, here]) unread onTime
  case returned =>
    obtain ⟨v, reports, done⟩ := place
    exact ⟨v, reports, done.verdict, done.sent, done.holds, Int.le_trans done.opened after⟩

theorem Seated.posted_run {choice : Choice} {e : Effect}
    (move : Round.Move (p u) w.now (w.slot p u) (w.rounds u) choice e) (x y : Seat n k)
    (own : y.Own) (slot : y.2 = x.2) (apart : y ≠ x)
    (published : ((w.commit p u e).rounds y).past.sent ≠ [])
    (waiting : ((w.commit p u e).rounds x).waiting = true) :
    ((w.commit p u e).rounds x).listener.claims.buf ≠ [] ∨
      ∃ c, .claim c ∈ (w.commit p u e).inbox x := by
  have other : ¬ x.Own := fun self => apart (own.unique self slot)
  have before : (w.rounds y).past.sent ≠ [] → (w.rounds x).waiting = true →
      ((w.commit p u e).rounds x).listener.claims = (w.rounds x).listener.claims →
      ((w.commit p u e).rounds x).listener.claims.buf ≠ [] ∨
        ∃ c, .claim c ∈ (w.commit p u e).inbox x := by
    intro published waiting kept
    rcases seated.posted x y own slot apart published waiting with held | ⟨c, flying⟩
    · exact .inl (by rwa [kept])
    · exact .inr ⟨c, mem_post flying⟩
  by_cases mover : x = u
  · subst mover
    rw [commit_other e apart] at published
    rw [commit_self] at waiting
    refine before published (move.waiting waiting) ?_
    rw [commit_self]
    exact move.claims_kept staggered (seated.sees staggered x) (seated.place x) other waiting
  · rw [commit_other e mover] at waiting
    have kept : ((w.commit p u e).rounds x).listener.claims = (w.rounds x).listener.claims := by
      rw [commit_other e mover]
    by_cases publisher : y = u
    · subst publisher
      rw [commit_self] at published
      rcases move.sent with ⟨same, -⟩ | ⟨d, c, deadline, -, -, -, out⟩
      · exact before (same ▸ published) waiting kept
      · refine .inr ⟨c, ?_⟩
        rw [commit_inbox, out]
        refine mem_post_new ((staggered.addressed_iff y x).mpr ⟨fun node => ?_, slot⟩)
        exact apart (Prod.ext node slot)
    · rw [commit_other e publisher] at published
      exact before published waiting kept

end

end

theorem Seated.posted_deliver (seated : Seated p t timeout window plan w) {position : Nat}
    {m : Message} (found : (w.inbox u)[position]? = some m) {x : Seat n k} (own : y.Own)
    (slot : y.2 = x.2) (apart : y ≠ x) (published : (w.rounds y).past.sent ≠ [])
    (waiting : (w.rounds x).waiting = true) :
    (if x = u then (w.rounds x).listener.dispatch m else (w.rounds x).listener).claims.buf ≠ [] ∨
      ∃ c, .claim c ∈ Function.update w.inbox u ((w.inbox u).eraseIdx position) x := by
  by_cases receiver : x = u
  · subst receiver
    have running : (w.rounds x).pc ≠ .returned := by
      intro ended
      simp [Round.waiting, ended] at waiting
    have listening := seated.listening x running
    cases m with
    | claim c =>
      left
      simp only [Listener.dispatch, Listener.dispatchClaim, listening.notClosed,
        Bool.false_eq_true, if_false]
      exact Chan.trySend_ne_nil listening.room c
    | failed f =>
      rcases seated.posted x y own slot apart published waiting with held | ⟨c, flying⟩
      · left
        simpa [Listener.dispatch, Listener.dispatchFailure, listening.notClosed] using held
      · refine .inr ⟨c, ?_⟩
        rw [Function.update_self, List.mem_eraseIdx_iff_getElem?]
        obtain ⟨place, there⟩ := List.mem_iff_getElem?.mp flying
        refine ⟨place, fun same => ?_, there⟩
        rw [same, found] at there
        cases there
  · rw [if_neg receiver, Function.update_of_ne receiver]
    exact seated.posted x y own slot apart published waiting

theorem Seated.failed (seated : Seated p t timeout window plan w) {v : Report}
    (here : (w.rounds u).pc = .report v) (failed : v.outcome = .failed) :
    (∀ y : Seat n k, y.Own → y.2 ≠ u.2) ∧ t + timeout ≤ w.now := by
  have place := seated.place u
  simp only [Place, here] at place
  obtain ⟨⟨verdict, -, -, opened⟩, -⟩ := place
  cases verdict with
  | won | lost => cases failed
  | failed vacant =>
    rw [opens_vacant vacant] at opened
    exact ⟨vacant, opened⟩

theorem Seated.failures_step (staggered : Staggered p t timeout window plan)
    (seated : Seated p t timeout window plan w) (instant : Instant p w a)
    (stepped : step p w a = some w') (x : Seat n k)
    (told : (w'.rounds x).listener.failures.buf ≠ [] ∨ ∃ f, .failed f ∈ w'.inbox x) :
    (∀ y : Seat n k, y.Own → y.2 ≠ x.2) ∧ t + timeout ≤ w'.now := by
  have later : w.now ≤ w'.now := by
    rcases step_now stepped with same | ⟨-, after⟩ <;> omega
  have before : (w.rounds x).listener.failures.buf ≠ [] ∨ (∃ f, .failed f ∈ w.inbox x) →
      (∀ y : Seat n k, y.Own → y.2 ≠ x.2) ∧ t + timeout ≤ w'.now := by
    intro told
    obtain ⟨vacant, late⟩ := seated.failures x told
    exact ⟨vacant, Int.le_trans late later⟩
  rcases told with held | ⟨f, flying⟩
  · rcases step_round stepped x with ⟨choice, e, -, move, rfl⟩ | touch
    · rw [commit_self] at held
      exact before (.inl (move.failures held))
    · generalize w'.rounds x = r at touch held
      cases touch with
      | none => exact before (.inl held)
      | @delivered position m action found =>
        cases m with
        | claim c =>
          simp only [Listener.dispatch, Listener.dispatchClaim] at held
          split at held <;> exact before (.inl held)
        | failed f => exact before (.inr ⟨f, List.mem_of_getElem? found⟩)
      | injected action | cancelled action | closed action => subst action; exact instant.elim
  · rcases mem_inbox_step stepped flying with old | ⟨u, choice, e, toward, move, out, rfl⟩
    · exact before (.inr ⟨f, old⟩)
    · obtain ⟨v, here, failed⟩ := move.out_failed out
      obtain ⟨vacant, late⟩ := seated.failed here failed
      rw [((staggered.addressed_iff u x).mp toward).2] at vacant
      exact ⟨vacant, late⟩

theorem Seated.step (staggered : Staggered p t timeout window plan)
    (seated : Seated p t timeout window plan w) (instant : Instant p w a)
    (stepped : Cluster.step p w a = some w') : Seated p t timeout window plan w' := by
  refine ⟨seated.sound.step stepped, ?_, ?_, ?_, ?_, ?_, seated.failures_step staggered instant
    stepped, ?_⟩
  · exact seated.traced.step (fun i m same => by subst same; exact instant) stepped
  · exact seated.live.step (fun i same => by subst same; exact instant) stepped
  · intro x
    rcases step_round stepped x with ⟨choice, e, rfl, move, rfl⟩ | touch
    · simpa using move.place staggered (seated.sound x) (seated.sees staggered x) instant
        (seated.place x)
    · rw [touch.pc, touch.past]
      rcases step_now stepped with same | ⟨rfl, after⟩
      · rw [same]
        exact seated.place x
      · exact seated.place_tick staggered instant after x
  · intro x running
    rcases step_round stepped x with ⟨choice, e, -, move, rfl⟩ | touch
    · rw [commit_self] at running ⊢
      exact move.listening (seated.listening x) running
    · rw [touch.pc] at running
      have listening := seated.listening x running
      generalize w'.rounds x = r at touch ⊢
      cases touch with
      | none => exact listening
      | delivered => exact listening.dispatch _
      | injected action | cancelled action | closed action => subst action; exact instant.elim
  · intro x y own slot apart published waiting
    cases a with
    | tick later =>
      obtain ⟨-, rfl⟩ := of_guard stepped
      exact seated.posted x y own slot apart published waiting
    | run u choice =>
      obtain ⟨e, move, rfl⟩ := step_run stepped
      exact seated.posted_run staggered move x y own slot apart published waiting
    | deliver u position =>
      have still : ∀ z, (w'.rounds z).pc = (w.rounds z).pc ∧
          (w'.rounds z).past = (w.rounds z).past := by
        intro z
        rcases step_round stepped z with ⟨choice, e, action, -⟩ | touch
        · cases action
        · exact ⟨touch.pc, touch.past⟩
      rw [(still y).2] at published
      rw [Round.waiting, (still x).1] at waiting
      simp only [Cluster.step, Option.map_eq_some_iff] at stepped
      obtain ⟨m, found, rfl⟩ := stepped
      have posted := seated.posted_deliver found own slot apart published waiting
      by_cases receiver : x = u
      · subst receiver
        simpa using posted
      · simpa [receiver] using posted
    | inject | cancel | close => exact instant.elim
  · intro early
    have before : w.now < t + timeout := by
      rcases step_now stepped with same | ⟨-, after⟩ <;> omega
    refine (seated.guarded before).step seated.sound ?_ stepped
    cases a with
    | run u choice =>
      intro v reports failed
      have here : (w.rounds u).pc = .report v := by
        cases here : (w.rounds u).pc <;> simp [here, Pc.verdict?] at reports
        rw [reports]
      have late := (seated.failed here failed).2
      omega
    | _ => trivial

end Falak.Election.Cluster
