import Falak.Election.BestWins

/-! One round on a cluster of one node, started with the local claim flag free or taken. -/

namespace Falak.Election

namespace Round

variable {p : RoundParams} {now : Int} {slot : Bool} {r : Round} {choice : Choice} {e : Effect}

def aside : Pc → Bool
  | .verdict _ => true
  | .verdictSelect _ => true
  | _ => false

def Contends (slot : Bool) : Pc → Prop
  | .decide => slot = false
  | .deadline d => d.eligible = true ∧ slot = false
  | .guard d _ => d.eligible = true ∧ slot = false
  | .wait _ _ => slot = false
  | .prePublish _ _ => slot = false
  | .tryClaim _ _ => slot = false
  | .verdict _ => False
  | .verdictSelect _ => False
  | _ => True

theorem Contends.not_aside {pc : Pc} (contends : Contends slot pc) : aside pc = false := by
  cases pc <;> first | rfl | exact contends.elim

theorem Move.contends (move : Move p now slot r choice e)
    (eligible : ∀ now, (p.decide now).eligible = true) (contends : Contends slot r.pc) :
    Contends e.slot e.round.pc := by
  obtain ⟨pc, listener, cancelled, past⟩ := r
  cases move with
  | decide here =>
    cases here
    exact ⟨eligible now, contends⟩
  | ineligible here not =>
    cases here
    cases not.symm.trans contends.1
  | stepAside here _ taken =>
    cases here
    cases taken.symm.trans contends.2
  | slotTaken here taken =>
    cases here
    cases taken.symm.trans contends
  | contend here _ free => exact free
  | deadline here | sleep here | due here | preWorse here | preTimer here =>
    cases here
    exact contends
  | verdictOver here | verdictOpen here | verdictCancelled here | verdictClosed here
  | verdictLost here | verdictAgain here | verdictFailure here | verdictTimer here =>
    cases here
    exact contends.elim
  | report =>
    rw [(report_round ..).1]
    trivial
  | _ => trivial

def Barred (p : RoundParams) (slot : Bool) : Pc → Prop
  | .decide => (∀ now, (p.decide now).eligible = false) ∨ slot = true
  | .deadline d => d.eligible = false ∨ slot = true
  | .guard d _ => d.eligible = false ∨ slot = true
  | .verdict _ => True
  | .verdictSelect _ => True
  | .report v => v.outcome ≠ .won
  | .unlisten => True
  | .returned => True
  | _ => False

theorem Move.barred (move : Move p now slot r choice e) (barred : Barred p slot r.pc)
    (lost : ∀ v ∈ r.past.reports, v.outcome ≠ .won) :
    Barred p e.slot e.round.pc ∧ ∀ v ∈ e.round.past.reports, v.outcome ≠ .won := by
  obtain ⟨pc, listener, cancelled, past⟩ := r
  cases move with
  | decide here =>
    cases here
    exact ⟨barred.imp (fun never => never now) id, lost⟩
  | deadline here =>
    cases here
    exact ⟨barred, lost⟩
  | contend here eligible free =>
    cases here
    rcases barred with not | taken
    · cases not.symm.trans eligible
    · cases taken.symm.trans free
  | ineligible | stepAside | verdictOpen | verdictAgain => exact ⟨trivial, lost⟩
  | verdictOver | verdictCancelled | verdictClosed | verdictLost | verdictFailure | verdictTimer =>
    exact ⟨nofun, lost⟩
  | report here =>
    cases here
    rw [(report_round ..).1, (report_round ..).2.1]
    refine ⟨trivial, fun v reported => ?_⟩
    rcases List.mem_append.mp reported with before | new
    · exact lost v before
    · rw [List.mem_singleton.mp new]
      exact barred
  | unlisten => exact ⟨trivial, lost⟩
  | sleep here | due here | preCancelled here | preFailureNil here | preFailure here
  | preClaimNil here | preLost here | preWorse here | preTimer here | preDeadline here
  | slotTaken here | slotWon here | stamp here | published here | publishError here
  | publishFailed here | windowOver here | windowOpen here | tieCancelled here | tieClaimNil here
  | tieLost here | tieWorse here | tieTimer here | beaten here =>
    cases here
    exact barred.elim

end Round

namespace Cluster

variable {p : Unit → RoundParams} {w w' : Cluster Unit} {latency t : Int} {listener : Listener}

def alone (flag : Bool) (t : Int) (listener : Listener) : Cluster Unit :=
  { start t fun _ => listener with localClaims := fun _ _ => flag }

def Undisturbed (p : Unit → RoundParams) (latency : Int) (w : Cluster Unit) : Action Unit → Prop
  | .tick later => (w.rounds ()).idle (p ()) latency later = true
  | .run _ choice => ∀ err, choice ≠ .publishError err
  | _ => False

def publicationFails : Choice → Bool
  | .publishError _ => true
  | _ => false

theorem publicationFails_eq_false (choice : Choice) :
    publicationFails choice = false ↔ ∀ err, choice ≠ .publishError err := by
  cases choice <;> simp [publicationFails]

instance (p : Unit → RoundParams) (latency : Int) (w : Cluster Unit) :
    (a : Action Unit) → Decidable (Undisturbed p latency w a)
  | .tick later => inferInstanceAs (Decidable ((w.rounds ()).idle (p ()) latency later = true))
  | .run _ choice => decidable_of_iff _ (publicationFails_eq_false choice)
  | .deliver _ _ | .inject _ _ | .cancel _ | .close _ => .isFalse id

variable {a : Action Unit} {start : Cluster Unit} {flag : Bool}

theorem Undisturbed.favourable {d : Decision} (undisturbed : Undisturbed p latency w a) :
    Favourable p () d latency w a := by
  cases a with
  | tick later => exact undisturbed
  | run i choice => simpa [Favourable, Undisturbed] using undisturbed
  | _ => exact undisturbed.elim

theorem undisturbed_step (undisturbed : Undisturbed p latency w a)
    (stepped : step p w a = some w') :
    (∃ choice e, Round.Move (p ()) w.now (w.slot p ()) (w.rounds ()) choice e ∧
      w'.rounds () = e.round ∧ w'.slot p () = e.slot) ∨
    w'.rounds () = w.rounds () ∧ w'.slot p () = w.slot p () := by
  cases a with
  | tick later =>
    simp only [step] at stepped
    split at stepped
    · cases stepped
      exact .inr ⟨rfl, rfl⟩
    · cases stepped
  | run i choice =>
    obtain ⟨e, move, rfl⟩ := step_run stepped
    exact .inl ⟨choice, e, move, commit_self () e, commit_slot_self () e⟩
  | _ => exact undisturbed.elim

theorem invariant_of_moves (P : Bool → Round → Prop)
    (reached : Reach (step p) (Undisturbed p latency) start w)
    (base : P (start.slot p ()) (start.rounds ()))
    (moves : ∀ {now slot r choice e}, Round.Move (p ()) now slot r choice e → P slot r →
      P e.slot e.round) :
    P (w.slot p ()) (w.rounds ()) := by
  refine reached.invariant (fun w => P (w.slot p ()) (w.rounds ())) base ?_
  intro w a w' holds undisturbed stepped
  rcases undisturbed_step undisturbed stepped with ⟨choice, e, move, rounds, slot⟩ | ⟨rounds, slot⟩
  · rw [rounds, slot]
    exact moves move holds
  · rw [rounds, slot]
    exact holds

theorem contends_of_free (eligible : ∀ now, ((p ()).decide now).eligible = true)
    (reached : Reach (step p) (Undisturbed p latency) (alone false t listener) w) :
    Round.Contends (w.slot p ()) (w.rounds ()).pc :=
  invariant_of_moves (fun slot r => Round.Contends slot r.pc) reached rfl
    fun move contends => move.contends eligible contends

theorem not_won_of_barred (barred : (∀ now, ((p ()).decide now).eligible = false) ∨ flag = true)
    (reached : Reach (step p) (Undisturbed p latency) (alone flag t listener) w) :
    ∀ v ∈ (w.rounds ()).past.reports, v.outcome ≠ .won := by
  have blocked := invariant_of_moves (fun slot r => Round.Barred (p ()) slot r.pc ∧
      ∀ v ∈ r.past.reports, v.outcome ≠ .won) reached ⟨barred, nofun⟩
    fun move blocked => move.barred blocked.1 blocked.2
  exact blocked.2

theorem reach_move {choice : Choice} {e : Effect}
    (reached : Reach (step p) (Undisturbed p latency) start w)
    (succeeds : ∀ err, choice ≠ .publishError err)
    (move : Round.Move (p ()) w.now (w.slot p ()) (w.rounds ()) choice e) :
    ∃ w', Reach (step p) (Undisturbed p latency) start w' ∧ w'.rounds () = e.round ∧
      w'.slot p () = e.slot ∧ w'.now = w.now :=
  ⟨w.commit p () e, reached.next (a := .run () choice) succeeds (by simp [step, move.step]),
    commit_self () e, commit_slot_self () e, rfl⟩

theorem reach_tick {later : Int} (reached : Reach (step p) (Undisturbed p latency) start w)
    (idle : (w.rounds ()).idle (p ()) latency later = true) (after : w.now ≤ later) :
    Reach (step p) (Undisturbed p latency) start { w with now := later } :=
  reached.next (a := .tick later) idle (by simp [step, after])

theorem reach_guard (p : Unit → RoundParams) (latency t : Int) (flag : Bool) (listener : Listener) :
    ∃ w, Reach (step p) (Undisturbed p latency) (alone flag t listener) w ∧ w.now = t ∧
      w.slot p () = flag ∧
      w.rounds () = { Round.init listener with
        pc := .guard ((p ()).decide t) (t + (p ()).timeout)
        past.decision := some ((p ()).decide t) } := by
  obtain ⟨w₁, decided, round₁, slot₁, now₁⟩ := reach_move (p := p) (w := alone flag t listener)
    (Reach.start : Reach (step p) (Undisturbed p latency) _ _) (by simp) (.decide rfl)
  obtain ⟨w₂, timed, round₂, slot₂, now₂⟩ :=
    reach_move decided (by simp) (.deadline (by rw [round₁]))
  refine ⟨w₂, timed, now₂.trans now₁, slot₂.trans slot₁, ?_⟩
  rw [round₂, round₁, now₁]
  rfl

theorem aside_of_barred (latency : Int) (listener : Listener)
    (barred : ((p ()).decide t).eligible = false ∨ flag = true) :
    ∃ w, Reach (step p) (Undisturbed p latency) (alone flag t listener) w ∧
      Round.aside (w.rounds ()).pc = true := by
  -- The guard looks at the decision and at the flag.
  obtain ⟨w, reached, -, looks, round⟩ := reach_guard p latency t flag listener
  have here : (w.rounds ()).pc = .guard ((p ()).decide t) (t + (p ()).timeout) := by rw [round]
  by_cases eligible : ((p ()).decide t).eligible = true
  · -- The decision lets it pass, so the flag stops it.
    have taken : flag = true := barred.resolve_left (by simp [eligible])
    obtain ⟨w₃, stepped, round₃, -⟩ := reach_move reached (by simp)
      (.stepAside here eligible (looks.trans taken))
    exact ⟨w₃, stepped, by rw [round₃]; rfl⟩
  · obtain ⟨w₃, stepped, round₃, -⟩ := reach_move reached (by simp)
      (.ineligible here (by simpa using eligible))
    exact ⟨w₃, stepped, by rw [round₃]; rfl⟩

theorem times_out_of_late (latency : Int) (eligible : ((p ()).decide t).eligible = true)
    (positive : 0 < (p ()).timeout) (late : t + (p ()).timeout ≤ ((p ()).decide t).publishAt) :
    ∃ w, Reach (step p) (Undisturbed p latency) (alone false t (.new 16)) w ∧
      (w.rounds ()).past.reports = [.failure "election timeout"] := by
  obtain ⟨w, reached, now, free, round⟩ := reach_guard p latency t false (.new 16)
  -- The round passes the guard and sleeps.
  obtain ⟨w₁, contends, round₁, -, now₁⟩ := reach_move reached (by simp)
    (.contend (by rw [round]) eligible free)
  obtain ⟨w₂, sleeps, round₂, -, now₂⟩ := reach_move contends (by simp)
    (.sleep (by rw [round₁]) (by rw [now₁, now]; omega))
  rw [round₁, round] at round₂
  have idle : (w₂.rounds ()).idle (p ()) latency (t + (p ()).timeout) = true := by
    simp [round₂, Round.idle, Round.quiet, Round.init, Listener.new, Chan.make, Chan.recv, late]
  have expired := reach_tick sleeps idle (by rw [now₂, now₁, now]; omega)
  obtain ⟨w₃, fails, round₃, -⟩ := reach_move expired (by simp)
    (.preDeadline (by rw [round₂]) le_rfl)
  have way : Choice.go = if true then Choice.go else .unheard := rfl
  obtain ⟨w₄, reports, round₄, -⟩ := reach_move fails (by simp) (.report (by rw [round₃]) way)
  refine ⟨w₄, reports, ?_⟩
  rw [round₄, (Round.report_round ..).2.1, round₃, round₂]
  rfl

def ReportsWon (p : Unit → RoundParams) (latency : Int) (w : Cluster Unit) : Prop :=
  ∀ w', Reach (step p) (Undisturbed p latency) w w' →
    (∀ v ∈ (w'.rounds ()).past.reports, v.outcome = .won) ∧
    ∃ w'' v, Reach (step p) (Undisturbed p latency) w' w'' ∧
      (w''.rounds ()).past.reports = [v] ∧ v.outcome = .won

theorem reportsWon_of_free (latency : Int) (eligible : ((p ()).decide t).eligible = true)
    (early : ((p ()).decide t).publishAt < t + (p ()).timeout) :
    ReportsWon p latency (alone false t (.new 16)) := by
  intro w reached
  have ahead : Ahead p () ((p ()).decide t) t latency w :=
    reached.invariant (Ahead p () ((p ()).decide t) t latency)
      ⟨Round.sound_init (p ()) _, rfl, fun _ => harmless_new _ 16, rfl, rfl⟩
      fun _ _ _ ahead undisturbed stepped =>
        ahead.step rfl eligible early undisturbed.favourable stepped
  obtain ⟨w', continued, reports⟩ := ahead.reports_within (Undisturbed p latency)
    (fun _ _ undisturbed => undisturbed.favourable) (fun _ _ succeeds => succeeds)
    (fun _ _ idle => idle) rfl eligible early
  refine ⟨fun v reported => ?_, w', _, continued, reports, rfl⟩
  rcases ahead.reports_eq with silent | won
  · rw [silent] at reported
    cases reported
  · rw [won, List.mem_singleton] at reported
    rw [reported]
    rfl

theorem reportsWon_iff (flag : Bool) (latency : Int) (eligible : ((p ()).decide t).eligible = true)
    (positive : 0 < (p ()).timeout) :
    ReportsWon p latency (alone flag t (.new 16)) ↔
      flag = false ∧ ((p ()).decide t).publishAt < t + (p ()).timeout := by
  constructor
  · intro wins
    have free : flag = false := by
      by_contra taken
      obtain ⟨w, v, reached, reports, won⟩ := (wins _ .start).2
      exact not_won_of_barred (.inr (by simpa using taken)) reached v (by rw [reports]; simp) won
    subst free
    refine ⟨rfl, ?_⟩
    by_contra late
    obtain ⟨w, reached, reports⟩ := times_out_of_late latency eligible positive (not_lt.mp late)
    have won := (wins w reached).1 (.failure "election timeout") (by rw [reports]; simp)
    cases won
  · rintro ⟨rfl, early⟩
    exact reportsWon_of_free latency eligible early

end Cluster

end Falak.Election
