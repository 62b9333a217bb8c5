import Falak.Election.ManagerLaws
import Falak.Election.Prompt

/-! One report per round, and no nil message, when topics are stopped under running rounds. -/

namespace Falak.Election

def Pc.settled : Pc → Bool
  | .verdict _ | .verdictSelect _ | .publishFailed _ | .beaten _ | .report _ | .unlisten
  | .returned => true
  | _ => false

namespace Round

variable {p : RoundParams} {now : Int} {slot : Bool} {r : Round} {choice : Choice} {e : Effect}

theorem Move.settled (move : Move p now slot r choice e) (before : r.pc.settled = true) :
    e.round.pc.settled = true := by
  cases move
  all_goals simp_all [Pc.settled]

theorem Move.not_panicked (move : Move p now slot r choice e)
    (safe : r.pc.settled = true ∨ Listening r.listener) : e.round.pc ≠ .panicked := by
  intro nil
  cases move
  case preFailureNil here received =>
    rcases safe with settled | listening
    · simp [here, Pc.settled] at settled
    · have closed := (Chan.recv_zero received).2
      simp [listening.failuresOpen] at closed
  case preClaimNil here received | tieClaimNil here received =>
    rcases safe with settled | listening
    · simp [here, Pc.settled] at settled
    · have closed := (Chan.recv_zero received).2
      simp [listening.claimsOpen] at closed
  case report verdict gossiped here _ => simp at nil
  all_goals cases nil

theorem Move.safe (move : Move p now slot r choice e)
    (safe : r.pc.settled = true ∨ Listening r.listener) :
    e.round.pc.settled = true ∨ Listening e.round.listener := by
  rcases safe with settled | listening
  · exact .inl (move.settled settled)
  · by_cases ended : e.round.pc = .returned
    · exact .inl (by simp [ended, Pc.settled])
    · exact .inr (move.listening (fun _ => listening) ended)

theorem exists_advance (p : RoundParams) (now : Int) (slot : Bool) (r : Round)
    (alive : r.pc ≠ .panicked) (running : r.pc ≠ .returned) (unreported : r.pc ≠ .unlisten) :
    ∃ later choice e, now ≤ later ∧ Move p later slot r choice e ∧
      (choice = .go → ∀ v, r.pc ≠ .report v) ∧ stage later e.round.pc < stage now r.pc := by
  -- At a select the clock is moved on to the timer.
  cases here : r.pc with
  | prePublish d deadline =>
    refine ⟨max now d.publishAt, .timer, _, by omega, .preTimer here (by omega), by simp, ?_⟩
    simp only [stage]
    split <;> omega
  | tiebreakSelect d tiebreakDeadline =>
    refine ⟨max now tiebreakDeadline, .timer, _, by omega, .tieTimer here (by omega), by simp, ?_⟩
    simp only [stage]
    split <;> omega
  | verdictSelect deadline =>
    refine ⟨max now deadline, .timer, _, by omega, .verdictTimer here (by omega), by simp, ?_⟩
    simp only [stage]
    split <;> omega
  | unlisten => exact absurd here unreported
  | returned => exact absurd here running
  | panicked => exact absurd here alive
  | _ =>
    obtain ⟨choice, e, move, -, silent, -, closer⟩ :=
      exists_turn (r := r) p now slot (by simp [here, proceeds])
    rw [here] at silent closer
    exact ⟨now, choice, e, Int.le_refl _, move, silent, closer⟩

end Round

def Phase.Agrees (phase : Phase) (pc : Pc) : Prop :=
  match phase with
  | .registered | .launched | .listening _ => pc = .decide
  | .running => pc ≠ .returned
  | .unlistened => pc = .unlisten
  | .closed | .removed | .done => pc = .returned

def Phase.ended : Phase → Bool
  | .unlistened | .closed | .removed | .done => true
  | _ => false

structure Flight.Intact (f : Flight) : Prop where
  alive : f.round.pc ≠ .panicked
  safe : f.round.pc.settled = true ∨ Round.Listening f.round.listener
  agrees : f.phase.Agrees f.round.pc

variable {f : Flight}

theorem Flight.Intact.dispatch (intact : f.Intact) (m : Message) : (f.dispatch m).Intact :=
  ⟨intact.alive, intact.safe.imp_right (·.dispatch m), intact.agrees⟩

theorem Flight.Intact.closeListener (intact : f.Intact) (settled : f.round.pc.settled = true) :
    f.closeListener.Intact :=
  ⟨intact.alive, .inl settled, intact.agrees⟩

theorem Flight.Intact.reported (intact : f.Intact) (consistent : f.Consistent)
    (ended : f.phase.ended = true) : f.round.past.reports.length = 1 := by
  have sound := consistent.sound
  obtain ⟨-, -, agrees⟩ := intact
  cases phase : f.phase with
  | registered | launched | listening | running => simp [phase, Phase.ended] at ended
  | unlistened | closed | removed | done =>
    simp only [phase, Phase.Agrees] at agrees
    simp only [agrees, Round.Sound] at sound
    obtain ⟨v, reports, -⟩ := sound
    simp [reports]

namespace Manager

variable {w w' : Manager} {e : Event}

def closes (w : Manager) : Event → List Nat
  | .stopTopic t =>
    match w.opened[t]? with
    | none => []
    | some o => o.topic.listeners.entries.map (·.2)
  | .listen i =>
    match w.flights[i]? with
    | none => []
    | some f => (w.opened[f.topic]?.bind (·.topic.listeners.lookup f.key)).toList
  | _ => []

def Spares (w : Manager) (e : Event) : Prop :=
  ∀ l ∈ w.closes e, ∀ f ∈ w.flights[l]?, f.round.pc.settled = true

instance (w : Manager) (e : Event) : Decidable (Spares w e) :=
  inferInstanceAs (Decidable (∀ l ∈ w.closes e, ∀ f ∈ w.flights[l]?, f.round.pc.settled = true))

variable {o : OpenTopic} {i : Nat} {f : Flight}

theorem mem_closes_stopTopic {t l : Nat} (topic : w.opened[t]? = some o)
    (registered : o.topic.registered l = true) : l ∈ w.closes (.stopTopic t) := by
  obtain ⟨key, found⟩ := ClusterTopic.lookup_of_registered registered
  simp only [closes, topic, List.mem_map]
  exact ⟨_, AList.mem_lookup_iff.mp found, rfl⟩

theorem mem_closes_listen {l : Nat} (here : w.flights[i]? = some f)
    (topic : w.opened[f.topic]? = some o) (found : o.topic.listeners.lookup f.key = some l) :
    l ∈ w.closes (.listen i) := by
  simp [closes, here, topic, found]

theorem intact_newFlight (req : Request) (t : Nat) (strategy : Int → Decision) (timeout : Int) :
    (w.newFlight req t strategy timeout).Intact where
  alive := by simp [newFlight, Round.init]
  safe := .inr ⟨rfl, rfl, rfl, by simp [newFlight, Round.init, Listener.new, Chan.make]⟩
  agrees := rfl

theorem Flown.intact {g : Flight} (flown : Flown w e i f g) (here : w.flights[i]? = some f)
    (intact : f.Intact) (spares : Spares w e) : g.Intact := by
  obtain ⟨alive, safe, agrees⟩ := id intact
  cases flown with
  | still => exact intact
  | launched _ phase | listened _ phase | removed _ phase | finished _ phase =>
    simp only [phase, Phase.Agrees] at agrees
    exact ⟨alive, safe, agrees⟩
  | replayed _ phase =>
    simp only [phase, Phase.Agrees] at agrees
    exact ⟨alive, safe, by simp [Phase.Agrees, agrees]⟩
  | replay _ phase =>
    simp only [phase, Phase.Agrees] at agrees
    exact ⟨alive, safe.imp_right (·.dispatch _), agrees⟩
  | ran event phase way move =>
    subst event
    refine ⟨move.not_panicked safe, move.safe safe, ?_⟩
    simp only [phase, Phase.Agrees]
    intro returned
    cases move
    case unlisten at' => simp [open?, at'] at way
    case report verdict gossiped at' _ => simp at returned
    all_goals cases returned
  | unlistened _ phase ended =>
    refine ⟨alive, safe, ?_⟩
    rcases ended with unlisten | panicked
    · exact unlisten
    · exact absurd panicked alive
  | closed _ phase =>
    simp only [phase, Phase.Agrees] at agrees
    refine ⟨?_, .inl ?_, ?_⟩
    · simp [Round.unwind, agrees]
    · simp [Round.unwind, agrees, Pc.settled]
    · simp [Round.unwind, agrees, Phase.Agrees]
  | dispatched => exact intact.dispatch _
  | replaced event other there topic found =>
    subst event
    exact intact.closeListener (spares i (mem_closes_listen there topic found) f here)
  | stopped event topic registered =>
    subst event
    exact intact.closeListener (spares i (mem_closes_stopTopic topic registered) f here)
  | cancelled => exact ⟨alive, safe, agrees⟩

structure Intact (w : Manager) : Prop where
  flight : ∀ (i : Nat) (f : Flight), w.flights[i]? = some f → f.Intact
  topic : ∀ (i : Nat) (f : Flight), w.flights[i]? = some f → f.topic < w.opened.length
  known : ∀ (path : String) (t : Nat), w.topics.lookup path = some t → t < w.opened.length

theorem intact_new (nodeID : String) (window now : Int) : Intact (new nodeID window now) := by
  exact ⟨by simp [new], by simp [new], by simp [new]⟩

theorem Intact.step (intact : Intact w) (move : Move w e w') (spares : Spares w e) :
    Intact w' := by
  have opened := move.opened_le
  refine ⟨fun i g after => ?_, fun i g after => ?_, fun path t found => ?_⟩
  · rcases move.flight after with ⟨f, here, flown⟩ | ⟨-, req, around, t, strategy, -, -, -, rfl⟩
    · exact flown.intact here (intact.flight i f here) spares
    · exact intact_newFlight req t strategy around.timeout
  · rcases move.flight after with
      ⟨f, here, flown⟩ | ⟨-, req, around, t, strategy, -, -, joined, rfl⟩
    · have bound := intact.topic i f here
      rw [flown.topic]
      omega
    · have bound : t < w.opened.length := intact.known _ t joined
      show t < w'.opened.length
      omega
  · rcases move.topics found with before | fresh
    · have bound := intact.known path t before
      omega
    · exact fresh

theorem Intact.next (intact : Intact w) (move : Move w e w') (harmless : w.closes e = []) :
    Reach Manager.step Spares w w' ∧ Intact w' := by
  have spares : Spares w e := by simp [Spares, harmless]
  exact ⟨.next .start spares move.step, intact.step move spares⟩

def remaining (now : Int) (f : Flight) : Nat :=
  match f.phase with
  | .registered | .launched => 0
  | .listening queued => queued.length + 18
  | .running => Round.stage now f.round.pc + 3
  | .unlistened => 3
  | .closed => 2
  | .removed => 1
  | .done => 0

def started (f : Flight) : Bool := f.phase != .registered && f.phase != .launched

theorem Intact.closer (intact : Intact w) (here : w.flights[i]? = some f)
    (listened : started f = true) (running : f.phase ≠ .done) :
    ∃ w' g, Reach Manager.step Spares w w' ∧ Intact w' ∧ w'.flights[i]? = some g ∧
      started g = true ∧
      remaining w'.now g < remaining w.now f := by
  have bound : i < w.flights.length := lt_of_some here
  have placed (g : Flight) : (w.flights.set i g)[i]? = some g := by simp [bound]
  obtain ⟨alive, -, agrees⟩ := intact.flight i f here
  cases phase : f.phase with
  | registered | launched => simp [started, phase] at listened
  | listening queued =>
    simp only [phase, Phase.Agrees] at agrees
    cases queued with
    | nil =>
      obtain ⟨reached, kept⟩ := intact.next (.replayed here phase) rfl
      refine ⟨_, _, reached, kept, placed _, rfl, ?_⟩
      simp [remaining, phase, agrees, Round.stage]
    | cons m queued =>
      obtain ⟨reached, kept⟩ := intact.next (.replay here phase) rfl
      refine ⟨_, _, reached, kept, placed _, rfl, ?_⟩
      simp [remaining, phase]
  | running =>
    simp only [phase, Phase.Agrees] at agrees
    by_cases reported : f.round.pc = .unlisten
    · have topic := List.getElem?_eq_getElem (intact.topic i f here)
      obtain ⟨reached, kept⟩ := intact.next (.unlisten here phase (.inl reported) topic) rfl
      refine ⟨_, _, reached, kept, placed _, rfl, ?_⟩
      simp [remaining, phase, reported, Round.stage]
    · obtain ⟨later, choice, effect, after, move, silent, less⟩ := Round.exists_advance f.params
        w.now (w.localClaims f.params.req.capsuleID) f.round alive agrees reported
      obtain ⟨first, ticked⟩ := intact.next (.tick after) rfl
      have way : open? { w with now := later } f choice = true := by
        unfold open?
        split
        · exact absurd ‹_› reported
        · exact absurd ‹_› (silent rfl _)
        · rfl
      obtain ⟨second, kept⟩ := ticked.next (.run here phase way move) rfl
      refine ⟨_, _, first.trans second, kept, placed _, by simp [started, phase], ?_⟩
      simp only [remaining, phase, commit]
      omega
  | unlistened =>
    obtain ⟨reached, kept⟩ := intact.next (.close here phase) rfl
    exact ⟨_, _, reached, kept, placed _, rfl, by simp [remaining, phase]⟩
  | closed =>
    obtain ⟨reached, kept⟩ := intact.next (.removeInflight here phase) rfl
    exact ⟨_, _, reached, kept, placed _, rfl, by simp [remaining, phase]⟩
  | removed =>
    obtain ⟨reached, kept⟩ := intact.next (.finish here phase) rfl
    exact ⟨_, _, reached, kept, placed _, rfl, by simp [remaining, phase]⟩
  | done => exact absurd phase running

theorem Intact.ends (intact : Intact w) (here : w.flights[i]? = some f)
    (listened : started f = true) :
    ∃ w' g, Reach Manager.step Spares w w' ∧ Intact w' ∧ w'.flights[i]? = some g ∧
      g.phase = .done := by
  have closer : ∀ w, (Intact w ∧ ∃ f, w.flights[i]? = some f ∧ started f = true) →
      ¬ (∃ f, w.flights[i]? = some f ∧ f.phase = .done) →
      ∃ w', Reach Manager.step Spares w w' ∧
        (Intact w' ∧ ∃ f, w'.flights[i]? = some f ∧ started f = true) ∧
        (w'.flights[i]?.map (remaining w'.now)).getD 0
          < (w.flights[i]?.map (remaining w.now)).getD 0 := by
    rintro w ⟨intact, f, here, listened⟩ away
    obtain ⟨w', g, reached, kept, there, onward, less⟩ := intact.closer here listened
      fun done => away ⟨f, here, done⟩
    exact ⟨w', reached, ⟨kept, g, there, onward⟩, by simpa [here, there] using less⟩
  obtain ⟨w', reached, ⟨kept, -⟩, g, there, done⟩ := Reach.exists_of_descent _ _ closer w
    ⟨intact, f, here, listened⟩
  exact ⟨w', g, reached, kept, there, done⟩

/-- A round dereferences no nil message, and it has reported exactly once when it ends. -/
theorem one_report_per_round {nodeID : String} {window now : Int}
    (reached : Reach Manager.step Spares (new nodeID window now) w) {i : Nat} {f : Flight}
    (here : w.flights[i]? = some f) :
    f.round.pc ≠ .panicked ∧ f.round.past.reports.length ≤ 1 ∧
      (f.phase.ended = true → f.round.past.reports.length = 1) ∧
      (started f = true → ∃ w' g, Reach Manager.step Spares w w' ∧ w'.flights[i]? = some g ∧
        g.phase = .done ∧ g.round.past.reports.length = 1) := by
  have intact : Intact w := by
    refine reached.invariant Intact (intact_new nodeID window now) ?_
    intro w e w' before spares stepped
    exact before.step (step_move stepped) spares
  have flight := intact.flight i f here
  have consistent := consistent_of_reach reached i f here
  refine ⟨flight.alive, ?_, flight.reported consistent, fun listened => ?_⟩
  · rcases consistent.sound.reports with ⟨-, v, one⟩ | none
    · simp [one]
    · simp [none]
  · obtain ⟨w', g, onward, kept, there, done⟩ := intact.ends here listened
    have consistent := consistent_of_reach (reached.trans onward) i g there
    exact ⟨w', g, onward, there, done,
      (kept.flight i g there).reported consistent (by simp [done, Phase.ended])⟩

def joinAndRun (decision : Decision) (instructions : Nat) : List Event :=
  [.start, .joinCluster "cluster" true (.ok ()),
    .handleRequest ⟨"capsule", "0", "cluster"⟩ ⟨true, true, some fun _ => decision, second⟩,
    .launch 0, .listen 0, .replay 0] ++ List.replicate instructions (.run 0 .go)

/-- Leaving the cluster under a round that waits to publish makes it dereference a nil claim. -/
theorem panicked_on_leave :
    ∃ w f, Reach Manager.step (fun _ _ => True) (new "node-a" (300 * millisecond) 0) w ∧
      w.flights[0]? = some f ∧ f.round.pc = .panicked ∧ f.round.past.reports = [] := by
  obtain ⟨w, reached, ends⟩ := Reach.exists_of_actions Manager.step
    (new "node-a" (300 * millisecond) 0)
    (joinAndRun ⟨true, 50, second, ""⟩ 4 ++ [.leaveCluster "cluster", .stopTopic 0, .run 0 .claim])
    (fun w => w.flights.map (fun f => (f.round.pc, f.round.past.reports)) = [(.panicked, [])])
    (by decide +kernel)
  obtain ⟨f, flights, last⟩ : ∃ f, w.flights = [f] ∧ (f.round.pc, f.round.past.reports)
      = (.panicked, []) := by
    simpa [List.map_eq_singleton_iff] using ends
  simp only [Prod.mk.injEq] at last
  exact ⟨w, f, reached, by simp [flights], last⟩

/-- Leaving the cluster under a round that waits for a remote verdict ends it with one report. -/
theorem one_report_per_round_on_leave :
    ∃ w f, Reach Manager.step Spares (new "node-a" (300 * millisecond) 0) w ∧
      w.flights[0]? = some f ∧ f.round.past.reports = [.failure "claim channel closed"] ∧
      f.round.pc ≠ .panicked ∧ f.round.past.reports.length ≤ 1 ∧
      (f.phase.ended = true → f.round.past.reports.length = 1) ∧
      (started f = true → ∃ w' g, Reach Manager.step Spares w w' ∧ w'.flights[0]? = some g ∧
        g.phase = .done ∧ g.round.past.reports.length = 1) := by
  obtain ⟨w, reached, ends⟩ := Reach.exists_of_accepted (fun w e => decide (Spares w e))
    (fun _ _ => of_decide_eq_true) Manager.step (new "node-a" (300 * millisecond) 0)
    (joinAndRun ⟨false, 0, 0, "draining"⟩ 4 ++
      [.leaveCluster "cluster", .stopTopic 0, .run 0 .claim, .run 0 .unheard, .unlisten 0])
    (fun w => w.flights.map (fun f => f.round.past.reports) = [[.failure "claim channel closed"]])
    (by decide +kernel)
  obtain ⟨f, flights, reports⟩ : ∃ f, w.flights = [f] ∧
      f.round.past.reports = [.failure "claim channel closed"] := by
    simpa [List.map_eq_singleton_iff] using ends
  have here : w.flights[0]? = some f := by simp [flights]
  exact ⟨w, f, reached, here, reports, one_report_per_round reached here⟩

end Manager

end Falak.Election
