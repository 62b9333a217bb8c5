import Falak.Election.ManagerMoves
import Falak.Election.RoundLaws
import Falak.Lib.Entry

/-! How an event touches each goroutine of a manager, and what all rounds keep along every run. -/

namespace Falak.Election

def Event.goroutine : Event → Option Nat
  | .launch i | .listen i | .replay i | .run i _ | .unlisten i | .close i | .removeInflight i
  | .finish i => some i
  | _ => none

structure Flight.Consistent (f : Flight) : Prop where
  sound : Round.Sound f.params f.round.pc f.round.past
  ended : f.phase = .unlistened → f.round.pc = .unlisten ∨ f.round.pc = .panicked

namespace Manager

variable {w w' : Manager} {e : Event}

@[simp] theorem newFlight_key (req : Request) (t : Nat) (strategy : Int → Decision)
    (timeout : Int) : (w.newFlight req t strategy timeout).key = req.key := rfl

@[simp] theorem start_flights : w.start.flights = w.flights := by
  unfold Manager.start
  split <;> rfl

@[simp] theorem start_opened : w.start.opened = w.opened := by
  unfold Manager.start
  split <;> rfl

@[simp] theorem start_topics : w.start.topics = w.topics := by
  unfold Manager.start
  split <;> rfl

@[simp] theorem start_inflight : w.start.inflight = w.inflight := by
  unfold Manager.start
  split <;> rfl

@[simp] theorem cancel_opened : w.cancel.opened = w.opened := by
  unfold Manager.cancel
  split <;> rfl

@[simp] theorem cancel_topics : w.cancel.topics = w.topics := by
  unfold Manager.cancel
  split <;> rfl

@[simp] theorem cancel_inflight : w.cancel.inflight = w.inflight := by
  unfold Manager.cancel
  split <;> rfl

@[simp] theorem cancel_length : w.cancel.flights.length = w.flights.length := by
  unfold Manager.cancel
  split <;> simp

@[simp] theorem leaveCluster_flights (path : String) :
    (w.leaveCluster path).flights = w.flights := by
  unfold leaveCluster
  split <;> rfl

@[simp] theorem leaveCluster_inflight (path : String) :
    (w.leaveCluster path).inflight = w.inflight := by
  unfold leaveCluster
  split <;> rfl

inductive Flown (w : Manager) (e : Event) (i : Nat) (f : Flight) : Flight → Prop
  | still (other : e.goroutine ≠ some i) : Flown w e i f f
  | launched (event : e = .launch i) (phase : f.phase = .registered) :
      Flown w e i f { f with phase := .launched }
  | listened {o : OpenTopic} (event : e = .listen i) (phase : f.phase = .launched)
      (topic : w.opened[f.topic]? = some o) :
      Flown w e i f { f with phase := .listening (o.topic.buffered f.key) }
  | replayed (event : e = .replay i) (phase : f.phase = .listening []) :
      Flown w e i f { f with phase := .running }
  | replay {m : BufferedMessage} {queued : List BufferedMessage} (event : e = .replay i)
      (phase : f.phase = .listening (m :: queued)) :
      Flown w e i f { f.dispatch m.arrival.message with phase := .listening queued }
  | ran {choice : Choice} {effect : Effect} (event : e = .run i choice)
      (phase : f.phase = .running) (way : w.open? f choice = true)
      (move : Round.Move f.params w.now (w.localClaims f.params.req.capsuleID) f.round choice
        effect) :
      Flown w e i f { f with round := effect.round }
  | unlistened (event : e = .unlisten i) (phase : f.phase = .running)
      (ended : f.round.pc = .unlisten ∨ f.round.pc = .panicked) :
      Flown w e i f { f with phase := .unlistened }
  | closed (event : e = .close i) (phase : f.phase = .unlistened) :
      Flown w e i f { f with phase := .closed, round := f.round.unwind }
  | removed (event : e = .removeInflight i) (phase : f.phase = .closed) :
      Flown w e i f { f with phase := .removed }
  | finished (event : e = .finish i) (phase : f.phase = .removed) :
      Flown w e i f { f.cancel with phase := .done }
  | dispatched {t : Nat} {o : OpenTopic} {a : Arrival} (event : e = .dispatch t)
      (topic : w.opened[t]? = some o) (loop : o.loop = .dispatching a i) :
      Flown w e i f (f.dispatch a.message)
  | replaced {j : Nat} {g : Flight} {o : OpenTopic} (event : e = .listen j) (other : i ≠ j)
      (here : w.flights[j]? = some g) (topic : w.opened[g.topic]? = some o)
      (found : o.topic.listeners.lookup g.key = some i) : Flown w e i f f.closeListener
  | stopped {t : Nat} {o : OpenTopic} (event : e = .stopTopic t) (topic : w.opened[t]? = some o)
      (registered : o.topic.registered i = true) : Flown w e i f f.closeListener
  | cancelled (event : e = .cancelParent ∨ e = .stop) : Flown w e i f f.cancel

variable {i t : Nat} {f g : Flight} {allowed : Manager → Event → Prop}

theorem flown_set {j : Nat} {g' : Flight} (event : e.goroutine = some i)
    (here : w.flights[i]? = some f) (own : Flown w e i f g)
    (after : (w.flights.set i g)[j]? = some g') :
    ∃ f', w.flights[j]? = some f' ∧ Flown w e j f' g' := by
  rcases set_some after with ⟨rfl, rfl⟩ | ⟨other, there⟩
  · exact ⟨f, here, own⟩
  · exact ⟨g', there, .still (by simp [event, Ne.symm other])⟩

theorem flown_cancel (event : e = .cancelParent ∨ e = .stop)
    (after : w.cancel.flights[i]? = some g) :
    ∃ f, w.flights[i]? = some f ∧ Flown w e i f g := by
  unfold cancel at after
  split at after
  · refine ⟨g, after, .still ?_⟩
    rcases event with rfl | rfl <;> simp [Event.goroutine]
  · simp only [List.getElem?_map, Option.map_eq_some_iff] at after
    obtain ⟨f, here, rfl⟩ := after
    exact ⟨f, here, .cancelled event⟩

structure Launch (w : Manager) (e : Event) (i : Nat) (f : Flight) : Prop where
  next : i = w.flights.length
  event : ∃ req around t strategy, e = .handleRequest req around ∧ w.inflight req.key = none ∧
    w.topics.lookup req.clusterPath = some t ∧ f = w.newFlight req t strategy around.timeout

theorem Move.flight (move : Move w e w') (after : w'.flights[i]? = some g) :
    (∃ f, w.flights[i]? = some f ∧ Flown w e i f g) ∨ Launch w e i g := by
  cases move with
  | tick | joinedAgain | join | deduped | forget | waited | dropped | handle | buffer | route
  | sweep => exact .inl ⟨g, after, .still (by simp [Event.goroutine])⟩
  | start => exact .inl ⟨g, start_flights ▸ after, .still (by simp [Event.goroutine])⟩
  | leave path =>
    exact .inl ⟨g, leaveCluster_flights path ▸ after, .still (by simp [Event.goroutine])⟩
  | cancelParent => exact .inl (flown_cancel (.inl rfl) after)
  | stop => exact .inl (flown_cancel (.inr rfl) after)
  | request started configured found free joined chosen =>
    rcases append_some after with ⟨last, rfl⟩ | there
    · exact .inr ⟨last, _, _, _, _, rfl, free, joined, rfl⟩
    · exact .inl ⟨g, there, .still (by simp [Event.goroutine])⟩
  | launch here phase => exact .inl (flown_set rfl here (.launched rfl phase) after)
  | @listen j f o here phase topic =>
    left
    cases found : o.topic.listeners.lookup f.key with
    | none =>
      simp only [Manager.listen, found] at after
      exact flown_set rfl here (.listened rfl phase topic) after
    | some l =>
      simp only [Manager.listen, found] at after
      rcases set_some after with ⟨rfl, rfl⟩ | ⟨other, there⟩
      · exact ⟨f, here, .listened rfl phase topic⟩
      · obtain ⟨f', before, ⟨rfl, rfl⟩ | ⟨-, rfl⟩⟩ := modify_some there
        · exact ⟨f', before, .replaced rfl other here topic found⟩
        · exact ⟨g, before, .still (by simp [Event.goroutine, Ne.symm other])⟩
  | replayed here phase => exact .inl (flown_set rfl here (.replayed rfl phase) after)
  | replay here phase => exact .inl (flown_set rfl here (.replay rfl phase) after)
  | run here phase way move => exact .inl (flown_set rfl here (.ran rfl phase way move) after)
  | unlisten here phase ended topic =>
    exact .inl (flown_set rfl here (.unlistened rfl phase ended) after)
  | close here phase => exact .inl (flown_set rfl here (.closed rfl phase) after)
  | removeInflight here phase => exact .inl (flown_set rfl here (.removed rfl phase) after)
  | finish here phase => exact .inl (flown_set rfl here (.finished rfl phase) after)
  | dispatch here loop =>
    obtain ⟨f, there, ⟨rfl, rfl⟩ | ⟨-, rfl⟩⟩ := modify_some after
    · exact .inl ⟨f, there, .dispatched rfl here loop⟩
    · exact .inl ⟨g, there, .still (by simp [Event.goroutine])⟩
  | stopTopic here stopping idle =>
    simp only [Manager.stopTopic, List.getElem?_mapIdx, Option.map_eq_some_iff] at after
    obtain ⟨f, there, rfl⟩ := after
    refine .inl ⟨f, there, ?_⟩
    split
    · rename_i registered
      exact .stopped rfl here registered
    · exact .still (by simp [Event.goroutine])

theorem Move.length_le (move : Move w e w') : w.flights.length ≤ w'.flights.length := by
  -- Goroutines are replaced in place or appended.
  cases move with
  | tick | joinedAgain | join | deduped | forget | waited | dropped | handle | buffer | route
  | sweep => exact Nat.le_refl _
  | start | leave | cancelParent => simp
  | stop => simp [Manager.stop]
  | request => simp [register]
  | launch | replayed | replay | unlisten | close | removeInflight | finish =>
    simp [setFlight, setTopic]
  | run => simp [commit]
  | dispatch => simp
  | stopTopic => simp [Manager.stopTopic]
  | @listen i f o =>
    unfold Manager.listen
    cases o.topic.listeners.lookup f.key <;> simp

theorem Move.goroutine (move : Move w e w') (here : w.flights[i]? = some f) :
    ∃ g, w'.flights[i]? = some g ∧ Flown w e i f g := by
  have bound := lt_of_some here
  have kept : i < w'.flights.length := Nat.lt_of_lt_of_le bound move.length_le
  have after : w'.flights[i]? = some w'.flights[i] := List.getElem?_eq_getElem kept
  rcases move.flight after with ⟨f', there, flown⟩ | ⟨next, -⟩
  · rw [here] at there
    cases there
    exact ⟨_, after, flown⟩
  · omega

theorem Flown.key (flown : Flown w e i f g) : g.key = f.key := by
  cases flown <;> rfl

theorem Flown.topic (flown : Flown w e i f g) : g.topic = f.topic := by
  cases flown <;> rfl

theorem Flown.params (flown : Flown w e i f g) : g.params = f.params := by
  cases flown <;> rfl

theorem Move.nodeID (move : Move w e w') : w'.nodeID = w.nodeID := by
  cases move with
  | start => unfold Manager.start; split <;> rfl
  | cancelParent => unfold cancel; split <;> rfl
  | stop => unfold Manager.stop cancel; split <;> rfl
  | leave => unfold leaveCluster; split <;> rfl
  | @listen i f o => unfold Manager.listen; cases o.topic.listeners.lookup f.key <;> rfl
  | _ => rfl

theorem Flown.consistent (flown : Flown w e i f g) (consistent : f.Consistent) : g.Consistent := by
  obtain ⟨sound, ended⟩ := id consistent
  cases flown with
  | still | dispatched | replaced | stopped | cancelled => exact ⟨sound, ended⟩
  | launched | listened | replayed | replay | removed | finished => exact ⟨sound, by simp⟩
  | ran _ phase way move => exact ⟨move.sound sound, by simp [phase]⟩
  | unlistened _ _ reported => exact ⟨sound, fun _ => reported⟩
  | closed _ phase =>
    refine ⟨?_, by simp⟩
    rcases ended phase with reported | panicked
    · simpa [Round.unwind, reported, Round.Sound] using sound
    · simpa [Round.unwind, panicked, Round.Sound] using sound

def Consistent (w : Manager) : Prop :=
  ∀ (i : Nat) (f : Flight), w.flights[i]? = some f → f.Consistent

theorem consistent_of_reach {nodeID : String} {window now : Int}
    (reached : Reach step allowed (new nodeID window now) w) : Consistent w := by
  refine reached.invariant Consistent (by simp [Consistent, new]) ?_
  intro w e w' before _ stepped i g after
  rcases (step_move stepped).flight after with
    ⟨f, here, flown⟩ | ⟨-, req, around, t, strategy, -, -, -, rfl⟩
  · exact flown.consistent (before i f here)
  · exact ⟨Round.sound_init _ (.new 16), by simp [newFlight]⟩

theorem nodeID_of_reach {nodeID : String} {window now : Int}
    (reached : Reach step allowed (new nodeID window now) w) :
    w.nodeID = nodeID ∧
      ∀ (i : Nat) (f : Flight), w.flights[i]? = some f → f.params.nodeID = nodeID := by
  refine reached.invariant (fun w => w.nodeID = nodeID ∧ ∀ (i : Nat) (f : Flight),
    w.flights[i]? = some f → f.params.nodeID = nodeID) ⟨rfl, by simp [new]⟩ ?_
  intro w e w' ⟨own, before⟩ _ stepped
  refine ⟨(step_move stepped).nodeID.trans own, fun i g after => ?_⟩
  rcases (step_move stepped).flight after with
    ⟨f, here, flown⟩ | ⟨-, req, around, t, strategy, -, -, -, rfl⟩
  · rw [flown.params]
    exact before i f here
  · exact own

theorem Move.opened_le (move : Move w e w') : w.opened.length ≤ w'.opened.length := by
  -- Topics are replaced in place or appended.
  cases move with
  | start | cancelParent => simp
  | leave path =>
    unfold leaveCluster
    split <;> simp
  | stop => simp [Manager.stop]
  | waited => simp
  | join => simp [openTopic]
  | listen => simp [Manager.listen]
  | unlisten | handle | buffer | route | dispatch | sweep => simp [setFlight, setTopic]
  | stopTopic => simp [Manager.stopTopic]
  | tick | joinedAgain | deduped | forget | request | launch | replayed | replay | close
  | removeInflight | finish | run | dropped => exact Nat.le_refl _

theorem Move.topics (move : Move w e w') {path : String} (found : w'.topics.lookup path = some t) :
    w.topics.lookup path = some t ∨ t < w'.opened.length := by
  cases move with
  | start => exact .inl (start_topics ▸ found)
  | cancelParent => exact .inl (cancel_topics ▸ found)
  | stop => simp [Manager.stop] at found
  | @join path' started unknown =>
    by_cases same : path = path'
    · subst same
      simp only [openTopic, AList.lookup_insert, Option.some.injEq] at found
      right
      simp [openTopic, ← found]
    · simp only [openTopic, AList.lookup_insert_ne same] at found
      exact .inl found
  | leave path' =>
    left
    unfold leaveCluster at found
    split at found
    · exact found
    · by_cases same : path = path'
      · subst same
        simp at found
      · simpa [AList.lookup_erase_ne same] using found
  | tick | joinedAgain | deduped | forget | request | launch | listen | replayed | replay | close
  | unlisten | removeInflight | finish | run | dropped | waited | handle | buffer | route
  | dispatch | sweep | stopTopic => exact .inl found

inductive Routed (w : Manager) (e : Event) (t : Nat) (o : OpenTopic) : OpenTopic → Prop
  | still : Routed w e t o o
  | staged (stage : Stage) : Routed w e t o { o with stage := stage }
  | handling {envelope : ElectionMessage} {a : Arrival} (event : e = .handle t envelope)
      (accepted : envelope.handle w.nodeID w.now = some a) :
      Routed w e t o { o with loop := .handling a }
  | buffered {a : Arrival} (event : e = .receive t) (loop : o.loop = .handling a)
      (unheard : o.topic.listeners.lookup a.message.key = none) :
      Routed w e t o { o with topic := (o.topic.receive w.now a).1, loop := .idle }
  | routed {a : Arrival} {l : Nat} (event : e = .receive t) (loop : o.loop = .handling a)
      (found : o.topic.listeners.lookup a.message.key = some l) :
      Routed w e t o { o with loop := .dispatching a l }
  | dispatched (event : e = .dispatch t) : Routed w e t o { o with loop := .idle }
  | swept {readAt : Int} (event : e = .sweep t readAt) :
      Routed w e t o { o with topic := o.topic.sweepBuffer readAt }
  | listened {i : Nat} {f : Flight} (event : e = .listen i) (here : w.flights[i]? = some f)
      (phase : f.phase = .launched) (own : f.topic = t) :
      Routed w e t o { o with topic := o.topic.listen f.key i }
  | unlistened {i : Nat} {f : Flight} (event : e = .unlisten i) (here : w.flights[i]? = some f)
      (own : f.topic = t) : Routed w e t o { o with topic := o.topic.unlisten f.key i }
  | stopped (event : e = .stopTopic t) : Routed w e t o ⟨.empty, .idle, .stopped⟩

theorem routed_set {u : Nat} {o p p' : OpenTopic} (here : w.opened[t]? = some o)
    (own : Routed w e t o p) (after : (w.opened.set t p)[u]? = some p') :
    ∃ o', w.opened[u]? = some o' ∧ Routed w e u o' p' := by
  rcases set_some after with ⟨rfl, rfl⟩ | ⟨-, there⟩
  · exact ⟨o, here, own⟩
  · exact ⟨p', there, .still⟩

theorem Move.topic (move : Move w e w') {p : OpenTopic} (after : w'.opened[t]? = some p) :
    (∃ o, w.opened[t]? = some o ∧ Routed w e t o p) ∨ p = ⟨.empty, .idle, .live⟩ := by
  cases move with
  | tick | joinedAgain | deduped | request | forget | launch | replayed | replay | run | close
  | removeInflight | finish | dropped => exact .inl ⟨p, after, .still⟩
  | start => exact .inl ⟨p, start_opened ▸ after, .still⟩
  | cancelParent => exact .inl ⟨p, cancel_opened ▸ after, .still⟩
  | join started unknown =>
    rcases append_some after with ⟨-, rfl⟩ | there
    · exact .inr rfl
    · exact .inl ⟨p, there, .still⟩
  | leave path =>
    left
    unfold leaveCluster at after
    split at after
    · exact ⟨p, after, .still⟩
    · obtain ⟨o, there, ⟨-, rfl⟩ | ⟨-, rfl⟩⟩ := modify_some after
      · exact ⟨o, there, .staged _⟩
      · exact ⟨p, there, .still⟩
  | stop =>
    simp only [Manager.stop, List.getElem?_mapIdx, Option.map_eq_some_iff] at after
    obtain ⟨o, there, rfl⟩ := after
    refine .inl ⟨o, there, ?_⟩
    split
    · exact .staged _
    · exact .still
  | waited ended =>
    simp only [List.getElem?_map, Option.map_eq_some_iff] at after
    obtain ⟨o, there, rfl⟩ := after
    refine .inl ⟨o, there, ?_⟩
    split
    · exact .staged _
    · exact .still
  | listen here phase topic => exact .inl (routed_set topic (.listened rfl here phase rfl) after)
  | unlisten here phase ended topic =>
    exact .inl (routed_set topic (.unlistened rfl here rfl) after)
  | handle here idle live accepted =>
    exact .inl (routed_set here (.handling rfl accepted) after)
  | buffer here loop unheard => exact .inl (routed_set here (.buffered rfl loop unheard) after)
  | route here loop found => exact .inl (routed_set here (.routed rfl loop found) after)
  | dispatch here loop => exact .inl (routed_set here (.dispatched rfl) after)
  | sweep here read live => exact .inl (routed_set here (.swept rfl) after)
  | stopTopic here stopping idle => exact .inl (routed_set here (.stopped rfl) after)

end Manager

end Falak.Election
