import Falak.Election.Manager
import Falak.Election.RoundMoves
import Falak.Lib.Reach

/-! Every way a manager can move, said once, so that no later proof unfolds the step function. -/

namespace Falak.Election.Manager

inductive Move (w : Manager) : Event → Manager → Prop
  | tick {now : Int} (later : w.now ≤ now) : Move w (.tick now) { w with now := now }
  | start : Move w .start w.start
  | cancelParent : Move w .cancelParent w.cancel
  | joinedAgain {path : String} {pubsub : Bool} {opening : Except String Unit}
      (started : w.ctx ≠ .unset) (known : (w.topics.lookup path).isSome = true) :
      Move w (.joinCluster path pubsub opening) w
  | join {path : String} (started : w.ctx ≠ .unset) (unknown : w.topics.lookup path = none) :
      Move w (.joinCluster path true (.ok ())) (w.openTopic path)
  | leave (path : String) : Move w (.leaveCluster path) (w.leaveCluster path)
  | deduped {req : Request} {around : Surroundings} (started : w.ctx ≠ .unset)
      (configured : around.configured = true) (found : around.found = true)
      (busy : (w.inflight req.key).isSome = true) : Move w (.handleRequest req around) w
  | request {req : Request} {around : Surroundings} {t : Nat} {strategy : Int → Decision}
      (started : w.ctx ≠ .unset) (configured : around.configured = true)
      (found : around.found = true) (free : w.inflight req.key = none)
      (joined : w.topics.lookup req.clusterPath = some t)
      (chosen : around.strategy = some strategy) :
      Move w (.handleRequest req around)
        (w.register (w.newFlight req t strategy around.timeout))
  | forget (id : CapsuleID) :
      Move w (.forgetCapsule id) { w with localClaims := Function.update w.localClaims id false }
  | stop : Move w .stop w.stop
  | waited (ended : w.flights.any counted = false) :
      Move w .waited { w with
        opened := w.opened.map fun o =>
          if o.stage = .waiting then { o with stage := .stopping } else o }
  | launch {i : Nat} {f : Flight} (here : w.flights[i]? = some f) (phase : f.phase = .registered) :
      Move w (.launch i) (w.setFlight i { f with phase := .launched })
  | listen {i : Nat} {f : Flight} {o : OpenTopic} (here : w.flights[i]? = some f)
      (phase : f.phase = .launched) (topic : w.opened[f.topic]? = some o) :
      Move w (.listen i) (w.listen i f o)
  | replayed {i : Nat} {f : Flight} (here : w.flights[i]? = some f)
      (phase : f.phase = .listening []) :
      Move w (.replay i) (w.setFlight i { f with phase := .running })
  | replay {i : Nat} {f : Flight} {m : BufferedMessage} {queued : List BufferedMessage}
      (here : w.flights[i]? = some f) (phase : f.phase = .listening (m :: queued)) :
      Move w (.replay i)
        (w.setFlight i { f.dispatch m.arrival.message with phase := .listening queued })
  | run {i : Nat} {f : Flight} {choice : Choice} {e : Effect} (here : w.flights[i]? = some f)
      (phase : f.phase = .running) (way : w.open? f choice = true)
      (move : Round.Move f.params w.now (w.localClaims f.params.req.capsuleID) f.round choice e) :
      Move w (.run i choice) (w.commit i f e)
  | unlisten {i : Nat} {f : Flight} {o : OpenTopic} (here : w.flights[i]? = some f)
      (phase : f.phase = .running) (ended : f.round.pc = .unlisten ∨ f.round.pc = .panicked)
      (topic : w.opened[f.topic]? = some o) :
      Move w (.unlisten i)
        ((w.setFlight i { f with phase := .unlistened }).setTopic f.topic
          { o with topic := o.topic.unlisten f.key i })
  | close {i : Nat} {f : Flight} (here : w.flights[i]? = some f) (phase : f.phase = .unlistened) :
      Move w (.close i) (w.setFlight i { f with phase := .closed, round := f.round.unwind })
  | removeInflight {i : Nat} {f : Flight} (here : w.flights[i]? = some f)
      (phase : f.phase = .closed) :
      Move w (.removeInflight i)
        { w.setFlight i { f with phase := .removed } with
          inflight := Function.update w.inflight f.key none }
  | finish {i : Nat} {f : Flight} (here : w.flights[i]? = some f) (phase : f.phase = .removed) :
      Move w (.finish i) (w.setFlight i { f.cancel with phase := .done })
  | dropped {t : Nat} {o : OpenTopic} {envelope : ElectionMessage} (here : w.opened[t]? = some o)
      (idle : o.loop = .idle) (live : o.stage ≠ .stopped)
      (refused : envelope.handle w.nodeID w.now = none) : Move w (.handle t envelope) w
  | handle {t : Nat} {o : OpenTopic} {envelope : ElectionMessage} {a : Arrival}
      (here : w.opened[t]? = some o) (idle : o.loop = .idle) (live : o.stage ≠ .stopped)
      (accepted : envelope.handle w.nodeID w.now = some a) :
      Move w (.handle t envelope) (w.setTopic t { o with loop := .handling a })
  | buffer {t : Nat} {o : OpenTopic} {a : Arrival} (here : w.opened[t]? = some o)
      (loop : o.loop = .handling a) (unheard : o.topic.listeners.lookup a.message.key = none) :
      Move w (.receive t)
        (w.setTopic t { o with topic := (o.topic.receive w.now a).1, loop := .idle })
  | route {t : Nat} {o : OpenTopic} {a : Arrival} {l : Nat} (here : w.opened[t]? = some o)
      (loop : o.loop = .handling a) (found : o.topic.listeners.lookup a.message.key = some l) :
      Move w (.receive t) (w.setTopic t { o with loop := .dispatching a l })
  | dispatch {t : Nat} {o : OpenTopic} {a : Arrival} {l : Nat} (here : w.opened[t]? = some o)
      (loop : o.loop = .dispatching a l) :
      Move w (.dispatch t)
        { w.setTopic t { o with loop := .idle } with
          flights := w.flights.modify l (Flight.dispatch a.message) }
  | sweep {t : Nat} {o : OpenTopic} {readAt : Int} (here : w.opened[t]? = some o)
      (read : readAt ≤ w.now) (live : o.stage ≠ .stopped) :
      Move w (.sweep t readAt) (w.setTopic t { o with topic := o.topic.sweepBuffer readAt })
  | stopTopic {t : Nat} {o : OpenTopic} (here : w.opened[t]? = some o)
      (stopping : o.stage = .stopping) (idle : o.loop = .idle) :
      Move w (.stopTopic t) (w.stopTopic t o)

variable {w w' : Manager}

theorem joinCluster_move {path : String} {pubsub : Bool} {opening : Except String Unit}
    (joined : w.joinCluster path pubsub opening = .ok w') :
    Move w (.joinCluster path pubsub opening) w' := by
  unfold joinCluster at joined
  split at joined
  · cases joined
  rename_i started
  split at joined
  · rename_i known
    cases joined
    exact .joinedAgain started known
  rename_i unknown
  split at joined
  · cases joined
  rename_i configured
  cases opening with
  | error err => simp at joined
  | ok _ =>
    cases joined
    simp only [Bool.not_eq_true', Bool.not_eq_false] at configured
    simp only [Option.not_isSome_iff_eq_none] at unknown
    subst configured
    exact .join started unknown

theorem handleRequest_move {req : Request} {around : Surroundings}
    (handled : w.handleRequest req around = .ok w') : Move w (.handleRequest req around) w' := by
  unfold handleRequest at handled
  split at handled
  · cases handled
  rename_i started
  split at handled
  · cases handled
  rename_i configured
  split at handled
  · cases handled
  rename_i found
  simp only [Bool.not_eq_true', Bool.not_eq_false] at configured found
  split at handled
  · rename_i busy
    cases handled
    exact .deduped started configured found busy
  rename_i free
  simp only [Option.not_isSome_iff_eq_none] at free
  cases joined : w.topics.lookup req.clusterPath with
  | none => simp [joined] at handled
  | some t =>
    cases chosen : around.strategy with
    | none => simp [joined, chosen] at handled
    | some strategy =>
      simp only [joined, chosen] at handled
      cases handled
      exact .request started configured found free joined chosen

theorem step_move {e : Event} (stepped : step w e = some w') : Move w e w' := by
  cases e with
  | tick now =>
    obtain ⟨later, rfl⟩ := of_guard stepped
    exact .tick later
  | start =>
    cases stepped
    exact .start
  | cancelParent =>
    cases stepped
    exact .cancelParent
  | joinCluster path pubsub opening =>
    -- A call that returns an error is no step.
    cases joined : w.joinCluster path pubsub opening with
    | error err => simp [step, joined, Except.toOption] at stepped
    | ok next =>
      simp only [step, joined, Except.toOption, Option.some.injEq] at stepped
      exact joinCluster_move (stepped ▸ joined)
  | leaveCluster path =>
    cases stepped
    exact .leave path
  | handleRequest req around =>
    cases handled : w.handleRequest req around with
    | error err => simp [step, handled, Except.toOption] at stepped
    | ok next =>
      simp only [step, handled, Except.toOption, Option.some.injEq] at stepped
      exact handleRequest_move (stepped ▸ handled)
  | forgetCapsule id =>
    cases stepped
    exact .forget id
  | stop =>
    cases stepped
    exact .stop
  | waited =>
    simp only [step, Option.ite_none_left_eq_some, Option.some.injEq, Bool.not_eq_true] at stepped
    obtain ⟨ended, rfl⟩ := stepped
    exact .waited ended
  | launch i =>
    obtain ⟨f, here, stepped⟩ := Option.bind_eq_some_iff.mp stepped
    obtain ⟨phase, rfl⟩ := of_guard stepped
    exact .launch here phase
  | listen i =>
    simp only [step, Option.bind_eq_some_iff, flightStep, Option.ite_none_right_eq_some,
      Option.map_eq_some_iff] at stepped
    obtain ⟨f, here, phase, o, topic, rfl⟩ := stepped
    exact .listen here phase topic
  | replay i =>
    simp only [step, Option.bind_eq_some_iff, flightStep] at stepped
    obtain ⟨f, here, stepped⟩ := stepped
    split at stepped
    · rename_i phase
      cases stepped
      exact .replayed here phase
    · rename_i m queued phase
      cases stepped
      exact .replay here phase
    · cases stepped
  | run i choice =>
    simp only [step, Option.bind_eq_some_iff, flightStep, Option.ite_none_right_eq_some,
      Option.map_eq_some_iff, Bool.and_eq_true, decide_eq_true_eq] at stepped
    obtain ⟨f, here, ⟨phase, way⟩, effect, moved, rfl⟩ := stepped
    exact .run here phase way (Round.step_move moved)
  | unlisten i =>
    simp only [step, Option.bind_eq_some_iff, flightStep, Option.ite_none_right_eq_some,
      Option.map_eq_some_iff, Bool.and_eq_true, Bool.or_eq_true, decide_eq_true_eq] at stepped
    obtain ⟨f, here, ⟨phase, ended⟩, o, topic, rfl⟩ := stepped
    exact .unlisten here phase ended topic
  | close i =>
    obtain ⟨f, here, stepped⟩ := Option.bind_eq_some_iff.mp stepped
    obtain ⟨phase, rfl⟩ := of_guard stepped
    exact .close here phase
  | removeInflight i =>
    obtain ⟨f, here, stepped⟩ := Option.bind_eq_some_iff.mp stepped
    obtain ⟨phase, rfl⟩ := of_guard stepped
    exact .removeInflight here phase
  | finish i =>
    obtain ⟨f, here, stepped⟩ := Option.bind_eq_some_iff.mp stepped
    obtain ⟨phase, rfl⟩ := of_guard stepped
    exact .finish here phase
  | handle t envelope =>
    simp only [step, Option.bind_eq_some_iff, topicStep, Option.ite_none_right_eq_some,
      Bool.and_eq_true, decide_eq_true_eq, bne_iff_ne] at stepped
    obtain ⟨o, here, ⟨idle, live⟩, stepped⟩ := stepped
    cases handled : envelope.handle w.nodeID w.now with
    | none =>
      simp only [handled] at stepped
      cases stepped
      exact .dropped here idle live handled
    | some a =>
      simp only [handled] at stepped
      cases stepped
      exact .handle here idle live handled
  | receive t =>
    simp only [step, Option.bind_eq_some_iff, topicStep] at stepped
    obtain ⟨o, here, stepped⟩ := stepped
    split at stepped
    · rename_i a loop
      cases found : o.topic.listeners.lookup a.message.key with
      | none =>
        have move := Move.buffer here loop found
        simp only [ClusterTopic.receive, found, Option.some.injEq] at stepped move
        exact stepped ▸ move
      | some l =>
        simp only [ClusterTopic.receive, found] at stepped
        cases stepped
        exact .route here loop found
    · cases stepped
  | dispatch t =>
    simp only [step, Option.bind_eq_some_iff, topicStep] at stepped
    obtain ⟨o, here, stepped⟩ := stepped
    split at stepped
    · rename_i a l loop
      cases stepped
      exact .dispatch here loop
    · cases stepped
  | sweep t readAt =>
    obtain ⟨o, here, stepped⟩ := Option.bind_eq_some_iff.mp stepped
    obtain ⟨⟨read, live⟩, rfl⟩ := of_guard stepped
    exact .sweep here read live
  | stopTopic t =>
    obtain ⟨o, here, stepped⟩ := Option.bind_eq_some_iff.mp stepped
    obtain ⟨⟨stopping, idle⟩, rfl⟩ := of_guard stepped
    exact .stopTopic here stopping idle

theorem Move.step {e : Event} (move : Move w e w') : step w e = some w' := by
  cases move with
  | tick later => simp [Manager.step, later]
  | start | cancelParent | leave | forget | stop => rfl
  | joinedAgain started known => simp [Manager.step, joinCluster, started, known, Except.toOption]
  | join started unknown => simp [Manager.step, joinCluster, started, unknown, Except.toOption]
  | deduped started configured found busy =>
    simp [Manager.step, handleRequest, started, configured, found, busy, Except.toOption]
  | request started configured found free joined chosen =>
    simp [Manager.step, handleRequest, started, configured, found, free, joined, chosen,
      Except.toOption]
  | waited ended => simp [Manager.step, ended]
  | launch here phase | replayed here phase | replay here phase | close here phase
  | removeInflight here phase | finish here phase => simp [Manager.step, flightStep, here, phase]
  | listen here phase topic => simp [Manager.step, flightStep, here, phase, topic]
  | run here phase way move => simp [Manager.step, flightStep, here, phase, way, move.step]
  | unlisten here phase ended topic =>
    rcases ended with ended | ended <;>
      simp [Manager.step, flightStep, here, phase, ended, topic]
  | dropped here idle live refused => simp [Manager.step, topicStep, here, idle, live, refused]
  | handle here idle live accepted => simp [Manager.step, topicStep, here, idle, live, accepted]
  | buffer here loop unheard =>
    simp [Manager.step, topicStep, here, loop, unheard, ClusterTopic.receive]
  | route here loop found =>
    simp [Manager.step, topicStep, here, loop, found, ClusterTopic.receive]
  | dispatch here loop => simp [Manager.step, topicStep, here, loop]
  | sweep here read live => simp [Manager.step, topicStep, here, read, live]
  | stopTopic here stopping idle => simp [Manager.step, topicStep, here, stopping, idle]

end Falak.Election.Manager
