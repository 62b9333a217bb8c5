import Falak.Election.Provenance

/-! When messages left over from one election leave the later ones on a node untouched. -/

namespace Falak.Election

variable (old : Nat → Bool)

def Event.brings : Event → Bool
  | .handle _ envelope => old envelope.id
  | _ => false

def Event.kept : Event → Bool
  | .handle _ envelope => !old envelope.id
  | .receive _ => false
  | _ => true

def Event.avoids (nodeID : String) : Event → Bool
  | .handle _ envelope =>
    match envelope.payload with
    | some (.claim c) => c.nodeID != nodeID
    | _ => true
  | _ => true

theorem Event.meets_of_avoids {nodeID : String} {e : Event} (avoids : e.avoids nodeID = true) :
    e.Meets (·.nodeID ≠ nodeID) := by
  cases e with
  | handle t envelope =>
    rintro m parsed c rfl
    simp only [Event.avoids, Option.mem_def.mp parsed, bne_iff_ne] at avoids
    exact avoids
  | _ => trivial

def Loop.taken : Loop → Option Arrival
  | .handling a => some a
  | _ => none

def Loop.erase : Loop → Loop
  | .handling a => if old a.id then .idle else .handling a
  | loop => loop

def ClusterTopic.erase (t : ClusterTopic) : ClusterTopic :=
  { t with buffered := fun key => (t.buffered key).filter fun m => !old m.arrival.id }

def OpenTopic.erase (o : OpenTopic) : OpenTopic :=
  { o with topic := o.topic.erase old, loop := o.loop.erase old }

namespace ClusterTopic

variable {old : Nat → Bool} {t : ClusterTopic} {now : Int} {a : Arrival}

theorem erase_receive_old (left : old a.id = true)
    (unheard : t.listeners.lookup a.message.key = none) :
    (t.receive now a).1.erase old = t.erase old := by
  simp only [receive, unheard, erase, ClusterTopic.mk.injEq, true_and]
  funext key
  by_cases same : key = a.message.key
  · subst same
    simp [left]
  · simp [same]

theorem erase_receive (other : old a.id = false)
    (unheard : t.listeners.lookup a.message.key = none) :
    (t.receive now a).1.erase old = ((t.erase old).receive now a).1 := by
  simp only [receive, unheard, erase, ClusterTopic.mk.injEq, true_and]
  funext key
  by_cases same : key = a.message.key
  · subst same
    simp [other]
  · simp [same]

theorem erase_listen (key : MessageKey) (l : Nat) :
    (t.listen key l).erase old = (t.erase old).listen key l := by
  simp only [listen, erase, ClusterTopic.mk.injEq, true_and]
  funext other
  by_cases same : other = key
  · subst same
    simp
  · simp [same]

theorem erase_unlisten (key : MessageKey) (l : Nat) :
    (t.unlisten key l).erase old = (t.erase old).unlisten key l := by
  unfold unlisten
  by_cases own : t.listeners.lookup key = some l
  · simp [own, erase]
  · simp [own, erase]

theorem erase_sweepBuffer (readAt : Int) :
    (t.sweepBuffer readAt).erase old = (t.erase old).sweepBuffer readAt := by
  simp only [sweepBuffer, erase, ClusterTopic.mk.injEq, true_and]
  funext key
  rw [List.filter_filter, List.filter_filter]
  congr 1
  funext m
  exact Bool.and_comm _ _

end ClusterTopic

namespace Manager

variable {old : Nat → Bool} {w w' : Manager} {e : Event}

def erase (old : Nat → Bool) (w : Manager) : Manager :=
  { w with opened := w.opened.map (OpenTopic.erase old) }

def Isolated (old : Nat → Bool) (w : Manager) : Event → Prop
  | .receive t => ∀ o ∈ w.opened[t]?, ∀ a ∈ o.loop.taken, old a.id = true →
      o.topic.listeners.lookup a.message.key = none
  | .listen i => ∀ f ∈ w.flights[i]?, ∀ o ∈ w.opened[f.topic]?, ∀ m ∈ o.topic.buffered f.key,
      old m.arrival.id = false
  | _ => True

variable {o : OpenTopic}

theorem erase_opened {t : Nat} (here : w.opened[t]? = some o) :
    (w.erase old).opened[t]? = some (o.erase old) := by
  simp [erase, here]

theorem erase_setTopic (t : Nat) (o : OpenTopic) :
    (w.setTopic t o).erase old = (w.erase old).setTopic t (o.erase old) := by
  simp [erase, setTopic, List.map_set]

theorem setTopic_self {t : Nat} (here : w.opened[t]? = some o) : w.setTopic t o = w := by
  obtain ⟨bound, same⟩ := List.getElem?_eq_some_iff.mp here
  simp [setTopic, ← same]

theorem erase_listen {i : Nat} {f : Flight}
    (clear : ∀ m ∈ o.topic.buffered f.key, old m.arrival.id = false) :
    (w.listen i f o).erase old = (w.erase old).listen i f (o.erase old) := by
  have queued : (o.topic.buffered f.key).filter (fun m => !old m.arrival.id)
      = o.topic.buffered f.key := by
    rw [List.filter_eq_self]
    intro m buffered
    simp [clear m buffered]
  have topic : ({ o with topic := o.topic.listen f.key i } : OpenTopic).erase old
      = { o.erase old with topic := (o.erase old).topic.listen f.key i } := by
    simp [OpenTopic.erase, ClusterTopic.erase_listen]
  simp only [listen, erase, List.map_set, topic, Manager.mk.injEq, true_and]
  simp [OpenTopic.erase, ClusterTopic.erase, queued]

theorem erase_start : w.start.erase old = (w.erase old).start := by
  unfold start
  by_cases unset : w.ctx = .unset <;> simp [unset, erase]

theorem erase_openTopic (path : String) :
    (w.openTopic path).erase old = (w.erase old).openTopic path := by
  simp [openTopic, erase, OpenTopic.erase, ClusterTopic.erase, ClusterTopic.empty, Loop.erase]

theorem erase_leaveCluster (path : String) :
    (w.leaveCluster path).erase old = (w.erase old).leaveCluster path := by
  unfold leaveCluster
  cases known : w.topics.lookup path with
  | none => simp [known, erase]
  | some t =>
    simp only [known, erase, Manager.mk.injEq, true_and]
    refine ⟨?_, trivial⟩
    apply map_modify
    intro o
    rfl

theorem erase_stopTopic (t : Nat) (o : OpenTopic) :
    (w.stopTopic t o).erase old = (w.erase old).stopTopic t (o.erase old) := by
  simp only [erase, stopTopic, List.map_set]
  rfl

theorem erase_cancel : w.cancel.erase old = (w.erase old).cancel := by
  unfold cancel
  by_cases unset : w.ctx = .unset <;> simp [unset, erase]

theorem erase_stop : w.stop.erase old = (w.erase old).stop := by
  have opened (known : Nat → Bool) :
      (w.opened.mapIdx fun t o => if known t then { o with stage := .waiting } else o).map
          (OpenTopic.erase old)
        = (w.opened.map (OpenTopic.erase old)).mapIdx fun t o =>
          if known t then { o with stage := .waiting } else o := by
    apply List.ext_getElem?
    intro t
    simp only [List.getElem?_map, List.getElem?_mapIdx, Option.map_map]
    cases w.opened[t]? with
    | none => rfl
    | some o => cases known t <;> simp [OpenTopic.erase]
  rw [stop, stop, ← erase_cancel]
  simp only [erase, opened]
  rfl

theorem Move.erase (move : Move w e w') (isolated : Isolated old w e) :
    e.kept old = false ∧ w'.erase old = w.erase old ∨
      e.brings old = false ∧ Move (w.erase old) e (w'.erase old) := by
  cases move with
  | tick later => exact .inr ⟨rfl, .tick later⟩
  | start =>
    refine .inr ⟨rfl, ?_⟩
    rw [erase_start]
    exact .start
  | cancelParent =>
    refine .inr ⟨rfl, ?_⟩
    rw [erase_cancel]
    exact .cancelParent
  | joinedAgain started known => exact .inr ⟨rfl, .joinedAgain started known⟩
  | @join path started unknown =>
    refine .inr ⟨rfl, ?_⟩
    rw [erase_openTopic]
    exact .join started unknown
  | leave path =>
    refine .inr ⟨rfl, ?_⟩
    rw [erase_leaveCluster]
    exact .leave path
  | deduped started configured found busy =>
    exact .inr ⟨rfl, .deduped started configured found busy⟩
  | request started configured found free joined chosen =>
    exact .inr ⟨rfl, .request started configured found free joined chosen⟩
  | forget id => exact .inr ⟨rfl, .forget id⟩
  | stop =>
    refine .inr ⟨rfl, ?_⟩
    rw [erase_stop]
    exact .stop
  | waited ended =>
    refine .inr ⟨rfl, ?_⟩
    have stages : ∀ o : OpenTopic,
        (if o.stage = .waiting then { o with stage := .stopping } else o).erase old
          = if (o.erase old).stage = .waiting then { o.erase old with stage := .stopping }
            else o.erase old := by
      intro o
      by_cases waiting : o.stage = .waiting <;> simp [waiting, OpenTopic.erase]
    have move : Move (w.erase old) .waited _ := .waited ended
    simpa only [Manager.erase, List.map_map, Function.comp_def, stages] using move
  | launch here phase => exact .inr ⟨rfl, .launch here phase⟩
  | @listen i f o here phase topic =>
    refine .inr ⟨rfl, ?_⟩
    rw [erase_listen (isolated f here o topic)]
    exact .listen here phase (erase_opened topic)
  | replayed here phase => exact .inr ⟨rfl, .replayed here phase⟩
  | replay here phase => exact .inr ⟨rfl, .replay here phase⟩
  | run here phase way move => exact .inr ⟨rfl, .run here phase way move⟩
  | unlisten here phase ended topic =>
    refine .inr ⟨rfl, ?_⟩
    rw [erase_setTopic]
    have move : Move (w.erase old) _ _ := .unlisten here phase ended (erase_opened topic)
    simp only [OpenTopic.erase, ClusterTopic.erase_unlisten]
    exact move
  | close here phase => exact .inr ⟨rfl, .close here phase⟩
  | removeInflight here phase => exact .inr ⟨rfl, .removeInflight here phase⟩
  | finish here phase => exact .inr ⟨rfl, .finish here phase⟩
  | @dropped t o envelope here idle live refused =>
    cases left : old envelope.id with
    | true => exact .inl ⟨by simp [Event.kept, left], rfl⟩
    | false =>
      refine .inr ⟨by simp [Event.brings, left], ?_⟩
      exact .dropped (erase_opened here) (by simp [OpenTopic.erase, Loop.erase, idle]) live refused
  | @handle t o envelope a here idle live accepted =>
    have number := (ElectionMessage.handle_some accepted).1
    rw [erase_setTopic]
    cases left : old envelope.id with
    | true =>
      have same : ({ o with loop := .handling a } : OpenTopic).erase old = o.erase old := by
        simp [OpenTopic.erase, Loop.erase, number, left, idle]
      exact .inl ⟨by simp [Event.kept, left], by rw [same, setTopic_self (erase_opened here)]⟩
    | false =>
      have same : ({ o with loop := .handling a } : OpenTopic).erase old
          = { o.erase old with loop := .handling a } := by
        simp [OpenTopic.erase, Loop.erase, number, left]
      refine .inr ⟨by simp [Event.brings, left], ?_⟩
      rw [same]
      exact .handle (erase_opened here) (by simp [OpenTopic.erase, Loop.erase, idle]) live accepted
  | @buffer t o a here loop unheard =>
    rw [erase_setTopic]
    cases left : old a.id with
    | true =>
      have same : ({ o with topic := (o.topic.receive w.now a).1, loop := .idle } : OpenTopic).erase
          old = o.erase old := by
        simp [OpenTopic.erase, Loop.erase, loop, left, ClusterTopic.erase_receive_old left unheard]
      exact .inl ⟨rfl, by rw [same, setTopic_self (erase_opened here)]⟩
    | false =>
      have same : ({ o with topic := (o.topic.receive w.now a).1, loop := .idle } : OpenTopic).erase
          old = { o.erase old with
            topic := ((o.erase old).topic.receive w.now a).1, loop := .idle } := by
        simp [OpenTopic.erase, Loop.erase, ClusterTopic.erase_receive left unheard]
      refine .inr ⟨rfl, ?_⟩
      rw [same]
      exact .buffer (erase_opened here) (by simp [OpenTopic.erase, Loop.erase, loop, left]) unheard
  | @route t o a l here loop found =>
    rw [erase_setTopic]
    cases left : old a.id with
    | true =>
      have nobody := isolated o here a (by simp [loop, Loop.taken]) left
      simp [nobody] at found
    | false =>
      refine .inr ⟨rfl, ?_⟩
      exact .route (erase_opened here) (by simp [OpenTopic.erase, Loop.erase, loop, left]) found
  | @dispatch t o a l here loop =>
    refine .inr ⟨rfl, ?_⟩
    have taken : (o.erase old).loop = .dispatching a l := by
      simp [OpenTopic.erase, Loop.erase, loop]
    have move : Move (w.erase old) _ _ := .dispatch (erase_opened here) taken
    simpa only [Manager.erase, setTopic, List.map_set, OpenTopic.erase, Loop.erase] using move
  | sweep here read live =>
    refine .inr ⟨rfl, ?_⟩
    rw [erase_setTopic]
    have move : Move (w.erase old) _ _ := .sweep (erase_opened here) read live
    simpa only [OpenTopic.erase, ClusterTopic.erase_sweepBuffer] using move
  | @stopTopic t o here stopping idle =>
    refine .inr ⟨rfl, ?_⟩
    rw [erase_stopTopic]
    exact .stopTopic (erase_opened here) stopping (by simp [OpenTopic.erase, Loop.erase, idle])

/-- Messages that keep clear of the rounds of a node change nothing there. -/
theorem rounds_isolated {nodeID : String} {window now : Int} {events : List Event}
    (trace : Trace step (Isolated old) (new nodeID window now) events w) :
    ∃ events' w', Trace step (fun _ e => e.brings old = false) (new nodeID window now) events' w' ∧
      events'.filter (Event.kept old) = events.filter (Event.kept old) ∧
      w'.flights = w.flights ∧ w'.localClaims = w.localClaims ∧ w'.inflight = w.inflight ∧
      w'.now = w.now := by
  have follows : ∀ w e w', Isolated old w e → step w e = some w' →
      e.kept old = false ∧ w'.erase old = w.erase old ∨
        e.brings old = false ∧ step (w.erase old) e = some (w'.erase old) := by
    intro w e w' isolated stepped
    rcases (step_move stepped).erase isolated with unseen | ⟨fresh, move⟩
    · exact .inl unseen
    · exact .inr ⟨fresh, move.step⟩
  obtain ⟨events', trace', same⟩ := trace.simulate step (fun _ e => e.brings old = false)
    (erase old) (Event.kept old) follows
  exact ⟨events', _, trace', same, rfl, rfl, rfl, rfl⟩

instance (old : Nat → Bool) (w : Manager) : (e : Event) → Decidable (Isolated old w e)
  | .receive t => inferInstanceAs (Decidable (∀ o ∈ w.opened[t]?, ∀ a ∈ o.loop.taken,
      old a.id = true → o.topic.listeners.lookup a.message.key = none))
  | .listen i => inferInstanceAs (Decidable (∀ f ∈ w.flights[i]?, ∀ o ∈ w.opened[f.topic]?,
      ∀ m ∈ o.topic.buffered f.key, old m.arrival.id = false))
  | .tick _ | .start | .cancelParent | .joinCluster _ _ _ | .leaveCluster _ | .handleRequest _ _
  | .launch _ | .replay _ | .run _ _ | .unlisten _ | .close _ | .removeInflight _ | .finish _
  | .forgetCapsule _ | .handle _ _ | .dispatch _ | .sweep _ _ | .stop | .waited | .stopTopic _ =>
    .isTrue trivial

def claimOf (nodeID : String) (score : Score) : Claim :=
  ⟨"capsule", "0", "cluster", nodeID, score, 0⟩

def envelopeOf (id : Nat) (claim : Claim) : ElectionMessage :=
  ⟨id, claim.nodeID, claim.nodeID, some 0, true, some (.claim claim)⟩

def asked (i queued : Nat) : List Event :=
  [Event.handleRequest ⟨"capsule", "0", "cluster"⟩
      ⟨true, true, some fun now => ⟨true, 50, now + second, ""⟩, 10 * second⟩,
    .launch i, .listen i] ++ List.replicate (queued + 1) (Event.replay i) ++
    List.replicate 4 (Event.run i .go)

def firstElection : List Event :=
  [Event.start, .joinCluster "cluster" true (.ok ())] ++ asked 0 0 ++
    [Event.handle 0 (envelopeOf 1 (claimOf "node-c" 90)), .receive 0, .dispatch 0, .run 0 .claim,
      .run 0 .go, .unlisten 0, .close 0, .removeInflight 0, .finish 0]

def leftover : List Event := [.handle 0 (envelopeOf 0 (claimOf "node-b" 80)), .receive 0]

/-- A claim left over from one election decides the next one. -/
theorem leftover_decides_next :
    ∃ w w', Reach step (fun _ e => e.avoids "node-b" = true)
        (new "node-a" (300 * millisecond) 0) w ∧
      w.flights.map (fun f => (f.phase, f.round.past.reports))
        = [(.done, [.lostTo (claimOf "node-c" 90)])] ∧
      Reach step (fun _ _ => True) w w' ∧
      w'.flights.map (fun f => f.round.past.reports)
        = [[.lostTo (claimOf "node-c" 90)], [.lostTo (claimOf "node-b" 80)]] ∧
      ∀ w'', Reach step (fun _ e => e.avoids "node-b" = true)
        (new "node-a" (300 * millisecond) 0) w'' →
        ∀ f ∈ w''.flights, .lostTo (claimOf "node-b" 80) ∉ f.round.past.reports := by
  obtain ⟨w, first, ends⟩ := Reach.exists_of_accepted (fun _ e => e.avoids "node-b") (fun _ _ => id)
    step (new "node-a" (300 * millisecond) 0) firstElection
    (fun w => w.flights.map (fun f => (f.phase, f.round.past.reports))
        = [(.done, [.lostTo (claimOf "node-c" 90)])] ∧
      (run step (fun _ _ => true) w (leftover ++ asked 1 1 ++ [.run 1 .claim, .run 1 .go])).any
        (fun w' => w'.flights.map (fun f => f.round.past.reports)
          = [[.lostTo (claimOf "node-c" 90)], [.lostTo (claimOf "node-b" 80)]]) = true)
    (by decide +kernel)
  obtain ⟨w', second, ends'⟩ := Reach.exists_of_actions step w _ _ ends.2
  refine ⟨w, w', first, ends.1, second, ends', ?_⟩
  intro w'' reached f flown reported
  obtain ⟨i, here⟩ := List.getElem?_of_mem flown
  obtain ⟨c, other, same⟩ := lost_of_reach
    (reached.mono fun _ _ avoids => Event.meets_of_avoids avoids) here reported rfl
  simp only [Report.lostTo, claimOf, Report.mk.injEq] at same
  exact other same.2.1.symm

def sweptBetween : List Event :=
  firstElection ++ leftover ++ [Event.tick (3 * second), .sweep 0 (3 * second)] ++ asked 1 0 ++
    [Event.tick (4 * second), .run 1 .timer, .run 1 .go, .run 1 .go, .run 1 .published, .run 1 .go,
      .tick (5 * second), .run 1 .timer, .run 1 .go]

/-- A claim that is swept before the next election has no part in it. -/
theorem rounds_isolated_swept :
    ∃ w, Trace step (Isolated (· == 0)) (new "node-a" (300 * millisecond) 0) sweptBetween w ∧
      w.flights.map (fun f => f.round.past.reports.map Report.outcome) = [[.lost], [.won]] ∧
      ∃ events' w', Trace step (fun _ e => e.brings (· == 0) = false)
          (new "node-a" (300 * millisecond) 0) events' w' ∧
        events'.filter (Event.kept (· == 0)) = sweptBetween.filter (Event.kept (· == 0)) ∧
        w'.flights = w.flights ∧ w'.localClaims = w.localClaims ∧ w'.inflight = w.inflight ∧
        w'.now = w.now := by
  obtain ⟨w, trace, ends⟩ := Trace.exists_of_accepted (fun w e => decide (Isolated (· == 0) w e))
    (fun _ _ => of_decide_eq_true) step (new "node-a" (300 * millisecond) 0) sweptBetween
    (fun w => w.flights.map (fun f => f.round.past.reports.map Report.outcome) = [[.lost], [.won]])
    (by decide +kernel)
  exact ⟨w, trace, ends, rounds_isolated trace⟩

end Manager

end Falak.Election
