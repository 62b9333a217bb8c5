import Falak.Election.ManagerLaws

/-! Requests for one replica collapse onto one round, which is the only one that listens for it. -/

namespace Falak.Election

def Phase.inFlight : Phase → Bool
  | .removed | .done => false
  | _ => true

def Phase.listens : Phase → Bool
  | .listening _ | .running => true
  | _ => false

theorem Phase.inFlight_of_listens {phase : Phase} (listens : phase.listens = true) :
    phase.inFlight = true := by
  cases phase <;> first | rfl | cases listens

def Event.isStop : Event → Bool
  | .stop => true
  | _ => false

namespace Manager

variable {w w' : Manager} {e : Event}

theorem Flown.inFlight {i : Nat} {f g : Flight} (flown : Flown w e i f g)
    (after : g.phase.inFlight = true) : f.phase.inFlight = true := by
  cases flown with
  | still | ran | dispatched | replaced | stopped | cancelled => exact after
  | launched _ phase | listened _ phase _ | replayed _ phase | replay _ phase
  | unlistened _ phase _ | closed _ phase | removed _ phase => simp [phase, Phase.inFlight]
  | finished _ phase => simp [Phase.inFlight] at after

theorem Flown.listens {i : Nat} {f g : Flight} (flown : Flown w e i f g)
    (before : f.phase.listens = true) : g.phase.listens = true ∨ e = .unlisten i := by
  cases flown with
  | still | ran | dispatched | replaced | stopped | cancelled => exact .inl before
  | listened | replayed | replay => exact .inl rfl
  | unlistened event => exact .inr event
  | launched _ phase | closed _ phase | removed _ phase | finished _ phase =>
    simp [phase, Phase.listens] at before

theorem Move.inflight (move : Move w e w') (running : e.isStop = false) :
    w'.inflight = w.inflight ∨
      (∃ f, w.inflight f.key = none ∧ w'.flights = w.flights ++ [f] ∧
        w'.inflight = Function.update w.inflight f.key (some w.flights.length)) ∨
      ∃ i f, e = .removeInflight i ∧ w.flights[i]? = some f ∧ f.phase = .closed ∧
        w'.inflight = Function.update w.inflight f.key none := by
  cases move with
  | stop => cases running
  | @request req around t strategy started configured found free =>
    exact .inr (.inl ⟨w.newFlight req t strategy around.timeout, free, rfl, rfl⟩)
  | removeInflight here phase => exact .inr (.inr ⟨_, _, rfl, here, phase, rfl⟩)
  | start => exact .inl start_inflight
  | cancelParent => exact .inl cancel_inflight
  | leave path => exact .inl (leaveCluster_inflight path)
  | tick | joinedAgain | join | deduped | forget | waited | launch | listen | replayed | replay
  | run | unlisten | close | finish | dropped | handle | buffer | route | dispatch | sweep
  | stopTopic => exact .inl rfl

theorem Routed.lookup {t : Nat} {o p : OpenTopic} (routed : Routed w e t o p) {key : MessageKey}
    {l : Nat} (found : p.topic.listeners.lookup key = some l) :
    (∃ f, e = .listen l ∧ w.flights[l]? = some f ∧ f.topic = t ∧ f.key = key) ∨
      o.topic.listeners.lookup key = some l := by
  cases routed with
  | still | staged | handling | routed | dispatched | swept => exact .inr found
  | buffered _ _ unheard =>
    simp only [ClusterTopic.receive, unheard] at found
    exact .inr found
  | listened event here phase own =>
    simp only [ClusterTopic.lookup_listen] at found
    split at found
    · rename_i same
      cases found
      exact .inl ⟨_, event, here, own, same.symm⟩
    · exact .inr found
  | unlistened event here own => exact .inr (ClusterTopic.lookup_unlisten found).1
  | stopped => simp [ClusterTopic.empty] at found

structure Deduped (w : Manager) : Prop where
  flight : ∀ (i : Nat) (f : Flight), w.flights[i]? = some f → f.phase.inFlight = true →
    w.inflight f.key = some i
  listener : ∀ (t : Nat) (o : OpenTopic) (key : MessageKey) (i : Nat), w.opened[t]? = some o →
    o.topic.listeners.lookup key = some i →
    ∃ f, w.flights[i]? = some f ∧ f.key = key ∧ f.topic = t ∧ f.phase.listens = true

theorem deduped_new (nodeID : String) (window now : Int) : Deduped (new nodeID window now) := by
  exact ⟨by simp [new], by simp [new]⟩

theorem Deduped.unique (deduped : Deduped w) {i j : Nat} {f g : Flight}
    (first : w.flights[i]? = some f) (second : w.flights[j]? = some g) (same : f.key = g.key)
    (flying : f.phase.inFlight = true) (flying' : g.phase.inFlight = true) : i = j := by
  have entry := deduped.flight i f first flying
  rw [same, deduped.flight j g second flying'] at entry
  exact (Option.some.inj entry).symm

theorem Deduped.free (deduped : Deduped w) {i : Nat} {f : Flight} {o : OpenTopic}
    (here : w.flights[i]? = some f) (phase : f.phase = .launched)
    (topic : w.opened[f.topic]? = some o) : o.topic.listeners.lookup f.key = none := by
  cases found : o.topic.listeners.lookup f.key with
  | none => rfl
  | some l =>
    obtain ⟨g, there, same, -, listens⟩ := deduped.listener _ o _ l topic found
    have one := deduped.unique here there same.symm (by simp [phase, Phase.inFlight])
      (Phase.inFlight_of_listens listens)
    subst one
    rw [here] at there
    cases there
    simp [phase, Phase.listens] at listens

theorem Deduped.step (deduped : Deduped w) (move : Move w e w') (running : e.isStop = false) :
    Deduped w' := by
  constructor
  · intro i g after flying
    rcases move.flight after with
      ⟨f, here, flown⟩ | ⟨next, req, around, t, strategy, rfl, free, -, rfl⟩
    · have entry := deduped.flight i f here (flown.inFlight flying)
      rw [flown.key]
      rcases move.inflight running with same | ⟨f', free, -, changed⟩ |
          ⟨j, f', rfl, there, closed, changed⟩
      · rw [same, entry]
      · have other : f.key ≠ f'.key := by
          intro clash
          rw [clash, free] at entry
          cases entry
        rw [changed, Function.update_of_ne other, entry]
      · have other : f.key ≠ f'.key := by
          intro clash
          have one := deduped.unique here there clash (flown.inFlight flying)
            (by simp [closed, Phase.inFlight])
          subst one
          cases flown <;> simp_all [Phase.inFlight, Event.goroutine]
        rw [changed, Function.update_of_ne other, entry]
    · cases move with
      | deduped => simp [next] at after
      | request => simp [register, next]
  · intro t p key l after found
    rcases move.topic after with ⟨o, there, routed⟩ | rfl
    · rcases routed.lookup found with ⟨f, rfl, here, own, same⟩ | before
      · obtain ⟨g, after', flown⟩ := move.goroutine here
        refine ⟨g, after', flown.key.trans same, flown.topic.trans own, ?_⟩
        cases flown with
        | listened => rfl
        | still other => simp [Event.goroutine] at other
        | replaced event other => simp_all
        | launched event | replayed event | replay event | ran event | unlistened event
        | closed event | removed event | finished event | dispatched event | stopped event =>
          cases event
        | cancelled event => simp at event
      · obtain ⟨f, here, same, own, listens⟩ := deduped.listener t o key l there before
        obtain ⟨g, after', flown⟩ := move.goroutine here
        refine ⟨g, after', flown.key.trans same, flown.topic.trans own, ?_⟩
        rcases flown.listens listens with still | rfl
        · exact still
        · exfalso
          cases move with
          | unlisten here' phase ended topic =>
            rw [here, Option.some.injEq] at here'
            subst here'
            subst own
            rcases set_some after with ⟨-, rfl⟩ | ⟨other, -⟩
            · exact (ClusterTopic.lookup_unlisten found).2 same.symm rfl
            · exact other rfl
    · simp [ClusterTopic.empty] at found

theorem Deduped.others (deduped : Deduped w) (move : Move w e w') {i j : Nat}
    (own : e.goroutine = some i) (other : j ≠ i) : w'.flights[j]? = w.flights[j]? := by
  cases move with
  | launch | replayed | replay | run | unlisten | close | removeInflight | finish =>
    cases own
    simp [setFlight, setTopic, commit, Ne.symm other]
  | listen here phase topic =>
    cases own
    simp [Manager.listen, deduped.free here phase topic, Ne.symm other]
  | _ => cases own

/-- Between `Start` and `Stop`, requests for one key have at most one round, which listens alone. -/
theorem one_round_per_key {nodeID : String} {window now : Int}
    (reached : Reach step (fun _ e => e.isStop = false) (new nodeID window now) w) :
    (∀ (i j : Nat) (f g : Flight), w.flights[i]? = some f → w.flights[j]? = some g →
      f.key = g.key → f.phase.inFlight = true → g.phase.inFlight = true → i = j) ∧
    (∀ (i : Nat) (f : Flight) (o : OpenTopic) (w' : Manager), w.flights[i]? = some f →
      w.opened[f.topic]? = some o → w.step (.listen i) = some w' →
      o.topic.listeners.lookup f.key = none) ∧
    ∀ (e : Event) (w' : Manager) (i j : Nat), e.goroutine = some i → w.step e = some w' → j ≠ i →
      w'.flights[j]? = w.flights[j]? := by
  have deduped : Deduped w := by
    refine reached.invariant Deduped (deduped_new nodeID window now) ?_
    intro w e w' before running stepped
    exact before.step (step_move stepped) running
  refine ⟨fun i j f g first second same => deduped.unique first second same, ?_, ?_⟩
  · intro i f o w' here topic stepped
    cases step_move stepped with
    | listen here' phase topic' =>
      rw [here, Option.some.injEq] at here'
      subst here'
      exact deduped.free here phase topic
  · intro e w' i j own stepped other
    exact deduped.others (step_move stepped) own other

def atOnce : Surroundings := ⟨true, true, some fun _ => ⟨true, 50, 0, ""⟩, second⟩

def repeated : List Event :=
  [.start, .joinCluster "cluster" true (.ok ()),
    .handleRequest ⟨"capsule", "0", "cluster"⟩ atOnce, .launch 0, .listen 0, .replay 0,
    .handleRequest ⟨"capsule", "0", "cluster"⟩ atOnce, .leaveCluster "cluster",
    .joinCluster "cluster" true (.ok ()), .handleRequest ⟨"capsule", "0", "cluster"⟩ atOnce,
    .handleRequest ⟨"capsule", "1", "cluster"⟩ atOnce, .launch 1]

/-- Three requests for one replica and one for another lead to two rounds. -/
theorem one_round_per_key_repeated :
    ∃ w, Reach step (fun _ e => e.isStop = false) (new "node-a" second 0) w ∧
      w.flights.map Flight.phase = [.running, .launched] ∧
      (∀ (i j : Nat) (f g : Flight), w.flights[i]? = some f → w.flights[j]? = some g →
        f.key = g.key → f.phase.inFlight = true → g.phase.inFlight = true → i = j) ∧
      (∀ (i : Nat) (f : Flight) (o : OpenTopic) (w' : Manager), w.flights[i]? = some f →
        w.opened[f.topic]? = some o → w.step (.listen i) = some w' →
        o.topic.listeners.lookup f.key = none) ∧
      ∀ (e : Event) (w' : Manager) (i j : Nat), e.goroutine = some i → w.step e = some w' → j ≠ i →
        w'.flights[j]? = w.flights[j]? := by
  obtain ⟨w, reached, ends⟩ := Reach.exists_of_accepted (fun _ e => !e.isStop)
    (fun _ _ accepted => by simpa using accepted) step (new "node-a" second 0) repeated
    (fun w => w.flights.map Flight.phase = [.running, .launched]) (by decide +kernel)
  exact ⟨w, reached, ends, one_round_per_key reached⟩

end Manager

end Falak.Election
