import Falak.Election.ManagerLaws

/-! A round only loses to claims that a topic of its node accepted. -/

namespace Falak.Election

variable {P : Claim → Prop}

def Message.Meets (P : Claim → Prop) (m : Message) : Prop := ∀ c, m = .claim c → P c

def Phase.queued : Phase → List BufferedMessage
  | .listening queued => queued
  | _ => []

def Loop.held : Loop → Option Arrival
  | .idle => none
  | .handling a | .dispatching a _ => some a

structure Flight.Meets (P : Claim → Prop) (f : Flight) : Prop where
  queued : ∀ m ∈ f.phase.queued, m.arrival.message.Meets P
  reached : ∀ c, f.round.Reached c → P c

structure OpenTopic.Meets (P : Claim → Prop) (o : OpenTopic) : Prop where
  held : ∀ a ∈ o.loop.held, a.message.Meets P
  buffered : ∀ key, ∀ m ∈ o.topic.buffered key, m.arrival.message.Meets P

def Event.Meets (P : Claim → Prop) : Event → Prop
  | .handle _ envelope => ∀ m ∈ envelope.payload, m.Meets P
  | _ => True

theorem ElectionMessage.handle_some {envelope : ElectionMessage} {nodeID : String} {now : Int}
    {a : Arrival} (accepted : envelope.handle nodeID now = some a) :
    a.id = envelope.id ∧ envelope.payload = some a.message := by
  simp only [handle, Option.ite_none_left_eq_some, Option.map_eq_some_iff] at accepted
  obtain ⟨-, -, -, -, message, parsed, rfl⟩ := accepted
  exact ⟨rfl, parsed⟩

namespace Manager

variable {w w' : Manager} {e : Event}

structure Meets (P : Claim → Prop) (w : Manager) : Prop where
  flight : ∀ (i : Nat) (f : Flight), w.flights[i]? = some f → f.Meets P
  topic : ∀ (t : Nat) (o : OpenTopic), w.opened[t]? = some o → o.Meets P

theorem Flown.meets {i : Nat} {f g : Flight} (flown : Flown w e i f g) (meets : Meets P w)
    (here : w.flights[i]? = some f) : g.Meets P := by
  obtain ⟨queued, reached⟩ := meets.flight i f here
  cases flown with
  | still | cancelled => exact ⟨queued, reached⟩
  | launched | replayed | unlistened | removed | finished => exact ⟨by simp [Phase.queued], reached⟩
  | listened _ _ topic => exact ⟨(meets.topic _ _ topic).buffered f.key, reached⟩
  | @replay m rest _ phase =>
    rw [phase] at queued
    refine ⟨fun m' later => queued m' (List.mem_cons_of_mem _ later), fun c there => ?_⟩
    rcases Round.reached_dispatch there with before | carried
    · exact reached c before
    · exact queued m (List.mem_cons_self) c carried
  | ran _ _ _ move => exact ⟨queued, fun c there => reached c ((move.reached c).mp there)⟩
  | closed _ phase =>
    exact ⟨by simp [Phase.queued], fun c there => reached c (Round.reached_close.mp there)⟩
  | @dispatched t o a _ topic loop =>
    refine ⟨queued, fun c there => ?_⟩
    rcases Round.reached_dispatch there with before | carried
    · exact reached c before
    · exact (meets.topic t o topic).held a (by simp [loop, Loop.held]) c carried
  | replaced | stopped =>
    exact ⟨queued, fun c there => reached c (Round.reached_close.mp there)⟩

theorem Routed.meets {t : Nat} {o p : OpenTopic} (routed : Routed w e t o p) (meets : o.Meets P)
    (brings : e.Meets P) : p.Meets P := by
  obtain ⟨held, buffered⟩ := meets
  cases routed with
  | still | staged => exact ⟨held, buffered⟩
  | @handling envelope a event accepted =>
    subst event
    refine ⟨fun a' same => ?_, buffered⟩
    simp only [Loop.held, Option.mem_some_iff] at same
    subst same
    exact brings _ (ElectionMessage.handle_some accepted).2
  | @buffered a _ loop unheard =>
    -- What is buffered was in the hands of the loop.
    refine ⟨by simp [Loop.held], fun key m there => ?_⟩
    rw [ClusterTopic.receive_buffered unheard] at there
    split at there
    · simp only [List.mem_append, List.mem_singleton] at there
      rcases there with before | rfl
      · exact buffered key m before
      · exact held a (by simp [loop, Loop.held])
    · exact buffered key m there
  | @routed a l _ loop =>
    refine ⟨fun a' same => held a' ?_, buffered⟩
    simpa [loop, Loop.held] using same
  | dispatched => exact ⟨by simp [Loop.held], buffered⟩
  | swept =>
    exact ⟨held, fun key m there => buffered key m (List.mem_of_mem_filter there)⟩
  | @listened i f =>
    refine ⟨held, fun key m there => ?_⟩
    rw [ClusterTopic.listen_buffered] at there
    split at there
    · cases there
    · exact buffered key m there
  | unlistened =>
    refine ⟨held, fun key m there => buffered key m ?_⟩
    rw [ClusterTopic.unlisten_buffered] at there
    exact there
  | stopped => exact ⟨by simp [Loop.held], by simp [ClusterTopic.empty]⟩

theorem meets_of_reach {nodeID : String} {window now : Int}
    (reached : Reach step (fun _ e => e.Meets P) (new nodeID window now) w) : Meets P w := by
  refine reached.invariant (Meets P) ⟨by simp [new], by simp [new]⟩ ?_
  intro w e w' meets brings stepped
  have move := step_move stepped
  constructor
  · intro i g after
    rcases move.flight after with ⟨f, here, flown⟩ | ⟨-, req, around, t, strategy, -, -, -, rfl⟩
    · exact flown.meets meets here
    · exact ⟨by simp [newFlight, Phase.queued],
        by simp [newFlight, Round.init, Round.Reached, Listener.new, Chan.make]⟩
  · intro t p after
    rcases move.topic after with ⟨o, here, routed⟩ | rfl
    · exact routed.meets (meets.topic t o here) brings
    · exact ⟨by simp [Loop.held], by simp [ClusterTopic.empty]⟩

theorem lost_of_reach {nodeID : String} {window now : Int}
    (reached : Reach step (fun _ e => e.Meets P) (new nodeID window now) w) {i : Nat} {f : Flight}
    (here : w.flights[i]? = some f) {v : Report} (reported : v ∈ f.round.past.reports)
    (lost : v.outcome = .lost) : ∃ c, P c ∧ v = .lostTo c := by
  have sound := (consistent_of_reach reached i f here).sound
  have grounds : Round.Grounds f.params f.round.past v := sound.grounds reported
  simp only [Round.Grounds, lost] at grounds
  obtain ⟨d, rival, -, heard, rfl, -⟩ := grounds
  exact ⟨rival, (meets_of_reach reached).flight i f here |>.reached rival (.inl heard), rfl⟩

end Manager

end Falak.Election
