import Falak.Lib.Chan
import Falak.Lib.Reach
import Mathlib.Data.List.Basic

/-!
The watch of a client: events of the source are forwarded to a bounded buffer, from which the client
receives at its own speed.

The loop does not look into an event, so an event stands for its place in the source.
-/

namespace Falak.Api

def watchBufferSize : Nat := 512

inductive WatchEvent
  | source (ev : Nat)
  | error
  deriving DecidableEq

def WatchEvent.place? : WatchEvent → Option Nat
  | source ev => some ev
  | error => none

inductive Pc
  | idle
  | offer (ev : Nat)
  | drop (ev : Nat)
  | warn (ev : Nat)
  | retry (ev : Nat)
  | returned
  deriving DecidableEq

def Pc.event? : Pc → Option Nat
  | offer ev | drop ev | warn ev | retry ev => some ev
  | idle | returned => none

structure Watch where
  out : Chan WatchEvent := .make watchBufferSize
  pc : Pc := .idle
  taken : Nat := 0
  received : List WatchEvent := []
  lost : List Nat := []
  stalled : Bool := false

inductive Action
  | take
  /-- The source is closed, or the context is cancelled. -/
  | stop
  | forward
  | read
  deriving DecidableEq

namespace Watch

variable (w : Watch)

def step : Action → Option Watch
  | .take =>
    if w.pc = .idle then some { w with pc := .offer w.taken, taken := w.taken + 1 } else none
  | .stop => if w.pc = .idle then some { w with pc := .returned, out := w.out.close } else none
  | .forward =>
    match w.pc with
    | .offer ev =>
      if w.out.hasRoom then
        some { w with out := w.out.trySend (.source ev), pc := .idle, stalled := false }
      else some { w with pc := .drop ev, stalled := true }
    | .drop ev =>
      some { w with
        out := w.out.rest
        lost := w.lost ++ (w.out.buf.head?.bind WatchEvent.place?).toList
        pc := .warn ev }
    | .warn ev => some { w with out := w.out.trySend .error, pc := .retry ev }
    | .retry ev =>
      some { w with
        out := w.out.trySend (.source ev)
        lost := if w.out.hasRoom then w.lost else w.lost ++ [ev]
        pc := .idle }
    | .idle | .returned => none
  | .read =>
    match w.out.recv with
    | some (.value ev rest) =>
      some { w with out := rest, received := w.received ++ [ev], stalled := false }
    | _ => none

inductive Move : Action → Watch → Prop
  | take (idle : w.pc = .idle) : Move .take { w with pc := .offer w.taken, taken := w.taken + 1 }
  | stop (idle : w.pc = .idle) : Move .stop { w with pc := .returned, out := w.out.close }
  | sent {ev : Nat} (here : w.pc = .offer ev) (room : w.out.buf.length < w.out.cap) :
    Move .forward { w with out := w.out.trySend (.source ev), pc := .idle, stalled := false }
  | full {ev : Nat} (here : w.pc = .offer ev) (full : ¬ w.out.buf.length < w.out.cap) :
    Move .forward { w with pc := .drop ev, stalled := true }
  | dropped {ev : Nat} (here : w.pc = .drop ev) :
    Move .forward { w with
      out := w.out.rest
      lost := w.lost ++ (w.out.buf.head?.bind WatchEvent.place?).toList
      pc := .warn ev }
  | warned {ev : Nat} (here : w.pc = .warn ev) :
    Move .forward { w with out := w.out.trySend .error, pc := .retry ev }
  | resent {ev : Nat} (here : w.pc = .retry ev) (room : w.out.buf.length < w.out.cap) :
    Move .forward { w with out := w.out.trySend (.source ev), pc := .idle }
  | unsent {ev : Nat} (here : w.pc = .retry ev) (full : ¬ w.out.buf.length < w.out.cap) :
    Move .forward { w with lost := w.lost ++ [ev], pc := .idle }
  | read {ev : WatchEvent} (held : w.out.buf = ev :: w.out.rest.buf) :
    Move .read { w with out := w.out.rest, received := w.received ++ [ev], stalled := false }

abbrev Runs : Watch → Watch → Prop := Reach step fun _ _ => True

variable {w} {w' : Watch} {a : Action}

theorem move_of_step (stepped : w.step a = some w') : w.Move a w' := by
  cases a with
  | take =>
    obtain ⟨idle, rfl⟩ := of_guard stepped
    exact .take idle
  | stop =>
    obtain ⟨idle, rfl⟩ := of_guard stepped
    exact .stop idle
  | forward =>
    cases here : w.pc <;> simp only [step, here, Chan.hasRoom, decide_eq_true_eq] at stepped
    case idle | returned => cases stepped
    case offer ev =>
      split at stepped <;> cases stepped
      · exact .sent here ‹_›
      · exact .full here ‹_›
    case drop ev =>
      cases stepped
      exact .dropped here
    case warn ev =>
      cases stepped
      exact .warned here
    case retry ev =>
      cases stepped
      by_cases room : w.out.buf.length < w.out.cap
      · rw [if_pos room]
        exact .resent here room
      · rw [if_neg room, Chan.trySend_of_full (by simpa [Chan.hasRoom] using room)]
        exact .unsent here room
  | read =>
    simp only [step] at stepped
    split at stepped
    · rename_i received
      cases stepped
      obtain ⟨held, rfl⟩ := Chan.recv_value received
      exact .read held
    · cases stepped

variable (w) in
def passed : List Nat :=
  (w.received ++ w.out.buf).filterMap WatchEvent.place? ++ w.pc.event?.toList

variable (w) in
/-- How full the buffer is while there is no room for an event. -/
def Phase : Prop :=
  match w.pc with
  | .drop _ =>
    if w.stalled then w.out.buf.length = w.out.cap else w.out.buf.length < w.out.cap
  | .warn _ =>
    if w.stalled then w.out.buf.length + 1 = w.out.cap else w.out.buf.length + 1 < w.out.cap
  | .retry _ =>
    if w.stalled then w.out.buf.length = w.out.cap ∧ .error ∈ w.out.buf
    else w.out.buf.length < w.out.cap
  | .idle | .offer _ | .returned => True

structure Inv (w : Watch) : Prop where
  cap : 1 < w.out.cap
  phase : w.Phase
  ordered : w.passed.Pairwise (· < ·)
  old : ∀ ev ∈ w.passed, ev < w.taken

theorem Phase.room (phase : w.Phase) {ev : Nat} (here : w.pc = .warn ev) :
    w.out.buf.length < w.out.cap := by
  simp only [Phase, here] at phase
  split_ifs at phase <;> omega

theorem Move.passed (move : w.Move a w') :
    w'.taken = w.taken ∧ w'.passed.Sublist w.passed ∨
      w'.taken = w.taken + 1 ∧ w'.passed = w.passed ++ [w.taken] := by
  have sent : ∀ ev, List.Sublist
      ((w.received ++ (w.out.trySend (.source ev)).buf).filterMap WatchEvent.place?)
      ((w.received ++ w.out.buf).filterMap WatchEvent.place? ++ [ev]) := by
    intro ev
    rw [Chan.trySend_buf]
    split
    · simp [WatchEvent.place?]
    · exact List.sublist_append_left ..
  cases move with
  | take idle => exact .inr ⟨rfl, by simp [Watch.passed, idle, Pc.event?]⟩
  | stop idle | full idle | unsent idle =>
    exact .inl ⟨rfl, by simp [Watch.passed, idle, Pc.event?]⟩
  | sent here | resent here =>
    refine .inl ⟨rfl, ?_⟩
    simpa [Watch.passed, here, Pc.event?] using sent _
  | dropped here =>
    refine .inl ⟨rfl, ?_⟩
    simp only [Watch.passed, here, Pc.event?, Chan.rest_buf]
    exact (((List.tail_sublist _).append_left _).filterMap _).append_right _
  | warned here =>
    refine .inl ⟨rfl, ?_⟩
    simp only [Watch.passed, here, Pc.event?, Chan.trySend_buf]
    split <;> simp [WatchEvent.place?]
  | read held =>
    refine .inl ⟨rfl, ?_⟩
    rw [Watch.passed, Watch.passed, held, List.append_assoc]
    exact .refl _

theorem Move.phase (move : w.Move a w') (wide : 1 < w.out.cap) (phase : w.Phase) :
    w'.out.cap = w.out.cap ∧ w'.Phase := by
  have fits := w.out.fits
  cases move with
  | take | stop | unsent => exact ⟨rfl, trivial⟩
  | sent | resent => exact ⟨Chan.trySend_cap .., trivial⟩
  | full here full =>
    refine ⟨rfl, ?_⟩
    simp only [Phase, if_true]
    omega
  | dropped here =>
    refine ⟨rfl, ?_⟩
    simp only [Phase, here, Chan.rest, List.length_tail] at phase ⊢
    split_ifs at phase ⊢ <;> omega
  | warned here =>
    refine ⟨Chan.trySend_cap .., ?_⟩
    simp only [Phase, Chan.trySend_buf, Chan.trySend_cap, if_pos (phase.room here),
      List.length_append, List.length_singleton]
    simp only [Phase, here] at phase
    split_ifs at phase ⊢
    · exact ⟨phase, by simp⟩
    · exact phase
  | read held =>
    refine ⟨rfl, ?_⟩
    have length := congrArg List.length held
    rw [List.length_cons, Chan.rest_buf] at length
    -- There is more room, wherever the loop stands.
    unfold Phase at phase ⊢
    cases here : w.pc <;> simp only [here, Bool.false_eq_true, if_false, Chan.rest] at phase ⊢
    all_goals split_ifs at phase <;> omega

theorem Inv.step (inv : w.Inv) (stepped : w.step a = some w') : w'.Inv := by
  have move := move_of_step stepped
  obtain ⟨same, phase⟩ := move.phase inv.cap inv.phase
  rcases move.passed with ⟨taken, fewer⟩ | ⟨taken, more⟩
  · exact ⟨same ▸ inv.cap, phase, inv.ordered.sublist fewer,
      fun ev there => taken ▸ inv.old ev (fewer.subset there)⟩
  · refine ⟨same ▸ inv.cap, phase, ?_, ?_⟩
    · rw [more, List.pairwise_append]
      refine ⟨inv.ordered, List.pairwise_singleton .., fun ev there ev' last => ?_⟩
      rw [List.mem_singleton.mp last]
      exact inv.old ev there
    · intro ev there
      rw [more, List.mem_append, List.mem_singleton] at there
      rcases there with there | rfl
      · have := inv.old ev there
        omega
      · omega

theorem inv_of_reach (reached : Runs {} w) : w.Inv :=
  reached.invariant Inv
    ⟨by decide, trivial, by simp [passed, Chan.make, Pc.event?],
      by simp [passed, Chan.make, Pc.event?]⟩
    fun _ _ _ inv _ stepped => inv.step stepped

/-- The loop has handled an event, while the client did not read. -/
structure Handled (w w' : Watch) (buf : List WatchEvent) : Prop where
  reached : Runs w w'
  idle : w'.pc = .idle
  taken : w'.taken = w.taken + 1
  received : w'.received = w.received
  cap : w'.out.cap = w.out.cap
  buf : w'.out.buf = buf

theorem exists_sent (idle : w.pc = .idle) (room : w.out.buf.length < w.out.cap) :
    ∃ w', Handled w w' (w.out.buf ++ [.source w.taken]) := by
  have first : w.step .take = some _ := if_pos idle
  refine ⟨_, .next (.next .start trivial first) trivial
    (show Watch.step _ .forward = some _ from if_pos (decide_eq_true room)), rfl, rfl, rfl,
    Chan.trySend_cap .., ?_⟩
  rw [Chan.trySend_buf, if_pos room]

theorem exists_overflow (idle : w.pc = .idle) (full : w.out.buf.length = w.out.cap)
    (positive : 0 < w.out.cap) :
    ∃ w₀ w', Runs w w₀ ∧ w₀.step .forward = some w' ∧
      w'.lost ≠ w₀.lost ∧ Handled w w' (w.out.buf.tail ++ [.error]) := by
  have none : w.out.hasRoom ≠ true := by simp [Chan.hasRoom, full]
  have first : w.step .take = some _ := if_pos idle
  have second : ({ w with pc := .offer w.taken, taken := w.taken + 1 } : Watch).step .forward
      = some { w with pc := .drop w.taken, taken := w.taken + 1, stalled := true } := if_neg none
  have marked : (w.out.rest.trySend .error).buf = w.out.buf.tail ++ [.error] := by
    rw [Chan.trySend_buf, if_pos (by simp [Chan.rest]; omega), Chan.rest_buf]
  have still : (w.out.rest.trySend .error).hasRoom = false := by
    rw [Chan.hasRoom, marked, Chan.trySend_cap]
    simp [Chan.rest]
    omega
  have before : Runs w _ := .next (.next (.next (.next .start trivial first)
    trivial second) (a := .forward) trivial rfl) (a := .forward) trivial rfl
  refine ⟨_, _, before, rfl, by simp [still], before.next (a := .forward) trivial rfl, rfl, rfl,
    rfl, by simp [Chan.rest], ?_⟩
  rw [Chan.trySend_of_full still, marked]

theorem exists_filled (n : Nat) (few : n ≤ watchBufferSize) :
    ∃ w, Runs {} w ∧ w.pc = .idle ∧ w.taken = n ∧ w.received = [] ∧
      w.out.cap = watchBufferSize ∧ w.out.buf = (List.range n).map .source := by
  induction n with
  | zero => exact ⟨{}, .start, rfl, rfl, rfl, rfl, rfl⟩
  | succ n ih =>
    obtain ⟨w, reached, idle, taken, received, cap, buf⟩ := ih (by omega)
    have room : w.out.buf.length < w.out.cap := by
      rw [buf, cap, List.length_map, List.length_range]
      exact few
    obtain ⟨w', sent⟩ := exists_sent idle room
    refine ⟨w', reached.trans sent.reached, sent.idle, by rw [sent.taken, taken],
      sent.received.trans received, sent.cap.trans cap, ?_⟩
    rw [sent.buf, buf, taken, List.range_succ, List.map_append]
    rfl

/-- The events fill the buffer, and one more is lost. -/
theorem exists_full : ∃ w w₀ w', Runs {} w ∧
    w.taken = watchBufferSize ∧ w.received = [] ∧ w.out.cap = watchBufferSize ∧
    w.out.buf = (List.range watchBufferSize).map .source ∧
    Runs w w₀ ∧ w₀.step .forward = some w' ∧ w'.lost ≠ w₀.lost ∧
    Handled w w' (w.out.buf.tail ++ [.error]) := by
  obtain ⟨w, reached, idle, taken, received, cap, buf⟩ :=
    exists_filled watchBufferSize (Nat.le_refl _)
  obtain ⟨w₀, w', more⟩ := exists_overflow idle (by simp [buf, cap]) (by rw [cap]; decide)
  exact ⟨w, w₀, w', reached, taken, received, cap, buf, more⟩

/-- Nothing is displaced from the buffer. -/
def Calm (w : Watch) (a : Action) : Prop := a = .forward → ∀ ev, w.pc ≠ .drop ev

def Owed (before : List WatchEvent) (w : Watch) : Prop :=
  ∃ since, w.received = before ++ since ∧ (.error ∈ since ∨
    .error ∈ w.out.buf ∧ since.length + w.out.buf.idxOf .error < w.out.cap ∨
    (∃ ev, w.pc = .warn ev) ∧ since.length + w.out.buf.length < w.out.cap)

theorem Move.owed_of_lost (move : w.Move a w') (phase : w.Phase) (lost : w'.lost ≠ w.lost) :
    Owed w'.received w' := by
  refine ⟨[], (List.append_nil _).symm, .inr ?_⟩
  cases move with
  | dropped here =>
    refine .inr ⟨⟨_, rfl⟩, ?_⟩
    have some : w.out.buf ≠ [] := fun none => lost (by simp [none])
    have := List.length_pos_iff.mpr some
    have := w.out.fits
    simp only [Chan.rest, List.length_tail, List.length_nil]
    omega
  | unsent here full =>
    simp only [Phase, here] at phase
    split_ifs at phase
    · refine .inl ⟨phase.2, ?_⟩
      have := List.idxOf_lt_length_of_mem phase.2
      simp only [List.length_nil]
      omega
    · exact absurd phase full
  | _ => exact absurd rfl lost

theorem Move.owed {before : List WatchEvent} (move : w.Move a w') (phase : w.Phase)
    (calm : w.Calm a) (owed : Owed before w) : Owed before w' := by
  obtain ⟨since, received, owed⟩ := owed
  have sent : ∀ ev, .error ∈ w.out.buf → .error ∈ (w.out.trySend ev).buf ∧
      (w.out.trySend ev).buf.idxOf .error = w.out.buf.idxOf .error := by
    intro ev there
    rw [Chan.trySend_buf]
    split
    · exact ⟨List.mem_append_left _ there, List.idxOf_append_of_mem there⟩
    · exact ⟨there, rfl⟩
  cases move with
  | take here | stop here | full here | unsent here =>
    exact ⟨since, received, owed.imp_right fun waits => .inl (waits.resolve_right (by simp [here]))⟩
  | sent here | resent here =>
    refine ⟨since, received, owed.imp_right fun waits => .inl ?_⟩
    obtain ⟨there, near⟩ := waits.resolve_right (by simp [here])
    rw [(sent _ there).2, Chan.trySend_cap]
    exact ⟨(sent _ there).1, near⟩
  | dropped here => exact absurd here (calm rfl _)
  | warned here =>
    refine ⟨since, received, owed.imp_right fun waits => .inl ?_⟩
    rw [Chan.trySend_cap]
    rcases waits with ⟨there, near⟩ | ⟨-, near⟩
    · exact ⟨(sent _ there).1, (sent _ there).2 ▸ near⟩
    · rw [Chan.trySend_buf, if_pos (phase.room here)]
      have last : (w.out.buf ++ [WatchEvent.error]).idxOf .error ≤ w.out.buf.length := by
        have := List.idxOf_lt_length_of_mem (List.mem_append_right w.out.buf
          (List.mem_singleton_self WatchEvent.error))
        simp only [List.length_append, List.length_singleton] at this
        omega
      exact ⟨by simp, by omega⟩
  | @read ev held =>
    refine ⟨since ++ [ev], by rw [received, List.append_assoc], ?_⟩
    rcases owed with told | ⟨there, near⟩ | ⟨warning, near⟩
    · exact .inl (List.mem_append_left _ told)
    · rw [held] at there near
      rcases List.mem_cons.mp there with rfl | later
      · exact .inl (by simp)
      · by_cases same : ev = .error
        · exact .inl (by simp [same])
        · rw [List.idxOf_cons_ne _ same] at near
          refine .inr (.inl ⟨later, ?_⟩)
          simp only [List.length_append, List.length_singleton, Chan.rest] at near ⊢
          omega
    · have length := congrArg List.length held
      rw [List.length_cons] at length
      refine .inr (.inr ⟨warning, ?_⟩)
      simp only [List.length_append, List.length_singleton, Chan.rest] at length ⊢
      omega

/--
The client receives events in the order of the source; after a loss it receives a marker among the
events the buffer can hold, or before the buffer is empty, provided that nothing more is displaced.
-/
theorem losses_told (reached : Runs {} w) :
    (w.received.filterMap WatchEvent.place?).Pairwise (· < ·) ∧
    (∀ ev ∈ w.received.filterMap WatchEvent.place?, ev < w.taken) ∧
    ∀ (a : Action) (w₁ w₂ : Watch), w.step a = some w₁ → w₁.lost ≠ w.lost → Reach step Calm w₁ w₂ →
      ∃ since, w₂.received = w₁.received ++ since ∧
        (w₂.out.cap ≤ since.length ∨ w₂.out.buf = [] ∧ w₂.pc.event? = none → .error ∈ since) := by
  have inv := inv_of_reach reached
  have received : (w.received.filterMap WatchEvent.place?).Sublist w.passed := by
    rw [passed, List.filterMap_append, List.append_assoc]
    exact List.sublist_append_left ..
  refine ⟨inv.ordered.sublist received, fun ev there => inv.old ev (received.subset there),
    fun a w₁ w₂ stepped lost after => ?_⟩
  have owed : w₂.Inv ∧ Owed w₁.received w₂ := after.invariant
    (fun w => w.Inv ∧ Owed w₁.received w)
    ⟨inv.step stepped, (move_of_step stepped).owed_of_lost inv.phase lost⟩
    fun _ _ _ holds calm stepped =>
      ⟨holds.1.step stepped, (move_of_step stepped).owed holds.1.phase calm holds.2⟩
  obtain ⟨since, received, owed⟩ := owed.2
  refine ⟨since, received, fun enough => ?_⟩
  rcases owed with told | ⟨there, near⟩ | ⟨⟨ev, warning⟩, near⟩
  · exact told
  · rcases enough with long | ⟨empty, -⟩
    · omega
    · simp [empty] at there
  · rcases enough with long | ⟨-, done⟩
    · omega
    · simp [warning, Pc.event?] at done

variable (w) in
/-- The client has received the oldest event in the buffer. -/
def advanced (ev : WatchEvent) : Watch :=
  { w with out := w.out.rest, received := w.received ++ [ev], stalled := false }

theorem step_read {ev : WatchEvent} {newer : List WatchEvent} (held : w.out.buf = ev :: newer) :
    w.step .read = some (w.advanced ev) := by
  simp [step, Chan.recv, held, advanced]

theorem exists_drained (w : Watch) :
    ∃ w', Reach step Calm w w' ∧ w'.out.buf = [] ∧ w'.pc = w.pc := by
  generalize held : w.out.buf = buf
  induction buf generalizing w with
  | nil => exact ⟨w, .start, held, rfl⟩
  | cons ev newer ih =>
    have first : Reach step Calm w (w.advanced ev) :=
      Reach.start.next (fun other => by cases other) (step_read held)
    obtain ⟨w', reached, empty, same⟩ := ih (w.advanced ev) (by simp [advanced, held])
    exact ⟨w', first.trans reached, empty, same⟩

theorem losses_told_drained : ∃ (w₁ w₂ : Watch) (since : List WatchEvent),
    (∃ w, Runs {} w ∧ w.step .forward = some w₁ ∧ w₁.lost ≠ w.lost) ∧
    Reach step Calm w₁ w₂ ∧ w₂.received = w₁.received ++ since ∧ .error ∈ since := by
  obtain ⟨w, w₀, w₁, reached, -, -, -, -, before, stepped, lost, handled⟩ := exists_full
  obtain ⟨w₂, after, empty, same⟩ := exists_drained w₁
  have done : w₂.pc.event? = none := by simp [same, handled.idle, Pc.event?]
  obtain ⟨since, received, told⟩ :=
    (losses_told (reached.trans before)).2.2 .forward w₁ w₂ stepped lost after
  exact ⟨w₁, w₂, since, ⟨w₀, reached.trans before, stepped, lost⟩, after, received,
    told (.inr ⟨empty, done⟩)⟩

structure Starving (w : Watch) : Prop where
  idle : w.pc = .idle
  wide : 1 < w.out.cap
  full : w.out.buf.length = w.out.cap
  untold : .error ∉ w.received
  once : w.out.buf.count .error = 1

theorem Starving.displace (starving : w.Starving) (first : w.out.buf.head? = some .error) :
    ∃ w', Runs w w' ∧ w'.Starving ∧ w'.received = w.received ∧
      w'.out.buf.head? ≠ some .error := by
  obtain ⟨idle, wide, full, untold, once⟩ := starving
  obtain ⟨-, w', -, -, -, handled⟩ := exists_overflow idle full (Nat.zero_lt_of_lt wide)
  obtain ⟨newer, held⟩ := List.head?_eq_some_iff.mp first
  have buf := handled.buf
  rw [held, List.tail_cons] at buf
  rw [held] at full once
  refine ⟨w', handled.reached,
    ⟨handled.idle, handled.cap ▸ wide, ?_, handled.received ▸ untold, ?_⟩, handled.received, ?_⟩
  · simpa [buf, handled.cap] using full
  · simpa [buf] using once
  · rw [buf]
    cases newer with
    | nil =>
      simp only [List.length_singleton] at full
      omega
    | cons ev newer =>
      rintro same
      obtain rfl : ev = .error := by simpa using same
      simp at once

theorem Starving.read (starving : w.Starving) (first : w.out.buf.head? ≠ some .error) :
    ∃ w', Runs w w' ∧ w'.received.length = w.received.length + 1 ∧
      w'.Starving := by
  obtain ⟨idle, wide, full, untold, once⟩ := starving
  cases held : w.out.buf with
  | nil => simp [held] at once
  | cons ev newer =>
    have other : ev ≠ .error := by simpa [held] using first
    rw [held] at full once
    have room : (w.advanced ev).out.buf.length < (w.advanced ev).out.cap := by
      simp only [advanced, Chan.rest, held, List.tail_cons, List.length_cons] at full ⊢
      omega
    obtain ⟨w', handled⟩ := exists_sent (w := w.advanced ev) idle room
    have buf : w'.out.buf = newer ++ [.source w.taken] := by
      rw [handled.buf]
      simp [advanced, held]
    refine ⟨w', (Reach.start.next trivial (step_read held)).trans handled.reached, ?_, handled.idle,
      handled.cap ▸ wide, ?_, ?_, ?_⟩
    · simp [handled.received, advanced]
    · simpa [buf, handled.cap, advanced, Chan.rest] using full
    · simp [handled.received, advanced, untold, Ne.symm other]
    · simpa [buf, other] using once

theorem Starving.next (starving : w.Starving) : ∃ w', Runs w w' ∧
    w'.received.length = w.received.length + 1 ∧ w'.Starving := by
  by_cases first : w.out.buf.head? = some .error
  · obtain ⟨w₁, reached, starving, same, other⟩ := starving.displace first
    obtain ⟨w₂, after, received, starving⟩ := starving.read other
    exact ⟨w₂, reached.trans after, same ▸ received, starving⟩
  · exact starving.read first

/-- A client that keeps reading may never be told of a loss, as every marker is displaced. -/
theorem losses_untold : ∃ run : Nat → Watch,
    (∃ w, Runs {} w ∧ w.step .forward = some (run 0) ∧
      (run 0).lost ≠ w.lost) ∧
    ∀ n, Runs (run n) (run (n + 1)) ∧
      (run (n + 1)).received.length = (run n).received.length + 1 ∧ .error ∉ (run n).received := by
  obtain ⟨w, w₀, w', reached, -, received, cap, buf, before, stepped, lost, handled⟩ := exists_full
  have none : ((List.range watchBufferSize).map WatchEvent.source).tail.count .error = 0 :=
    List.count_eq_zero.mpr fun there => by simpa using List.mem_of_mem_tail there
  have starving : w'.Starving := by
    refine ⟨handled.idle, ?_, ?_, ?_, ?_⟩
    · rw [handled.cap, cap]
      decide
    · rw [handled.buf, handled.cap, cap, buf]
      simp [watchBufferSize]
    · simp [handled.received, received]
    · rw [handled.buf, buf, List.count_append, none]
      rfl
  choose next steps using fun w : { w // Starving w } => w.2.next
  let run : Nat → { w // Starving w } :=
    Nat.rec ⟨w', starving⟩ fun _ w => ⟨next w, (steps w).2.2⟩
  exact ⟨fun n => (run n).1, ⟨w₀, reached.trans before, stepped, lost⟩,
    fun n => ⟨(steps (run n)).1, (steps (run n)).2.1, (run n).2.untold⟩⟩

end Watch

end Falak.Api
