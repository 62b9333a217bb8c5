import Falak.Lib.Chan
import Falak.Lib.Reach
import Mathlib.Logic.Function.Basic
import Mathlib.Tactic.SplitIfs

/-!
The event bus of a node: publishers, subscribers, the dispatcher, and the calls that close it.

An action is what one goroutine does between two points where another can interfere: a section
under the mutex of the bus, or one operation on a channel.
-/

namespace Falak.Events

def bufferSize (opts : List Int) : Nat :=
  (opts.foldl (fun size n => if n > 0 then n else size) 100).toNat

structure Bus (E : Type) where
  inputCh : Chan E
  done : Bool
  closed : Bool
  subscribers : List (String × Nat)
  allSubs : List Nat
  chans : Nat → Chan E
  made : Nat
  droppedCount : UInt64

namespace Bus

variable {E : Type} (b : Bus E)

variable (eventType : String) (ch : Nat) (opts : List Int)

def subs : List Nat :=
  (b.subscribers.filter fun sub => sub.1 = eventType).map Prod.snd

def registered : List Nat := b.subscribers.map Prod.snd ++ b.allSubs

def makeChan : Bus E :=
  { b with
    chans := Function.update b.chans b.made (.make (bufferSize opts))
    made := b.made + 1 }

def subscribe : Bus E :=
  { b.makeChan opts with subscribers := b.subscribers ++ [(eventType, b.made)] }

def subscribeAll : Bus E :=
  { b.makeChan opts with allSubs := b.allSubs ++ [b.made] }

def unsubscribe : Except ChanPanic (Bus E) :=
  if ch ∈ b.subs eventType then
    (b.chans ch).closeOnce.map fun closed =>
      { b with
        subscribers := b.subscribers.erase (eventType, ch)
        chans := Function.update b.chans ch closed }
  else .ok b

/-- The first section of `Close`, on a bus that is not closed. -/
def closeInput : Except ChanPanic (Bus E) :=
  b.inputCh.closeOnce.map fun input => { b with closed := true, done := true, inputCh := input }

def closeChan (chans : Nat → Chan E) (ch : Nat) : Except ChanPanic (Nat → Chan E) :=
  (chans ch).closeOnce.map (Function.update chans ch)

/-- The second section of `Close`. The channels stay registered. -/
def closeSubscribers : Except ChanPanic (Bus E) :=
  (b.registered.foldlM closeChan b.chans).map ({ b with chans := · })

def place (e : E) : Except ChanPanic (Bus E × Bool) :=
  ((b.chans ch).offer e).map fun (sent, placed) =>
    ({ b with
        chans := Function.update b.chans ch sent
        droppedCount := if placed then b.droppedCount else b.droppedCount + 1 },
      placed)

variable {b} {t : String} {ch : Nat} {b' : Bus E} {p : ChanPanic}

theorem mem_subs : ch ∈ b.subs t ↔ (t, ch) ∈ b.subscribers := by
  simp [subs]

theorem mem_registered (listed : (t, ch) ∈ b.subscribers) : ch ∈ b.registered :=
  List.mem_append_left _ (List.mem_map_of_mem (f := Prod.snd) listed)

theorem unsubscribe_ok (left : b.unsubscribe t ch = .ok b') :
    (t, ch) ∉ b.subscribers ∧ b' = b ∨
      (t, ch) ∈ b.subscribers ∧ (b.chans ch).closed = false ∧
        b' = { b with
          subscribers := b.subscribers.erase (t, ch)
          chans := Function.update b.chans ch (b.chans ch).close } := by
  unfold unsubscribe at left
  split_ifs at left with listed
  · cases closed : (b.chans ch).closed with
    | true => simp [Chan.closeOnce_of_closed closed, Except.map] at left
    | false =>
      simp only [Chan.closeOnce_of_open closed, Except.map, Except.ok.injEq] at left
      exact .inr ⟨mem_subs.mp listed, rfl, left.symm⟩
  · cases left
    exact .inl ⟨fun found => listed (mem_subs.mpr found), rfl⟩

theorem unsubscribe_of_closed (listed : (t, ch) ∈ b.subscribers)
    (closed : (b.chans ch).closed = true) : b.unsubscribe t ch = .error .closeOfClosed := by
  simp [unsubscribe, mem_subs, listed, Chan.closeOnce_of_closed closed, Except.map]

theorem unsubscribe_error (left : b.unsubscribe t ch = .error p) :
    (t, ch) ∈ b.subscribers ∧ (b.chans ch).closed = true := by
  unfold unsubscribe at left
  split_ifs at left with listed
  cases closed : (b.chans ch).closed with
  | true => exact ⟨mem_subs.mp listed, rfl⟩
  | false => simp [Chan.closeOnce_of_open closed, Except.map] at left

theorem closeInput_of_open (live : b.inputCh.closed = false) :
    b.closeInput = .ok { b with closed := true, done := true, inputCh := b.inputCh.close } := by
  simp [closeInput, Chan.closeOnce_of_open live, Except.map]

theorem foldlM_closeChan (l : List Nat) (distinct : l.Nodup) (chans : Nat → Chan E)
    (live : ∀ ch ∈ l, (chans ch).closed = false) :
    l.foldlM closeChan chans = .ok fun ch => if ch ∈ l then (chans ch).close else chans ch := by
  induction l generalizing chans with
  | nil => simp [pure, Except.pure]
  | cons first rest ih =>
    obtain ⟨fresh, distinct⟩ := List.nodup_cons.mp distinct
    have later : ∀ ch ∈ rest,
        (Function.update chans first (chans first).close ch).closed = false := by
      intro ch listed
      rw [Function.update_of_ne (ne_of_mem_of_not_mem listed fresh)]
      exact live ch (List.mem_cons_of_mem _ listed)
    have closes :
        closeChan chans first = .ok (Function.update chans first (chans first).close) := by
      simp [closeChan, Chan.closeOnce_of_open (live first List.mem_cons_self), Except.map]
    simp only [List.foldlM_cons, closes, bind, Except.bind, ih distinct _ later, Except.ok.injEq]
    funext ch
    by_cases same : ch = first
    · subst same
      simp [fresh]
    · simp [same]

theorem closeSubscribers_of_open (distinct : b.registered.Nodup)
    (live : ∀ ch ∈ b.registered, (b.chans ch).closed = false) :
    b.closeSubscribers = .ok { b with
      chans := fun ch => if ch ∈ b.registered then (b.chans ch).close else b.chans ch } := by
  simp [closeSubscribers, foldlM_closeChan _ distinct _ live, Except.map]

theorem place_ok {e : E} {placed : Bool} (sent : b.place ch e = .ok (b', placed)) :
    placed = (b.chans ch).hasRoom ∧
      b' = { b with
        chans := Function.update b.chans ch ((b.chans ch).trySend e)
        droppedCount := if placed then b.droppedCount else b.droppedCount + 1 } := by
  unfold place at sent
  cases offered : (b.chans ch).offer e with
  | error p => simp [offered, Except.map] at sent
  | ok result =>
    obtain ⟨channel, room⟩ := result
    obtain ⟨-, rfl, rfl⟩ := Chan.offer_ok offered
    simp only [offered, Except.map, Except.ok.injEq, Prod.mk.injEq] at sent
    obtain ⟨rfl, rfl⟩ := sent
    exact ⟨rfl, rfl⟩

theorem place_error {e : E} (sent : b.place ch e = .error p) : (b.chans ch).closed = true := by
  unfold place at sent
  cases offered : (b.chans ch).offer e with
  | error p => exact Chan.offer_error offered
  | ok result => simp [offered, Except.map] at sent

end Bus

structure Dispatch (E : Type) where
  event : E
  registered : List Nat
  placed : List Nat

inductive Dispatcher (E : Type)
  | waiting
  | received (event : E)
  | fanning (current : Dispatch E) (rest : List Nat)
  | ended

inductive SelectCase
  | send
  | ctxDone
  | default
  deriving DecidableEq

structure World (E : Type) extends Bus E where
  publishing : List E
  dispatcher : Dispatcher E
  /-- Whether a `Close` is between its two sections. -/
  closing : Bool
  panic : Option ChanPanic
  shut : List Nat
  read : Nat → List E
  members : List Nat
  kinds : Nat → Option String
  enqueued : List E
  dispatches : List (Dispatch E)

inductive Action (E : Type)
  | publish (event : E)
  | select (index : Nat) (case : SelectCase)
  | subscribe (eventType : String) (opts : List Int)
  | subscribeAll (opts : List Int)
  | unsubscribe (eventType : String) (ch : Nat)
  | receive (ch : Nat)
  /-- The first section of `Close`. -/
  | close
  /-- The second section of `Close`. -/
  | closeSubscribers
  | cancel
  | dispatchDone
  | dispatchNext
  | fanout
  | fanoutNext

namespace World

variable {E : Type} (eventType : E → String) (w : World E)

def new (size : Nat) : World E where
  inputCh := .make size
  done := false
  closed := false
  subscribers := []
  allSubs := []
  chans := fun _ => .make 0
  made := 0
  droppedCount := 0
  publishing := []
  dispatcher := .waiting
  closing := false
  panic := none
  shut := []
  read := fun _ => []
  members := []
  kinds := fun _ => none
  enqueued := []
  dispatches := []

def locked : Bool :=
  match w.dispatcher with
  | .fanning _ _ => true
  | _ => false

/-- Go on with the bus that a section has left, or crash. -/
def settle (result : Except ChanPanic (Bus E)) (after : World E → World E) : World E :=
  match result with
  | .error p => { w with panic := some p }
  | .ok b => after { w with toBus := b }

/-- A new subscriber, whose channel is the one that was made last. -/
def join (kind : Option String) (b : Bus E) : World E :=
  { w with
    toBus := b
    members := w.members ++ [w.made]
    kinds := Function.update w.kinds w.made kind }

def membersWithout (t : String) (ch : Nat) : List Nat :=
  if w.kinds ch = some t then w.members.erase ch else w.members

def wants (kind : Option String) (e : E) : Bool := kind = none || kind = some (eventType e)

def matching (e : E) : List Nat := w.members.filter fun ch => wants eventType (w.kinds ch) e

def select (index : Nat) (e : E) : SelectCase → Option (World E)
  | .send =>
    if w.inputCh.closed then some { w with panic := some .sendOnClosed }
    else if w.inputCh.hasRoom then
      some { w with
        inputCh := w.inputCh.trySend e
        publishing := w.publishing.eraseIdx index
        enqueued := w.enqueued ++ [e] }
    else
      match w.inputCh.cap, w.dispatcher with
      | 0, .waiting =>
        some { w with
          dispatcher := .received e
          publishing := w.publishing.eraseIdx index
          enqueued := w.enqueued ++ [e] }
      | _, _ => none
  | .ctxDone => if w.done then some { w with publishing := w.publishing.eraseIdx index } else none
  | .default =>
    if w.inputCh.closed || w.inputCh.hasRoom || w.done then none
    else some { w with publishing := w.publishing.eraseIdx index }

def fanoutTo (current : Dispatch E) (ch : Nat) (rest : List Nat) : World E :=
  match w.place ch current.event with
  | .error p => { w with panic := some p }
  | .ok (b, true) =>
    { w with
      toBus := b
      dispatcher := .fanning { current with placed := current.placed ++ [ch] } rest }
  | .ok (b, false) => { w with toBus := b, dispatcher := .fanning current rest }

def act : Action E → Option (World E)
  | .publish e => some (if w.closed then w else { w with publishing := w.publishing ++ [e] })
  | .select index case => w.publishing[index]?.bind fun e => w.select index e case
  | .subscribe t opts =>
    if w.locked then none else some (w.join (some t) (w.subscribe t opts))
  | .subscribeAll opts => if w.locked then none else some (w.join none (w.subscribeAll opts))
  | .unsubscribe t ch =>
    if w.locked then none
    else some (w.settle (w.unsubscribe t ch) ({ · with members := w.membersWithout t ch }))
  | .receive ch =>
    match (w.chans ch).recv with
    | none => none
    | some .zero => some w
    | some (.value e rest) =>
      some { w with
        chans := Function.update w.chans ch rest
        read := Function.update w.read ch (w.read ch ++ [e]) }
  | .close =>
    if w.locked then none
    else if w.closed then some w
    else some (w.settle w.closeInput ({ · with closing := true }))
  | .closeSubscribers =>
    match w.closing, w.dispatcher with
    | true, .ended =>
      some (w.settle w.toBus.closeSubscribers ({ · with closing := false, shut := w.registered }))
    | _, _ => none
  | .cancel => some { w with done := true }
  | .dispatchDone =>
    match w.dispatcher with
    | .waiting => if w.done then some { w with dispatcher := .ended } else none
    | _ => none
  | .dispatchNext =>
    match w.dispatcher with
    | .waiting =>
      match w.inputCh.recv with
      | none => none
      | some .zero => some { w with dispatcher := .ended }
      | some (.value e rest) => some { w with inputCh := rest, dispatcher := .received e }
    | _ => none
  | .fanout =>
    match w.dispatcher with
    | .received e =>
      let current : Dispatch E := ⟨e, w.matching eventType e, []⟩
      some { w with dispatcher := .fanning current (w.subs (eventType e) ++ w.allSubs) }
    | _ => none
  | .fanoutNext =>
    match w.dispatcher with
    | .fanning current (ch :: rest) => some (w.fanoutTo current ch rest)
    | .fanning current [] =>
      some { w with dispatcher := .waiting, dispatches := w.dispatches ++ [current] }
    | _ => none

/-- One action. Nothing happens any more after a panic. -/
def step (a : Action E) : Option (World E) :=
  if w.panic.isSome then none else w.act eventType a

inductive Move : Action E → World E → Prop
  | refused (e : E) (closed : w.closed = true) : Move (.publish e) w
  | admitted (e : E) (live : w.closed = false) :
      Move (.publish e) { w with publishing := w.publishing ++ [e] }
  | sent (index : Nat) (e : E) (live : w.inputCh.closed = false)
      (room : w.inputCh.hasRoom = true) :
      Move (.select index .send)
        { w with
          inputCh := w.inputCh.trySend e
          publishing := w.publishing.eraseIdx index
          enqueued := w.enqueued ++ [e] }
  | handed (index : Nat) (e : E) (live : w.inputCh.closed = false) (unbuffered : w.inputCh.cap = 0)
      (waits : w.dispatcher = .waiting) :
      Move (.select index .send)
        { w with
          dispatcher := .received e
          publishing := w.publishing.eraseIdx index
          enqueued := w.enqueued ++ [e] }
  | sendPanics (index : Nat) (closed : w.inputCh.closed = true) :
      Move (.select index .send) { w with panic := some .sendOnClosed }
  | left (index : Nat) (case : SelectCase) (other : case ≠ .send) :
      Move (.select index case) { w with publishing := w.publishing.eraseIdx index }
  | subscribed (t : String) (opts : List Int) (free : w.locked = false) :
      Move (.subscribe t opts) (w.join (some t) (w.subscribe t opts))
  | subscribedAll (opts : List Int) (free : w.locked = false) :
      Move (.subscribeAll opts) (w.join none (w.subscribeAll opts))
  | unsubscribed (t : String) (ch : Nat) (b : Bus E) (free : w.locked = false)
      (result : w.unsubscribe t ch = .ok b) :
      Move (.unsubscribe t ch) { w with toBus := b, members := w.membersWithout t ch }
  | unsubscribePanics (t : String) (ch : Nat) (p : ChanPanic)
      (result : w.unsubscribe t ch = .error p) :
      Move (.unsubscribe t ch) { w with panic := some p }
  | received (ch : Nat) (e : E) (rest : Chan E) (got : (w.chans ch).recv = some (.value e rest)) :
      Move (.receive ch)
        { w with
          chans := Function.update w.chans ch rest
          read := Function.update w.read ch (w.read ch ++ [e]) }
  | drained (ch : Nat) : Move (.receive ch) w
  | closedBefore (closed : w.closed = true) : Move .close w
  | closedInput (b : Bus E) (live : w.closed = false) (free : w.locked = false)
      (result : w.closeInput = .ok b) : Move .close { w with toBus := b, closing := true }
  | closePanics (p : ChanPanic) (live : w.closed = false) (result : w.closeInput = .error p) :
      Move .close { w with panic := some p }
  | closedSubscribers (b : Bus E) (closing : w.closing = true) (ended : w.dispatcher = .ended)
      (result : w.toBus.closeSubscribers = .ok b) :
      Move .closeSubscribers { w with toBus := b, closing := false, shut := w.registered }
  | closeSubscribersPanics (p : ChanPanic) (closing : w.closing = true)
      (result : w.toBus.closeSubscribers = .error p) :
      Move .closeSubscribers { w with panic := some p }
  | cancelled : Move .cancel { w with done := true }
  | dispatchEnds (waits : w.dispatcher = .waiting) :
      Move .dispatchDone { w with dispatcher := .ended }
  | inputEnds (waits : w.dispatcher = .waiting) :
      Move .dispatchNext { w with dispatcher := .ended }
  | dispatched (e : E) (rest : Chan E) (waits : w.dispatcher = .waiting)
      (got : w.inputCh.recv = some (.value e rest)) :
      Move .dispatchNext { w with inputCh := rest, dispatcher := .received e }
  | fanoutStarts (e : E) (holds : w.dispatcher = .received e) :
      Move .fanout
        { w with
          dispatcher := .fanning ⟨e, w.matching eventType e, []⟩
            (w.subs (eventType e) ++ w.allSubs) }
  | placed (current : Dispatch E) (ch : Nat) (rest : List Nat) (b : Bus E)
      (fans : w.dispatcher = .fanning current (ch :: rest))
      (result : w.place ch current.event = .ok (b, true)) :
      Move .fanoutNext
        { w with
          toBus := b
          dispatcher := .fanning { current with placed := current.placed ++ [ch] } rest }
  | dropped (current : Dispatch E) (ch : Nat) (rest : List Nat) (b : Bus E)
      (fans : w.dispatcher = .fanning current (ch :: rest))
      (result : w.place ch current.event = .ok (b, false)) :
      Move .fanoutNext { w with toBus := b, dispatcher := .fanning current rest }
  | placePanics (current : Dispatch E) (ch : Nat) (rest : List Nat) (p : ChanPanic)
      (fans : w.dispatcher = .fanning current (ch :: rest))
      (result : w.place ch current.event = .error p) :
      Move .fanoutNext { w with panic := some p }
  | fanoutEnds (current : Dispatch E) (fans : w.dispatcher = .fanning current []) :
      Move .fanoutNext
        { w with dispatcher := .waiting, dispatches := w.dispatches ++ [current] }

variable {eventType w} {w' : World E} {a : Action E}

theorem select_move {index : Nat} {e : E} {case : SelectCase}
    (taken : w.select index e case = some w') : Move eventType w (.select index case) w' := by
  -- One case for each guard of the select.
  cases case with
  | send =>
    dsimp only [select] at taken
    split_ifs at taken with closed room
    · cases taken
      exact .sendPanics index closed
    · cases taken
      exact .sent index e (by simpa using closed) room
    · split at taken
      · rename_i unbuffered waits
        cases taken
        exact .handed index e (by simpa using closed) unbuffered waits
      · cases taken
  | ctxDone =>
    dsimp only [select] at taken
    split_ifs at taken
    cases taken
    exact .left index .ctxDone (by decide)
  | default =>
    dsimp only [select] at taken
    split_ifs at taken
    cases taken
    exact .left index .default (by decide)

theorem fanoutTo_move {current : Dispatch E} {ch : Nat} {rest : List Nat}
    (fans : w.dispatcher = .fanning current (ch :: rest)) :
    Move eventType w .fanoutNext (w.fanoutTo current ch rest) := by
  unfold fanoutTo
  split
  · exact .placePanics current ch rest _ fans (by assumption)
  · exact .placed current ch rest _ fans (by assumption)
  · exact .dropped current ch rest _ fans (by assumption)

theorem act_move (taken : w.act eventType a = some w') : Move eventType w a w' := by
  cases a with
  | publish e =>
    dsimp only [act] at taken
    split_ifs at taken with closed <;> cases taken
    · exact .refused e closed
    · exact .admitted e (by simpa using closed)
  | select index case =>
    obtain ⟨e, -, taken⟩ := Option.bind_eq_some_iff.mp taken
    exact select_move taken
  | subscribe t opts =>
    dsimp only [act] at taken
    split_ifs at taken with busy
    cases taken
    exact .subscribed t opts (by simpa using busy)
  | subscribeAll opts =>
    dsimp only [act] at taken
    split_ifs at taken with busy
    cases taken
    exact .subscribedAll opts (by simpa using busy)
  | unsubscribe t ch =>
    dsimp only [act] at taken
    split_ifs at taken with busy
    cases taken
    cases result : w.unsubscribe t ch with
    | error p => exact .unsubscribePanics t ch p result
    | ok b => exact .unsubscribed t ch b (by simpa using busy) result
  | receive ch =>
    dsimp only [act] at taken
    split at taken
    · cases taken
    · cases taken
      exact .drained ch
    · cases taken
      exact .received ch _ _ (by assumption)
  | close =>
    dsimp only [act] at taken
    split_ifs at taken with busy closed
    · cases taken
      exact .closedBefore closed
    · cases taken
      cases result : w.closeInput with
      | error p => exact .closePanics p (by simpa using closed) result
      | ok b => exact .closedInput b (by simpa using closed) (by simpa using busy) result
  | closeSubscribers =>
    dsimp only [act] at taken
    split at taken
    · rename_i closing ended
      cases taken
      cases result : w.toBus.closeSubscribers with
      | error p => exact .closeSubscribersPanics p closing result
      | ok b => exact .closedSubscribers b closing ended result
    · cases taken
  | cancel =>
    cases taken
    exact .cancelled
  | dispatchDone =>
    dsimp only [act] at taken
    split at taken
    · rename_i waits
      split_ifs at taken
      cases taken
      exact .dispatchEnds waits
    · cases taken
  | dispatchNext =>
    dsimp only [act] at taken
    split at taken
    · rename_i waits
      split at taken
      · cases taken
      · cases taken
        exact .inputEnds waits
      · cases taken
        exact .dispatched _ _ waits (by assumption)
    · cases taken
  | fanout =>
    dsimp only [act] at taken
    split at taken
    · cases taken
      exact .fanoutStarts _ (by assumption)
    · cases taken
  | fanoutNext =>
    dsimp only [act] at taken
    split at taken
    · cases taken
      exact fanoutTo_move (by assumption)
    · cases taken
      exact .fanoutEnds _ (by assumption)
    · cases taken

theorem step_move (taken : w.step eventType a = some w') :
    w.panic = none ∧ Move eventType w a w' := by
  unfold step at taken
  split_ifs at taken with crashed
  exact ⟨by simpa using crashed, act_move taken⟩

end World

end Falak.Events
