import Mathlib.Logic.Basic

/-! Buffered channels with non-blocking sends, receives that report a closed channel, and close. -/

namespace Falak

structure Chan (α : Type) where
  buf : List α
  cap : Nat
  closed : Bool
  fits : buf.length ≤ cap

inductive Received (α : Type)
  | value (a : α) (rest : Chan α)
  | zero

inductive ChanPanic
  | sendOnClosed
  | closeOfClosed
  deriving DecidableEq, Repr

namespace Chan

variable {α : Type}

variable (c : Chan α) (a : α)

def make (cap : Nat) : Chan α := ⟨[], cap, false, Nat.zero_le cap⟩

def trySend : Chan α :=
  if room : c.buf.length < c.cap then
    { c with
      buf := c.buf ++ [a]
      fits := by
        simp only [List.length_append, List.length_singleton]
        omega }
  else c

def rest : Chan α :=
  { c with buf := c.buf.tail, fits := by have := c.fits; simp only [List.length_tail]; omega }

def recv : Option (Received α) :=
  match c.buf.head? with
  | some a => some (.value a c.rest)
  | none => if c.closed then some .zero else none

/-- Closing leaves the waiting values in place. -/
def close : Chan α := { c with closed := true }

def hasRoom : Bool := c.buf.length < c.cap

def offer : Except ChanPanic (Chan α × Bool) :=
  if c.closed then .error .sendOnClosed else .ok (c.trySend a, c.hasRoom)

def closeOnce : Except ChanPanic (Chan α) :=
  if c.closed then .error .closeOfClosed else .ok c.close

@[simp] theorem rest_buf : c.rest.buf = c.buf.tail := rfl

@[simp] theorem rest_closed : c.rest.closed = c.closed := rfl

@[simp] theorem close_closed : c.close.closed = true := rfl

@[simp] theorem close_buf : c.close.buf = c.buf := rfl

@[simp] theorem trySend_closed : (c.trySend a).closed = c.closed := by
  unfold trySend
  split <;> rfl

@[simp] theorem trySend_cap : (c.trySend a).cap = c.cap := by
  unfold trySend
  split <;> rfl

variable {c : Chan α} {a : α}

theorem trySend_ne_nil (room : 0 < c.cap) (a : α) : (c.trySend a).buf ≠ [] := by
  unfold trySend
  split
  · simp
  · rename_i full
    intro none
    simp only [none, List.length_nil] at full
    exact full room

theorem trySend_buf (c : Chan α) (a : α) :
    (c.trySend a).buf = if c.buf.length < c.cap then c.buf ++ [a] else c.buf := by
  unfold trySend
  split <;> rfl

theorem length_trySend (c : Chan α) (a : α) : (c.trySend a).buf.length ≤ c.buf.length + 1 := by
  rw [trySend_buf]
  split
  · simp
  · omega

theorem trySend_of_full (full : c.hasRoom = false) : c.trySend a = c := by
  unfold trySend
  rw [dif_neg (by simpa [hasRoom] using full)]

theorem mem_trySend {b : α} (waiting : b ∈ (c.trySend a).buf) : b ∈ c.buf ∨ b = a := by
  rw [trySend_buf] at waiting
  split at waiting
  · simpa using waiting
  · exact .inl waiting

theorem recv_value {left : Chan α} (received : c.recv = some (.value a left)) :
    c.buf = a :: left.buf ∧ left = c.rest := by
  unfold recv at received
  cases held : c.buf with
  | nil => simp [held] at received
  | cons b tail =>
    simp only [held, List.head?_cons, Option.some.injEq, Received.value.injEq] at received
    obtain ⟨same, rfl⟩ := received
    simp [held, same]

theorem recv_zero (received : c.recv = some .zero) : c.buf = [] ∧ c.closed := by
  unfold recv at received
  cases held : c.buf with
  | nil => simpa [held] using received
  | cons b tail => simp [held] at received

theorem recv_of_open (live : c.closed = false) :
    c.recv = none ∨ ∃ a left, c.recv = some (.value a left) := by
  cases received : c.recv with
  | none => exact .inl rfl
  | some got =>
    cases got with
    | value a left => exact .inr ⟨a, left, rfl⟩
    | zero =>
      have closed := (recv_zero received).2
      rw [live] at closed
      cases closed

theorem offer_ok {sent : Chan α} {placed : Bool} (offered : c.offer a = .ok (sent, placed)) :
    c.closed = false ∧ sent = c.trySend a ∧ placed = c.hasRoom := by
  unfold offer at offered
  split at offered
  · cases offered
  · cases offered
    exact ⟨by simpa using ‹¬c.closed = true›, rfl, rfl⟩

theorem offer_error {p : ChanPanic} (offered : c.offer a = .error p) : c.closed = true := by
  unfold offer at offered
  split at offered
  · assumption
  · cases offered

theorem closeOnce_of_open (live : c.closed = false) : c.closeOnce = .ok c.close := by
  simp [closeOnce, live]

theorem closeOnce_of_closed (closed : c.closed = true) : c.closeOnce = .error .closeOfClosed := by
  simp [closeOnce, closed]

theorem recv_none : c.recv = none ↔ c.buf = [] ∧ c.closed = false := by
  unfold recv
  cases held : c.buf with
  | nil | cons => simp

end Chan

end Falak
