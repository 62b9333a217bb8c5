import Falak.Lib.Decimal
import Mathlib.Tactic.Ring

/-!
Timestamps as messages carry them, and the instants and nanosecond counts made of them.

The arithmetic is that of 64-bit integers, as in the time package of the source.
-/

namespace Falak

structure Timestamp where
  seconds : Int
  nanos : Int
  seconds_fit : -2 ^ 63 ≤ seconds ∧ seconds < 2 ^ 63
  nanos_fit : -2 ^ 31 ≤ nanos ∧ nanos < 2 ^ 31
  deriving DecidableEq

def unixToInternal : Int := 62135596800

def unixTime (sec nsec : Int) : Int :=
  (int64 (sec + unixToInternal) - unixToInternal) * second + nsec

def timeUnix (sec nsec : Int) : Int :=
  if nsec < 0 ∨ nsec ≥ 1000000000 then
    let n := nsec.tdiv 1000000000
    let sec := int64 (sec + n)
    let nsec := nsec - n * 1000000000
    if nsec < 0 then unixTime (int64 (sec - 1)) (nsec + 1000000000) else unixTime sec nsec
  else unixTime sec nsec

def unixNano (t : Int) : Int := int64 t

namespace Timestamp

def asTime (ts : Timestamp) : Int := timeUnix ts.seconds ts.nanos

def new (t : Int) : Timestamp :=
  { seconds := int64 (t / second)
    nanos := t % second
    seconds_fit := by
      have low := Int.le_bmod (x := t / second) (m := 2 ^ 64) (by decide)
      have high := Int.bmod_lt (x := t / second) (m := 2 ^ 64) (by decide)
      unfold int64
      omega
    nanos_fit := by
      have low := Int.emod_nonneg t (show second ≠ 0 by decide)
      have high := Int.emod_lt_of_pos t (show 0 < second by decide)
      simp only [second, millisecond, microsecond] at low high ⊢
      omega }

def instant (ts : Timestamp) : Int := ts.seconds * second + ts.nanos

end Timestamp

theorem int64_eq_add (x : Int) : ∃ k, int64 x = x + 2 ^ 64 * k := by
  refine ⟨-Int.bdiv x (2 ^ 64), ?_⟩
  have parts := Int.bmod_add_bdiv x (2 ^ 64)
  unfold int64
  omega

theorem int64_inj {x y : Int} : int64 x = int64 y ↔ (2 ^ 64 : Int) ∣ y - x := by
  constructor
  · intro same
    obtain ⟨j, left⟩ := int64_eq_add x
    obtain ⟨k, right⟩ := int64_eq_add y
    exact ⟨j - k, by omega⟩
  · rintro ⟨k, apart⟩
    have sum : y = x + 2 ^ 64 * k := by omega
    rw [sum, int64, int64]
    exact (Int.add_mul_bmod_self_left x (2 ^ 64) k).symm

theorem unixNano_asTime (ts : Timestamp) : unixNano ts.asTime = unixNano ts.instant := by
  have apart (sec nsec : Int) : ∃ k, unixTime sec nsec = sec * second + nsec + 2 ^ 64 * k := by
    obtain ⟨k, wrapped⟩ := int64_eq_add (sec + unixToInternal)
    refine ⟨k * second, ?_⟩
    rw [unixTime, wrapped]
    ring
  have normal : ∃ k, ts.asTime = ts.instant + 2 ^ 64 * k := by
    unfold Timestamp.asTime timeUnix
    split
    · obtain ⟨i, first⟩ := int64_eq_add (ts.seconds + ts.nanos.tdiv 1000000000)
      simp only
      split
      · obtain ⟨j, second'⟩ := int64_eq_add
          (int64 (ts.seconds + ts.nanos.tdiv 1000000000) - 1)
        obtain ⟨k, whole⟩ := apart (int64 (int64 (ts.seconds + ts.nanos.tdiv 1000000000) - 1))
          (ts.nanos - ts.nanos.tdiv 1000000000 * 1000000000 + 1000000000)
        refine ⟨k + (i + j) * second, ?_⟩
        rw [whole, second', first, Timestamp.instant]
        simp only [second, millisecond, microsecond]
        ring
      · obtain ⟨k, whole⟩ := apart (int64 (ts.seconds + ts.nanos.tdiv 1000000000))
          (ts.nanos - ts.nanos.tdiv 1000000000 * 1000000000)
        refine ⟨k + i * second, ?_⟩
        rw [whole, first, Timestamp.instant]
        simp only [second, millisecond, microsecond]
        ring
    · exact apart ts.seconds ts.nanos
  obtain ⟨k, sum⟩ := normal
  exact int64_inj.mpr ⟨-k, by omega⟩

end Falak
