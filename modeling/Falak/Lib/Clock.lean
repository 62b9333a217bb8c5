import Mathlib.Algebra.Order.Ring.Int

/-!
Instants and durations, and the microsecond stamps taken from instants.

An instant is an integer number of nanoseconds since the Unix epoch, and a duration is the
difference of two instants.
-/

namespace Falak

def microsecond : Int := 1000

def millisecond : Int := 1000 * microsecond

def second : Int := 1000 * millisecond

def zeroTime : Int := -62135596800 * second

def unixMicro (t : Int) : Int := t / 1000

end Falak
