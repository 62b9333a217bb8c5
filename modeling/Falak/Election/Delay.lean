import Falak.Election.Types
import Falak.Lib.Decimal

/-! The delay strategy: the better the score, the earlier the claim, one stagger apart per slot. -/

namespace Falak.Election

structure DelayStrategy where
  maxWait : Int
  maxJitter : Int
  replicaStagger : Int

namespace DelayStrategy

def new : DelayStrategy :=
  { maxWait := 500 * millisecond
    maxJitter := 200 * microsecond
    replicaStagger := 150 * millisecond }

end DelayStrategy

def truncate (x : Rat) : Int := if x < 0 then x.ceil else x.floor

/-- The wait that a score earns, before any jitter. -/
def waitForScore (score : Score) (maxWait : Int) : Int :=
  let score := if score < 0 then 0 else score
  let score := if score > 100 then 100 else score
  let fraction := (100 - score) / 100
  truncate (fraction * maxWait)

def replicaSlotStagger (replicaID : String) (stagger : Int) : Int :=
  if stagger ≤ 0 then 0
  else
    match atoi replicaID with
    | none => 0
    | some slot => if slot < 0 then 0 else int64 (slot * stagger)

def jitter (max : Int) (random : Option (Fin (2 ^ 64))) : Int :=
  if max ≤ 0 then 0
  else
    match random with
    | none => 0
    | some n => (n.val : Int) % max

def DelayStrategy.decide (s : DelayStrategy) (result : Except String Gravity.Result) (req : Request)
    (random : Option (Fin (2 ^ 64))) (now : Int) : Decision :=
  match result with
  | .error err => ⟨false, 0, zeroTime, "delay strategy: local node lookup failed: " ++ err⟩
  | .ok result =>
    if !result.eligible then
      ⟨false, 0, zeroTime, "delay strategy: ineligible (" ++ result.inelig.reason.text ++ ": " ++
        result.inelig.detail ++ ")"⟩
    else
      let baseWait := waitForScore result.score s.maxWait
      let jit := jitter s.maxJitter random
      let slotDelay := replicaSlotStagger req.replicaID s.replicaStagger
      let wait := int64 (int64 (baseWait + slotDelay) + jit)
      ⟨true, result.score, now + wait, "delay strategy: eligible"⟩

def replicaSlotID (i : Int) : String := toString i

end Falak.Election
