import Falak.Election.Types
import Falak.Lib.Chan

/-! One subscriber to the messages of a single replica's election. -/

namespace Falak.Election

structure Listener where
  claims : Chan Claim
  failures : Chan ElectionFailed
  closed : Bool

namespace Listener

variable (l : Listener)

def new (buffer : Nat) : Listener := ⟨.make buffer, .make buffer, false⟩

def dispatchClaim (claim : Claim) : Listener :=
  if l.closed then l else { l with claims := l.claims.trySend claim }

def dispatchFailure (failed : ElectionFailed) : Listener :=
  if l.closed then l else { l with failures := l.failures.trySend failed }

def dispatch : Message → Listener
  | .claim claim => l.dispatchClaim claim
  | .failed failed => l.dispatchFailure failed

def close : Listener :=
  if l.closed then l
  else { claims := l.claims.close, failures := l.failures.close, closed := true }

end Listener

end Falak.Election
