import CodeCensus.Duplicate.Group
import CodeCensus.Number.Basic

/-!
# The host of a run

What a run finds outside of itself. It stops when it was cancelled or its time limit has passed: the host
answers numbered checks, and cancelling is looked at before the clock.

Contents: `RunHost`, `deadlinePassed`, `RunHost.check`, `RunHost.stops`.
-/

namespace CodeCensus

/-- What a run finds outside of itself: the time at its start, at each check the time and whether the run was
    cancelled, the number of processors, which is zero if it is not known, and in each scan the order in which
    the workers come to their turns. -/
structure RunHost where
  cancelled : Nat → Bool
  started : Double
  now : Nat → Double
  processors : Nat
  turn : DuplicateKind → Nat → Nat

/-- The time limit of a run that started at a time has passed now; an integer limit that fits no double
    cannot be used. -/
def deadlinePassed (started : Double) (timeout : Option Number) (now : Double) :
    Except NumberFault Bool :=
  match timeout with
  | none => .ok false
  | some limit => do
    let seconds ← limit.toDouble
    return (started + seconds).le now

namespace RunHost

/-- The answer to a check. -/
def check (s : RunHost) (timeout : Option Number) (n : Nat) : Except NumberFault Bool :=
  if s.cancelled n then .ok true else deadlinePassed s.started timeout (s.now n)

/-- The answer to a check, once the time limit is known to be usable. -/
def stops (s : RunHost) (timeout : Option Number) (n : Nat) : Bool :=
  match s.check timeout n with
  | .ok b => b
  | .error _ => false

end RunHost
end CodeCensus
