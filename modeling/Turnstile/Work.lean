import Turnstile.Slot

/-!
Work that a runner starts, and how it ends.
-/
namespace Turnstile

inductive Work where
  /-- A submission that a slot handed over. When its task has ended, the slot is told first. -/
  | limited (tag : Tag) (ticket : Ticket)
  | plain (ticket : Ticket)
  deriving DecidableEq, Inhabited

def Work.ticket : Work → Ticket
  | .limited _ ticket => ticket
  | .plain ticket => ticket

inductive Outcome where
  | fulfilled
  | rejected (e : Thrown)
  deriving Inhabited

/-- Who starts a work: a lane of the pool, or a caller outside it. -/
inductive Starter where
  | lane | caller
  deriving DecidableEq

structure Run where
  work : Work
  starter : Starter
  deriving DecidableEq

end Turnstile
