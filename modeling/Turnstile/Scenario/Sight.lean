import Turnstile.Scenario.Syntax

/-!
What can be seen of a scenario that is played: what an action gives back, and what happens
meanwhile.
-/
namespace Turnstile.Scenario

inductive Answer where
  | nothing
  | begun
  | flag (b : Bool)
  | flags (bs : List Bool)
  | count (n : Nat)
  | names (names : List String)
  | thrown (e : Thrown)
  | snapshot (s : Option Snapshot)
  | stats (s : Limiter.Stats)
  | runnerStats (s : Pool.Stats)

inductive Event where
  | limiter (e : LimiterEvent)
  | pool (e : PoolEvent)

namespace Event

def side : Event → Side
  | .limiter _ => .limiter
  | .pool _ => .runner

def name : Event → String
  | .limiter e => e.name
  | .pool e => e.name

end Event

inductive Sight where
  | start (task : String)
  | event (listener : Int) (e : Event)
  | notice (tag : Tag) (n : Slot.Notice)
  | settled (number : Nat) (outcome : Outcome)
  | record (r : Logging.Record)
  | did (action : Action) (answer : Answer)

end Turnstile.Scenario
