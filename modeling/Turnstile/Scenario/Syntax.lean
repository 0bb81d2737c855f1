import Turnstile.Limiter
import Turnstile.Pool

/-!
Scenarios: what the surroundings of a limiter do, written down. A task performs its actions when it
is started and then ends in its way; a listener performs its actions when it hears of an event.
-/
namespace Turnstile.Scenario

inductive Side where
  | limiter | runner
  deriving DecidableEq

inductive Ending where
  | returns
  | throws (e : Thrown)
  | rejects (e : Thrown)
  | gate
  | sleeps (ms : Number)
  | turns (immediates : Nat)

mutual

inductive Task where
  | mk (id : String) (actions : List Action) (ending : Ending)

inductive Action where
  | submit (tag : Tag) (task : Task)
  | execute (task : Task)
  | openGates (ids : List String)
  | failGate (id : String) (e : Thrown)
  /-- Starts a work that a manual runner holds; it may keep it, to start it again. -/
  | startHeld (index : Int) (keep : Bool)
  | refuse (e : Option Thrown)
  | complete (tag : Tag)
  | overwrite (tag : Tag) (running : Number)
  | snapshot (tag : Tag)
  | inspect (tag : Tag)
  | stats
  | runnerStats
  | isIdle
  | shutdown
  | await (id : Int) (ms : Number)
  | close (id : Int)
  /-- Adds a listener, which performs its actions the first few times and throws every time. -/
  | listen (side : Side) (event : String) (id : Int) (once : Bool) (actions : List Action)
    (times : Nat) (e : Option Thrown)
  | unlisten (side : Side) (event : String) (id : Int)
  | unlistenAll (side : Side) (event : Option String)
  | listenerCount (side : Side) (event : String)
  | eventNames (side : Side)
  | batch (actions : List Action)

end

namespace Task

def id : Task → String
  | .mk id _ _ => id

def actions : Task → List Action
  | .mk _ actions _ => actions

def ending : Task → Ending
  | .mk _ _ ending => ending

end Task

/-- What is done from outside, one after the other. All jobs are run after each of them. -/
inductive Step where
  | act (action : Action)
  | turn (count : Nat)
  | drain
  | advance (ms : Nat)

end Turnstile.Scenario
