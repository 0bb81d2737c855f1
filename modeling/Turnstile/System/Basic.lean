import Turnstile.EventLoop
import Turnstile.Limiter

/-!
A limiter and its runner on one event loop, together with whatever surrounds them: tasks,
listeners, and a runner outside the library where there is no pool.

A system reacts to one `Move` at a time and answers with a `Signal`. Where the library calls out,
the signal is `call`, and what is left to do stays as a `Frame` on the stack; the surroundings then
make any moves they like and at last reply to the call. So control is outside between any two
moves, and every nesting of calls is a sequence of moves. A move that is not possible at the time
is ignored.

`Note`s are the account of what happened: records written, and the course of each piece of work.
-/
namespace Turnstile

/-- Who hears of the transitions of slots. -/
inductive Audience where
  /-- One observer, which hears each notice as it is. -/
  | observer
  /-- The listeners of a limiter, which hear events. -/
  | listeners
  deriving DecidableEq

/-- What is told to the audience in one call. -/
inductive Message where
  | notice (tag : Tag) (notice : Slot.Notice)
  | event (event : LimiterEvent)

/-- What follows the end of a slot's step. -/
inductive Purpose where
  /-- A submission is answered. -/
  | submit (ticket : Ticket)
  /-- A call that told the slot of an end returns. -/
  | complete
  /-- The work of a run is settled; `inCall` if its task threw and is still being called. -/
  | conclude (run : Run) (outcome : Outcome) (inCall : Bool)

/-- A call to the outside that has not returned, with what is to be done then. -/
inductive Frame where
  | message (tag : Tag) (current : Message) (rest : List Message) (resume : Slot.Resume)
    (purpose : Purpose)
  /-- A runner outside is asked to take a submission. -/
  | offer (tag : Tag) (ticket : Ticket) (purpose : Purpose)
  /-- A runner outside is asked to take plain work. -/
  | hand (ticket : Ticket)
  | task (run : Run)
  /-- Listeners of the pool hear of a failed work; `inPump` if a pump goes on afterwards. -/
  | taskError (inPump : Bool)
  | idle (inPump : Bool)

inductive Call where
  | message (message : Message)
  /-- A runner outside is asked to take work. -/
  | offer (work : Work)
  | task (work : Work)
  | pool (event : PoolEvent)

inductive Signal where
  | call (call : Call)
  /-- A submission is over; `queued` if its task may never run. -/
  | answer (queued : Bool)
  | refused (e : Thrown)
  | returned
  | ignored

inductive Note where
  | record (record : Logging.Record)
  | submitted (tag : Tag) (ticket : Ticket)
  | noticed (tag : Tag) (notice : Slot.Notice)
  /-- A submission has returned; `queued` if its task may never run. -/
  | answered (tag : Tag) (ticket : Ticket) (queued : Bool)
  | offered (work : Work)
  | accepted (work : Work)
  | started (run : Run)
  /-- The task of a run has ended and its slot is about to be told. -/
  | concluding (run : Run) (outcome : Outcome)
  | settled (run : Run) (outcome : Outcome)
  /-- Whoever started a run has seen how it ended. -/
  | seen (run : Run) (outcome : Outcome)
  | terminated (waiter : Waiter) (idle : Bool)

/-- How a task comes back to its caller. -/
inductive TaskReturn where
  | settled (outcome : Outcome)
  | later (promise : Promise)
  | threw (e : Thrown)

/-- The end of a call to the outside. -/
inductive Reply where
  | accept
  | refuse (e : Thrown)
  /-- Listeners have heard; one of them may have thrown. -/
  | heard (thrown : Option Thrown)
  | task (result : TaskReturn)

inductive Move where
  | submit (tag : Tag)
  /-- Tells the slot of a tag that a task has ended. -/
  | complete (tag : Tag)
  /-- Sets the running count of a tag's slot. -/
  | overwrite (tag : Tag) (running : Number)
  /-- Hands plain work to the runner. -/
  | execute
  /-- Starts work from outside the pool. -/
  | start (work : Work)
  | shutdown
  | awaitTermination (ms : Number)
  /-- Replies to the call that was made last. -/
  | reply (reply : Reply)
  | settle (promise : Promise) (outcome : Outcome)
  /-- Settles a promise after some time. -/
  | delay (promise : Promise) (ms : Number)
  /-- Settles a promise in the last of so many immediates. -/
  | countdown (promise : Promise) (immediates : Nat)
  | job
  | immediate
  | timer
  | elapse (ms : Nat)

structure System where
  limiter : Limiter := { limit := some 0 }
  audience : Audience := .listeners
  /-- The runner; without a pool it is outside. -/
  pool : Option Pool := none
  loop : EventLoop := {}
  settled : List (Promise × Outcome) := []
  /-- Runs whose task has not ended, each with the promise it waits for. -/
  awaiting : List (Promise × Run) := []
  stack : List Frame := []
  /-- Number of the next submission. -/
  tickets : Ticket := 0
  /-- Number of the next call that waits for the pool to be idle. -/
  waits : Waiter := 0

structure Reaction where
  system : System
  notes : List Note := []
  signal : Signal

namespace Reaction

/-- The same reaction with notes made before it. -/
def after (earlier : List Note) (r : Reaction) : Reaction := { r with notes := earlier ++ r.notes }

/-- The same reaction with records written before it. -/
def afterRecords (records : List Logging.Record) (r : Reaction) : Reaction :=
  r.after (records.map .record)

end Reaction

namespace System

def returned (s : System) : Reaction := { system := s, signal := .returned }

def ignored (s : System) : Reaction := { system := s, signal := .ignored }

/-- Calls out, leaving a frame behind. -/
def callOut (s : System) (frame : Frame) (call : Call) : Reaction :=
  { system := { s with stack := frame :: s.stack }, signal := .call call }

def pushJob (s : System) (job : Job) : System := { s with loop := s.loop.pushJob job }

def setPool (s : System) (pool : Pool) : System := { s with pool := some pool }

def setSlot (s : System) (tag : Tag) (slot : Slot) : System :=
  { s with limiter := s.limiter.setSlot tag slot }

end System
end Turnstile
