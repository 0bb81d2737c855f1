import Turnstile.System.Steps

/-!
The reaction of a system to each move of its surroundings.
-/
namespace Turnstile.System

def submit (s : System) (tag : Tag) : Reaction :=
  (({ s with tickets := s.tickets + 1 }).follow tag (.submit s.tickets)
    (Slot.submit (s.limiter.setting tag) (s.limiter.slot tag) s.tickets)).after
    [.submitted tag s.tickets]

def overwrite (s : System) (tag : Tag) (running : Number) : Reaction :=
  match s.limiter.slot? tag with
  | some slot => (s.setSlot tag { slot with running }).returned
  | none => s.ignored

def execute (s : System) : Reaction :=
  let work : Work := .plain s.tickets
  let taken : System := { s with tickets := s.tickets + 1 }
  Reaction.after [.offered work] <|
    match s.pool with
    | none => taken.callOut (.hand s.tickets) (.offer work)
    | some pool =>
      match pool.accept work with
      | .ok pool => (taken.schedulePump pool).returned.after [.accepted work]
      | .error f => { system := taken, signal := .refused (.fault f) }

/-- Starts work from outside; a pool starts its work itself. -/
def start (s : System) (work : Work) : Reaction :=
  if s.pool.isSome then s.ignored
  else
    let run : Run := { work, starter := .caller }
    (s.callOut (.task run) (.task work)).after [.started run]

def shutdown (s : System) : Reaction :=
  match s.pool with
  | some pool => (s.setPool pool.shutdown.1).returned.afterRecords pool.shutdown.2
  | none => s.ignored

/-- Waits for the pool to be idle, at most so long. A pool that is idle answers at once. -/
def awaitTermination (s : System) (ms : Number) : Reaction :=
  match s.pool with
  | none => s.ignored
  | some pool =>
    let taken : System := { s with waits := s.waits + 1 }
    if pool.isIdle then taken.returned.after [.terminated s.waits true]
    else
      ({ taken with
        pool := some { pool with waiters := pool.waiters ++ [s.waits] }
        loop := s.loop.arm ms (.giveUp s.waits) }).returned

/-- The records for listeners of the limiter that failed. An observer never fails. -/
def unheard (s : System) : Message → Option Thrown → List Logging.Record
  | .event event, some e => s.limiter.listenerFailed event e
  | _, _ => []

def unheardByPool (s : System) (event : String) (thrown : Option Thrown) : List Logging.Record :=
  match s.pool, thrown with
  | some pool, some e => pool.listenerFailed event e
  | _, _ => []

/-- Goes on after the call that left `frame`, which is off the stack. -/
def goOnFrom (s : System) : Frame → Reply → Option Reaction
  | .message tag current (next :: rest) resume purpose, .heard thrown =>
    some ((s.callOut (.message tag next rest resume purpose) (.message next)).afterRecords
      (s.unheard current thrown))
  | .message tag current [] resume purpose, .heard thrown =>
    some ((s.resumeStep tag resume purpose).afterRecords (s.unheard current thrown))
  | .offer tag ticket purpose, .accept => some (s.accepted tag ticket purpose)
  | .offer tag ticket purpose, .refuse e => some (s.refused tag ticket e purpose)
  | .hand ticket, .accept => some (s.returned.after [.accepted (.plain ticket)])
  | .hand _, .refuse e => some { system := s, signal := .refused e }
  | .task run, .task result => some (s.taskReturned run result)
  | .taskError inPump, .heard thrown =>
    some <| Reaction.afterRecords (s.unheardByPool "taskError" thrown) <|
      match s.pool with
      | some pool => s.freeLane pool inPump
      | none => s.returned
  | .idle inPump, .heard thrown =>
    some ((s.leave inPump).afterRecords (s.unheardByPool "idle" thrown))
  | _, _ => none

def reply (s : System) (reply : Reply) : Reaction :=
  match s.stack with
  | frame :: rest => (({ s with stack := rest }).goOnFrom frame reply).getD s.ignored
  | [] => s.ignored

/-- Whether a new turn may begin: no call is open and no job is left. -/
def quiet (s : System) : Bool := s.stack.isEmpty && s.loop.jobs.isEmpty

def runJob (s : System) : Reaction :=
  match s.stack, s.loop.jobs with
  | [], job :: rest =>
    let taken : System := { s with loop := { s.loop with jobs := rest } }
    match job with
    | .conclude tag ticket starter outcome => taken.conclude tag ticket starter outcome false
    | .goOn run outcome => taken.goOn run outcome false
  | _, _ => s.ignored

def runImmediate (s : System) : Reaction :=
  match s.quiet, s.loop.immediates with
  | true, immediate :: rest =>
    let taken : System := { s with loop := { s.loop with immediates := rest } }
    match immediate with
    | .pump => ({ taken with pool := s.pool.map Pool.pumpBegun }).pump
    | .countdown promise (more + 1) =>
      ({ taken with loop := taken.loop.pushImmediate (.countdown promise more) }).returned
    | .countdown promise 0 => (taken.settle promise .fulfilled).returned
  | _, _ => s.ignored

def runTimer (s : System) : Reaction :=
  match s.quiet, s.loop.fire? with
  | true, some (.settle promise, loop) => (({ s with loop }).settle promise .fulfilled).returned
  | true, some (.giveUp waiter, loop) =>
    ({ s with loop, pool := s.pool.map (Pool.giveUp · waiter) }).returned.after
      [.terminated waiter false]
  | _, _ => s.ignored

def elapse (s : System) (ms : Nat) : Reaction :=
  match s.quiet, s.loop.elapse? ms with
  | true, some loop => ({ s with loop }).returned
  | _, _ => s.ignored

def react (s : System) : Move → Reaction
  | .submit tag => s.submit tag
  | .complete tag => if (s.limiter.slot? tag).isSome then s.complete tag .complete else s.ignored
  | .overwrite tag running => s.overwrite tag running
  | .execute => s.execute
  | .start work => s.start work
  | .shutdown => s.shutdown
  | .awaitTermination ms => s.awaitTermination ms
  | .reply reply => s.reply reply
  | .settle promise outcome => (s.settle promise outcome).returned
  | .delay promise ms => ({ s with loop := s.loop.arm ms (.settle promise) }).returned
  | .countdown promise immediates =>
    ({ s with loop := s.loop.pushImmediate (.countdown promise (immediates - 1)) }).returned
  | .job => s.runJob
  | .immediate => s.runImmediate
  | .timer => s.runTimer
  | .elapse ms => s.elapse ms

end Turnstile.System
