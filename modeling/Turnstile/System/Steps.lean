import Turnstile.System.Basic

/-!
The library's side of a system: each step goes on until control leaves the library, by a call to the
outside or by returning. No step calls another one that could come back to it, so none recurses.
-/
namespace Turnstile.System

def schedulePump (s : System) (pool : Pool) : System :=
  if pool.pumpScheduled then s.setPool pool
  else
    { s with
      pool := some { pool with pumpScheduled := true }
      loop := s.loop.pushImmediate .pump }

def pump (s : System) : Reaction :=
  match s.pool.bind Pool.next? with
  | some (work, pool) =>
    let run : Run := { work, starter := .lane }
    ((s.setPool pool).callOut (.task run) (.task work)).after [.started run]
  | none => s.returned

def leave (s : System) (inPump : Bool) : Reaction :=
  if inPump then s.pump else s.returned

/-- Every call that waits is answered, then the listeners hear that the pool is idle. -/
def becomeIdle (s : System) (pool : Pool) (inPump : Bool) : Reaction :=
  let idle : System :=
    { s with pool := some { pool with waiters := [] }, loop := s.loop.clear pool.waiters }
  (idle.callOut (.idle inPump) (.pool .idle)).after
    (pool.waiters.map fun waiter => .terminated waiter true)

def freeLane (s : System) (pool : Pool) (inPump : Bool) : Reaction :=
  let (pool, records) := pool.free
  Reaction.afterRecords records <|
    if !pool.backlog.isEmpty then (s.schedulePump pool).leave inPump
    else if 0 < pool.active then (s.setPool pool).leave inPump
    else s.becomeIdle pool inPump

def endLane (s : System) (pool : Pool) (outcome : Outcome) (inPump : Bool) : Reaction :=
  match outcome with
  | .fulfilled => s.freeLane pool inPump
  | .rejected e =>
    let (pool, records) := pool.fail e
    ((s.setPool pool).callOut (.taskError inPump) (.pool (.taskError e))).afterRecords records

/-- What the audience is told of a notice: the first message, then the rest. -/
def messages (s : System) (tag : Tag) (notice : Slot.Notice) : Message × List Message :=
  match s.audience with
  | .observer => (.notice tag notice, [])
  | .listeners =>
    let (first, rest) := LimiterEvent.ofNotice tag notice
    (.event first, rest.map .event)

def announce (s : System) (tag : Tag) (purpose : Purpose) (report : Slot.Report) : Reaction :=
  let (first, rest) := s.messages tag report.notice
  let counted : System :=
    { s with limiter := (s.limiter.setSlot tag report.slot).count report.notice }
  ((counted.callOut (.message tag first rest report.resume purpose) (.message first)).after
    [.noticed tag report.notice]).afterRecords report.records

def finishStep (s : System) (tag : Tag) (purpose : Purpose) (queued : Bool) : Reaction :=
  match purpose with
  | .submit ticket =>
    { system := s, notes := [.answered tag ticket queued], signal := .answer queued }
  | .complete => s.returned
  | .conclude run outcome inCall =>
    ((s.pushJob (.goOn run outcome)).leave (inCall && run.starter == .lane)).after
      [.settled run outcome]

def accepted (s : System) (tag : Tag) (ticket : Ticket) (purpose : Purpose) : Reaction :=
  (s.announce tag purpose
    (Slot.accepted (s.limiter.setting tag) (s.limiter.slot tag) ticket)).after
    [.accepted (.limited tag ticket)]

def refused (s : System) (tag : Tag) (ticket : Ticket) (e : Thrown) (purpose : Purpose) :
    Reaction :=
  s.announce tag purpose (Slot.refused (s.limiter.setting tag) (s.limiter.slot tag) ticket e)

def offer (s : System) (tag : Tag) (ticket : Ticket) (purpose : Purpose) : Reaction :=
  let work : Work := .limited tag ticket
  Reaction.after [.offered work] <|
    match s.pool with
    | none => s.callOut (.offer tag ticket purpose) (.offer work)
    | some pool =>
      match pool.accept work with
      | .ok pool => (s.schedulePump pool).accepted tag ticket purpose
      | .error f => s.refused tag ticket (.fault f) purpose

def follow (s : System) (tag : Tag) (purpose : Purpose) : Slot.Progress → Reaction
  | .report report => s.announce tag purpose report
  | .offer slot records ticket =>
    ((s.setSlot tag slot).offer tag ticket purpose).afterRecords records
  | .done slot records queued =>
    ((s.setSlot tag slot).finishStep tag purpose queued).afterRecords records

def complete (s : System) (tag : Tag) (purpose : Purpose) : Reaction :=
  s.announce tag purpose (Slot.complete (s.limiter.setting tag) (s.limiter.slot tag))

def resumeStep (s : System) (tag : Tag) (resume : Slot.Resume) (purpose : Purpose) : Reaction :=
  s.follow tag purpose (Slot.resume (s.limiter.setting tag) (s.limiter.slot tag) resume)

/-- The task of limited work has ended: its slot hears of it before the work is settled. -/
def conclude (s : System) (tag : Tag) (ticket : Ticket) (starter : Starter) (outcome : Outcome)
    (inCall : Bool) : Reaction :=
  let run : Run := { work := .limited tag ticket, starter }
  (s.complete tag (.conclude run outcome inCall)).after [.concluding run outcome]

def goOn (s : System) (run : Run) (outcome : Outcome) (inPump : Bool) : Reaction :=
  Reaction.after [.seen run outcome] <|
    match run.starter, s.pool with
    | .lane, some pool => s.endLane pool outcome inPump
    | _, _ => s.returned

/-- Settles a promise; the first time counts. -/
def settle (s : System) (promise : Promise) (outcome : Outcome) : System :=
  if (s.settled.lookup promise).isSome then s
  else
    let (woken, waiting) := s.awaiting.partition fun entry => entry.1 == promise
    { s with
      settled := s.settled ++ [(promise, outcome)]
      awaiting := waiting
      loop := s.loop.pushJobs (woken.map fun entry => .ofRun entry.2 outcome) }

def await (s : System) (promise : Promise) (run : Run) : System :=
  match s.settled.lookup promise with
  | some outcome => s.pushJob (.ofRun run outcome)
  | none => { s with awaiting := s.awaiting ++ [(promise, run)] }

/-- A task comes back to its caller. One that threw has ended inside the call: limited work tells
its slot there and then, and plain work on a lane frees the lane. -/
def taskReturned (s : System) (run : Run) : TaskReturn → Reaction
  | .settled outcome => (s.pushJob (.ofRun run outcome)).leave (run.starter == .lane)
  | .later promise => (s.await promise run).leave (run.starter == .lane)
  | .threw e =>
    match run.work, run.starter with
    | .limited tag ticket, starter => s.conclude tag ticket starter (.rejected e) true
    | .plain _, .lane => s.goOn run (.rejected e) true
    | .plain _, .caller => (s.pushJob (.goOn run (.rejected e))).returned

end Turnstile.System
