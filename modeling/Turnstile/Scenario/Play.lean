import Turnstile.Scenario.Actions

/-!
A scenario from its beginning to its end: the event loop turns where a step says so, and after every
step all jobs are run.
-/
namespace Turnstile.Scenario.Player

def runJobs (fuel : Nat) : Play Unit :=
  match fuel with
  | 0 => pure ()
  | fuel + 1 => do
    if !(← get).system.loop.jobs.isEmpty then
      discard (carryOut fuel .job)
      runJobs fuel

def turnOver (fuel : Nat) (m : Move) : Play Unit := do
  discard (carryOut fuel m)
  runJobs fuel

/-- One turn: the immediates that are there when it begins. -/
def turn (fuel : Nat) : Play Unit := do
  for _ in (← get).system.loop.immediates do
    turnOver fuel .immediate

def turns (fuel : Nat) : Nat → Play Unit
  | 0 => pure ()
  | n + 1 => do
    turn fuel
    turns fuel n

/-- Turns until no immediate is left; how many. -/
def drain (fuel : Nat) : Play Nat :=
  match fuel with
  | 0 => pure 0
  | fuel + 1 => do
    if (← get).system.loop.immediates.isEmpty then pure 0
    else
      turn fuel
      return (← drain fuel) + 1

def advanceTo (fuel : Nat) (time : Nat) : Play Unit :=
  match fuel with
  | 0 => pure ()
  | fuel + 1 => do
    let loop := (← get).system.loop
    if loop.timers.any fun t => t.due ≤ time then
      turnOver fuel .timer
      advanceTo fuel time
    else discard (move (.elapse (time - loop.now)))

def fuel : Nat := 1000000

def step : Step → Play Answer
  | .act action => perform fuel action
  | .turn count => do
    turns fuel count
    pure .nothing
  | .drain => return .count (← drain fuel)
  | .advance ms => do
    advanceTo fuel ((← get).system.loop.now + ms)
    pure .nothing

/-- What a step gave back, what was seen meanwhile, which calls were answered, and what came of it.
-/
structure Scene where
  answer : Answer
  sights : List Sight
  resolved : List (Int × Bool)
  after : Player

def playStep (p : Player) (s : Step) : Scene :=
  let (answer, after) := (do
    let answer ← step s
    runJobs fuel
    pure answer : Play Answer).run { p with sights := [], resolved := [] }
  { answer, sights := after.sights.reverse, resolved := after.resolved, after }

def playSteps (p : Player) : List Step → List Scene
  | [] => []
  | s :: rest =>
    let scene := p.playStep s
    scene :: playSteps scene.after rest

def play (p : Player) (records : List Logging.Record) (steps : List Step) : List Scene :=
  { answer := .begun, resolved := [], after := p
    sights := if p.attentive then records.map .record else [] } :: p.playSteps steps

inductive RunnerSpec where
  | pooled (concurrency : Value) (logger : Option Logging.Threshold)
  | outside (manner : Manner)

namespace RunnerSpec

def pool (spec : RunnerSpec) : Except Fault (Option Pool) :=
  match spec with
  | .pooled concurrency logger => some <$> Pool.create concurrency logger
  | .outside _ => .ok none

def manner : RunnerSpec → Manner
  | .pooled .. => .manual
  | .outside manner => manner

end RunnerSpec

def trace (p : Player) (side : Side) (events : List String) : Player :=
  ((events.forM fun event => listen side event false fun serial => { serial, id := 0 }) :
    Play Unit).run p |>.2

def traceLimiter (p : Player) (on : Bool) : Player :=
  if on then p.trace .limiter LimiterEvent.names else p

def tracePool (p : Player) (on : Bool) : Player :=
  if on then p.trace .runner PoolEvent.names else p

def playSlot (tag : Tag) (limit : Limit) (logger : Option Logging.Threshold) (runner : RunnerSpec)
    (steps : List Step) : Except Fault (List Scene) := do
  let pool ← runner.pool
  let limiter : Limiter := { limit, logger, slots := [(tag, {})] }
  pure (play { system := { limiter, pool, audience := .observer }, manner := runner.manner }
    [] steps)

def playLimiter (limit : Value) (logger : Option Logging.Threshold) (runner : RunnerSpec)
    (traced : Bool) (steps : List Step) : Except Fault (List Scene) := do
  let pool ← runner.pool
  let (limiter, records) ← Limiter.create limit logger
  let p : Player := { system := { limiter, pool }, manner := runner.manner }
  pure ((p.traceLimiter traced).play records steps)

def playPool (concurrency : Value) (logger : Option Logging.Threshold) (traced : Bool)
    (steps : List Step) : Except Fault (List Scene) := do
  let pool ← Pool.create concurrency logger
  let p : Player := { system := { pool := some pool } }
  pure ((p.tracePool traced).play [] steps)

structure Opening where
  world : Config.World
  share : Option (Config.Source × Option String) := none
  runner : Option RunnerSpec := none
  logger : Option Logging.Logger := none
  limit : Value := .undefined
  settings : Value := .undefined

namespace Opening

def prepared (o : Opening) : Except Fault Config.World :=
  match o.share with
  | none => .ok o.world
  | some (source, environment) =>
    match o.world.share source environment with
    | (w, .ok _) => .ok w
    | (_, .error e) => .error e.fault

def given (o : Opening) : Except Fault (Option GivenRunner) :=
  match o.runner with
  | none => .ok none
  | some spec => spec.pool.map fun
    | some pool => some (.pool pool)
    | none => some .outside

def bundle (o : Opening) : Except Fault Bundle := do
  let w ← o.prepared
  let runner ← o.given
  (Bundle.create w { limit := o.limit, runner, logger := o.logger, settings := o.settings }).2

end Opening

/-- A bundle; its records are seen only where its logger was passed in. -/
def playBundle (o : Opening) (traced : Bool) (steps : List Step) :
    Except Fault (Bundle × List Scene) := do
  let b ← o.bundle
  let p : Player := {
    system := b.system
    manner := (o.runner.map RunnerSpec.manner).getD .manual
    closing := b.closing
    attentive := o.logger.isSome }
  pure (b, (p.traceLimiter traced).play b.records steps)

end Turnstile.Scenario.Player
