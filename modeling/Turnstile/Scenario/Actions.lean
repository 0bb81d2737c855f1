import Turnstile.Scenario.Player

/-!
How the surroundings act: they make moves, reply to the calls that come of them, and on the way
perform the actions of tasks and listeners.

Calls nest as deep as a scenario has them nest, so acting takes fuel. It bounds the depth, not how
much is done in all.
-/
namespace Turnstile.Scenario.Player

def answerOf : Signal → Answer
  | .answer queued => .flag queued
  | .refused e => .thrown e
  | _ => .nothing

def poolAnswer (p : Player) (f : Pool → Answer) : Answer :=
  match p.system.pool with
  | some pool => f pool
  | none => .nothing

/-- The call of an action that waits for the pool gets the number of the next waiter. -/
def expect (id : Int) : Play Unit :=
  modify fun p => { p with awaited := (p.system.waits, id) :: p.awaited }

mutual

def follow (fuel : Nat) (signal : Signal) : Play Signal :=
  match fuel, signal with
  | fuel + 1, .call call => do
    let reply ← respond fuel call
    follow fuel (← move (.reply reply))
  | _, signal => pure signal

def carryOut (fuel : Nat) (m : Move) : Play Signal :=
  match fuel with
  | 0 => pure .ignored
  | fuel + 1 => do follow fuel (← move m)

def respond (fuel : Nat) (call : Call) : Play Reply :=
  match fuel, call with
  | 0, _ => pure .accept
  | _ + 1, .message (.notice tag n) => do
    see (.notice tag n)
    pure (.heard none)
  | fuel + 1, .message (.event e) => return .heard (← emit fuel (.limiter e))
  | fuel + 1, .pool e => return .heard (← emit fuel (.pool e))
  | fuel + 1, .offer work => do
    match ← takeWork work with
    | some e => pure (.refuse e)
    | none =>
      if (← get).manner = .inline then discard (carryOut fuel (.start work))
      pure .accept
  | fuel + 1, .task work => do
    match (← get).tasks.lookup work.ticket with
    | some task =>
      see (.start task.id)
      performAll fuel task.actions
      return .task (← ending task)
    | none => pure (.task (.settled .fulfilled))

def emit (fuel : Nat) (e : Event) : Play (Option Thrown) :=
  match fuel with
  | 0 => pure none
  | fuel + 1 => do tell fuel e (((← get).emitter e.side).listeners e.name)

def tell (fuel : Nat) (e : Event) (listeners : List (Listener Hearer)) : Play (Option Thrown) :=
  match fuel, listeners with
  | fuel + 1, listener :: rest => do
    let hearer := listener.body
    if listener.once then
      withEmitter e.side fun emitter =>
        emitter.remove e.name fun l => l.once && l.body.serial == hearer.serial
    see (.event hearer.id e)
    let before ← countHearing hearer.serial
    if before < hearer.times then performAll fuel hearer.actions
    match hearer.e with
    | some thrown => pure (some thrown)
    | none => tell fuel e rest
  | _, _ => pure none

/-- Performs actions in turn; what each of them gives back is seen. -/
def performAll (fuel : Nat) (actions : List Action) : Play Unit :=
  match fuel, actions with
  | fuel + 1, action :: rest => do
    let answer ← perform fuel action
    see (.did action answer)
    performAll fuel rest
  | _, _ => pure ()

def perform (fuel : Nat) (action : Action) : Play Answer :=
  match fuel with
  | 0 => pure .nothing
  | fuel + 1 => do
    match action with
    | .submit tag task =>
      enlist task
      return answerOf (← carryOut fuel (.submit tag))
    | .execute task =>
      enlist task
      return answerOf (← carryOut fuel .execute)
    | .openGates ids => return .flags (← ids.mapM fun id => settleGate id .fulfilled)
    | .failGate id e => return .flag (← settleGate id (.rejected e))
    | .startHeld index keep =>
      match ← takeHeld index keep with
      | some (number, work) =>
        discard (carryOut fuel (.start work))
        pure (.count number)
      | none => pure .nothing
    | .refuse e =>
      modify fun p => { p with refusal := e }
      pure .nothing
    | .complete tag =>
      discard (carryOut fuel (.complete tag))
      pure .nothing
    | .overwrite tag running =>
      discard (move (.overwrite tag running))
      pure (.flag true)
    | .snapshot tag =>
      let l := (← get).system.limiter
      pure (.snapshot (Slot.snapshot (l.setting tag) (l.slot tag)))
    | .inspect tag => return .snapshot ((← get).system.limiter.inspect tag)
    | .stats => return .stats (← get).system.limiter.stats
    | .runnerStats => return (← get).poolAnswer fun pool => .runnerStats pool.stats
    | .isIdle => return (← get).poolAnswer fun pool => .flag pool.isIdle
    | .shutdown =>
      discard (move .shutdown)
      pure .nothing
    | .await id ms =>
      expect id
      discard (move (.awaitTermination ms))
      pure .nothing
    | .close id =>
      let moves := (← get).closing
      if moves.isEmpty then resolve id true
      else
        expect id
        moves.forM fun m => discard (move m)
      pure .nothing
    | .listen side event id once actions times e =>
      listen side event once fun serial => { serial, id, actions, times, e }
      pure .nothing
    | .unlisten side event id =>
      unlisten side event id
      pure .nothing
    | .unlistenAll side event =>
      withEmitter side fun emitter => emitter.clear event
      pure .nothing
    | .listenerCount side event =>
      return .count (((← get).emitter side).listeners event).length
    | .eventNames side => return .names ((← get).emitter side).names
    | .batch actions =>
      performAll fuel actions
      pure .nothing

end

end Turnstile.Scenario.Player
