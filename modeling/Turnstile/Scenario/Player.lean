import Turnstile.Bundle
import Turnstile.Emitter
import Turnstile.Scenario.Sight

/-!
Who plays a scenario: the surroundings of a system, with what they keep in mind between its calls.

A runner outside is manual, and holds the work it accepts until it is told to start one, or inline,
and starts work while it accepts it. Either numbers the works that it accepts.
-/
namespace Turnstile.Scenario

/-- A listener of a scenario; `serial` tells any two apart. -/
structure Hearer where
  serial : Nat
  id : Int
  actions : List Action := []
  times : Nat := 1
  e : Option Thrown := none

inductive Manner where
  | manual | inline
  deriving DecidableEq

structure Player where
  system : System
  manner : Manner := .manual
  closing : List Move := []
  attentive : Bool := true
  refusal : Option Thrown := none
  held : List (Nat × Work) := []
  numbers : List (Ticket × Nat) := []
  tasks : List (Ticket × Task) := []
  gates : List (String × Promise) := []
  promises : Promise := 0
  ofLimiter : Emitter Hearer := {}
  ofPool : Emitter Hearer := {}
  hearers : Nat := 0
  lastAdded : List ((Side × String × Int) × Nat) := []
  heard : List (Nat × Nat) := []
  awaited : List (Waiter × Int) := []
  sights : List Sight := []
  resolved : List (Int × Bool) := []

namespace Player

abbrev Play := StateM Player

def see (sight : Sight) : Play Unit := modify fun p => { p with sights := sight :: p.sights }

def resolve (id : Int) (idle : Bool) : Play Unit :=
  modify fun p => { p with resolved := p.resolved ++ [(id, idle)] }

def notice : Note → Play Unit
  | .record r => do if (← get).attentive then see (.record r)
  | .seen run outcome => do
    if run.starter = .caller then
      see (.settled (((← get).numbers.lookup run.work.ticket).getD 0) outcome)
  | .terminated waiter idle => do
    match (← get).awaited.lookup waiter with
    | some id => resolve id idle
    | none => pure ()
  | _ => pure ()

def move (m : Move) : Play Signal := do
  let r := (← get).system.react m
  modify fun p => { p with system := r.system }
  r.notes.forM notice
  pure r.signal

def newPromise : Play Promise :=
  modifyGet fun p => (p.promises, { p with promises := p.promises + 1 })

def gate (id : String) : Play Promise := do
  match (← get).gates.lookup id with
  | some promise => pure promise
  | none =>
    let promise ← newPromise
    modify fun p => { p with gates := (id, promise) :: p.gates }
    pure promise

def enlist (task : Task) : Play Unit := do
  modify fun p => { p with tasks := (p.system.tickets, task) :: p.tasks }
  if let .gate := task.ending then discard (gate task.id)

/-- Settles the gate of a name; whether there is one. -/
def settleGate (id : String) (outcome : Outcome) : Play Bool := do
  match (← get).gates.lookup id with
  | some promise =>
    discard (move (.settle promise outcome))
    pure true
  | none => pure false

def ending (task : Task) : Play TaskReturn := do
  match task.ending with
  | .returns => pure (.settled .fulfilled)
  | .throws e => pure (.threw e)
  | .rejects e => pure (.settled (.rejected e))
  | .gate => return .later (← gate task.id)
  | .sleeps ms =>
    let promise ← newPromise
    discard (move (.delay promise ms))
    pure (.later promise)
  | .turns immediates =>
    let promise ← newPromise
    discard (move (.countdown promise immediates))
    pure (.later promise)

def emitter (p : Player) : Side → Emitter Hearer
  | .limiter => p.ofLimiter
  | .runner => p.ofPool

def setEmitter (p : Player) (side : Side) (e : Emitter Hearer) : Player :=
  match side with
  | .limiter => { p with ofLimiter := e }
  | .runner => { p with ofPool := e }

def withEmitter (side : Side) (f : Emitter Hearer → Emitter Hearer) : Play Unit :=
  modify fun p => p.setEmitter side (f (p.emitter side))

def listen (side : Side) (event : String) (once : Bool) (make : Nat → Hearer) : Play Unit := do
  let serial ← modifyGet fun p => (p.hearers, { p with hearers := p.hearers + 1 })
  let hearer := make serial
  modify fun p => { p with lastAdded := ((side, event, hearer.id), serial) :: p.lastAdded }
  withEmitter side fun e => e.add event { body := hearer, once }

/-- Removes the listener that was added last under an id. Where there never was one, nobody is
meant, and all listeners of the event are removed. -/
def unlisten (side : Side) (event : String) (id : Int) : Play Unit := do
  let serial? := (← get).lastAdded.lookup (side, event, id)
  withEmitter side fun e => e.remove event fun l => serial?.all (· == l.body.serial)

def countHearing (serial : Nat) : Play Nat :=
  modifyGet fun p =>
    let n := (p.heard.lookup serial).getD 0
    (n, { p with heard := (serial, n + 1) :: p.heard })

def takeWork (work : Work) : Play (Option Thrown) := do
  match (← get).refusal with
  | some e => pure (some e)
  | none =>
    modify fun p =>
      let number := p.numbers.length
      { p with
        numbers := p.numbers ++ [(work.ticket, number)]
        held := if p.manner = .manual then p.held ++ [(number, work)] else p.held }
    pure none

/-- The held work at an index, which is then held no longer unless it is to be kept. -/
def takeHeld (index : Int) (keep : Bool) : Play (Option (Nat × Work)) :=
  match index with
  | .ofNat i => modifyGet fun p =>
    (p.held[i]?, if keep then p else { p with held := p.held.eraseIdx i })
  | .negSucc _ => return none

end Player
end Turnstile.Scenario
