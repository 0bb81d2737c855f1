import Turnstile.Config.Schema
import Turnstile.Work

/-!
A pool: accepted work waits in a backlog, first in first out, and is started on a fixed number of
lanes. Work is started by a pump, which is scheduled for a later turn, never while work is accepted.
After a shutdown nothing more is accepted; what was accepted before still runs.
-/
namespace Turnstile

abbrev Waiter := Nat

structure Pool where
  concurrency : Nat
  logger : Option Logging.Threshold := none
  backlog : List Work := []
  active : Nat := 0
  pumpScheduled : Bool := false
  isShutdown : Bool := false
  completed : Nat := 0
  failed : Nat := 0
  waiters : List Waiter := []

namespace Pool

/-- An idle pool; the number of lanes is checked. -/
def create (concurrency : Value) (logger : Option Logging.Threshold) : Except Fault Pool :=
  ((Config.checkConcurrency concurrency).orFault "concurrency").map fun n =>
    { concurrency := n, logger }

def isIdle (p : Pool) : Bool := p.active == 0 && p.backlog.isEmpty

def accept (p : Pool) (work : Work) : Except Fault Pool :=
  if p.isShutdown then .error (.shutdown Fault.shutdownMessage)
  else .ok { p with backlog := p.backlog ++ [work] }

def load (p : Pool) : Logging.Context :=
  [Logging.count "active" p.active, Logging.count "queued" p.backlog.length]

/-- Stops accepting work; a second time nothing happens. -/
def shutdown (p : Pool) : Pool × List Logging.Record :=
  if p.isShutdown then (p, [])
  else ({ p with isShutdown := true },
    Logging.write p.logger .info "PooledTaskRunner shutting down" p.load)

def next? (p : Pool) : Option (Work × Pool) :=
  if p.active < p.concurrency then
    match p.backlog with
    | work :: rest => some (work, { p with backlog := rest, active := p.active + 1 })
    | [] => none
  else none

def pumpBegun (p : Pool) : Pool := { p with pumpScheduled := false }

def giveUp (p : Pool) (waiter : Waiter) : Pool := { p with waiters := p.waiters.erase waiter }

def fail (p : Pool) (e : Thrown) : Pool × List Logging.Record :=
  ({ p with failed := p.failed + 1 },
    Logging.write p.logger .error "Task failed" [Logging.err e])

def free (p : Pool) : Pool × List Logging.Record :=
  let freed := { p with active := p.active - 1, completed := p.completed + 1 }
  (freed, (Logging.writeLazily p.logger .debug "Lane freed" fun _ => freed.load).records)

def listenerFailed (p : Pool) (event : String) (e : Thrown) : List Logging.Record :=
  Logging.write p.logger .error ("Error emitting " ++ event ++ " event") [Logging.err e]

structure Stats where
  concurrency : Nat
  active : Nat
  queued : Nat
  completed : Nat
  failed : Nat
  isShutdown : Bool
  deriving DecidableEq

def stats (p : Pool) : Stats where
  concurrency := p.concurrency
  active := p.active
  queued := p.backlog.length
  completed := p.completed
  failed := p.failed
  isShutdown := p.isShutdown

end Pool

inductive PoolEvent where
  | taskError (e : Thrown)
  | idle

namespace PoolEvent

def name : PoolEvent → String
  | .taskError _ => "taskError"
  | .idle => "idle"

def names : List String := ["taskError", "idle"]

end PoolEvent
end Turnstile
