import Turnstile.Pool

/-!
What is still to happen: jobs, which run before anything else, immediates, which run turn by turn,
and timers, which run when the clock has come to their time. Each kind is kept in the order in which
it was scheduled. The clock is virtual and counts milliseconds.
-/
namespace Turnstile

abbrev Promise := Nat

inductive Job where
  /-- The task of limited work has ended: tell its slot, then settle the work. -/
  | conclude (tag : Tag) (ticket : Ticket) (starter : Starter) (outcome : Outcome)
  /-- A work has been settled: go on in whoever started it. -/
  | goOn (run : Run) (outcome : Outcome)

/-- The job for a run whose task has ended. Plain work is settled by its task alone. -/
def Job.ofRun (run : Run) (outcome : Outcome) : Job :=
  match run.work with
  | .limited tag ticket => .conclude tag ticket run.starter outcome
  | .plain _ => .goOn run outcome

inductive Immediate where
  | pump
  | countdown (promise : Promise) (more : Nat)

inductive Alarm where
  | giveUp (waiter : Waiter)
  | settle (promise : Promise)
  deriving DecidableEq

structure Timer where
  due : Nat
  alarm : Alarm
  deriving DecidableEq

structure EventLoop where
  now : Nat := 0
  jobs : List Job := []
  immediates : List Immediate := []
  timers : List Timer := []

namespace EventLoop

def longestDelay : Nat := 2147483647

/-- A delay in whole milliseconds. One that is not between 1 and the longest delay counts as 1. -/
def delay (ms : Number) : Nat :=
  match ms with
  | .finite q => if 1 ≤ q ∧ q ≤ (longestDelay : Rat) then q.floor.toNat else 1
  | _ => 1

def pushJob (l : EventLoop) (job : Job) : EventLoop := { l with jobs := l.jobs ++ [job] }

def pushJobs (l : EventLoop) (jobs : List Job) : EventLoop := { l with jobs := l.jobs ++ jobs }

def pushImmediate (l : EventLoop) (i : Immediate) : EventLoop :=
  { l with immediates := l.immediates ++ [i] }

def arm (l : EventLoop) (ms : Number) (alarm : Alarm) : EventLoop :=
  { l with timers := l.timers ++ [{ due := l.now + delay ms, alarm }] }

def clear (l : EventLoop) (waiters : List Waiter) : EventLoop :=
  { l with timers := l.timers.filter fun t => !waiters.any fun w => t.alarm == .giveUp w }

/-- The timer that is due first; of several, the one armed first. -/
def first? : List Timer → Option Timer
  | [] => none
  | t :: rest =>
    match first? rest with
    | some u => if u.due < t.due then some u else some t
    | none => some t

/-- Takes out the timer that is due first, and moves the clock to its time. -/
def fire? (l : EventLoop) : Option (Alarm × EventLoop) :=
  (first? l.timers).map fun t =>
    (t.alarm, { l with now := max l.now t.due, timers := l.timers.erase t })

def elapse? (l : EventLoop) (ms : Nat) : Option EventLoop :=
  if l.timers.all fun t => l.now + ms < t.due then some { l with now := l.now + ms } else none

end EventLoop
end Turnstile
