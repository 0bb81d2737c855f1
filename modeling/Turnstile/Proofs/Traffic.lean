import Turnstile.Proofs.History

/-!
The pool's side of a history: the pool, the runs on its lanes, the pumps that are scheduled or under
way, the calls that wait for it to be idle, and the stamps made so far. Slots, promises and records
are left out.

All that can happen there is one relation. That every reaction of a system with a pool is a chain of
such steps is proved elsewhere; an invariant needs one case for each.
-/
namespace Turnstile

/-- A point in the course of a work through a runner, or of a call that waits for it to be idle. -/
inductive Stamp where
  | accepted (work : Work)
  | started (run : Run)
  /-- Whoever started the run has seen how it ended. -/
  | seen (run : Run) (outcome : Outcome)
  | terminated (waiter : Waiter) (idle : Bool)

def Note.stamps : Note → List Stamp
  | .accepted work => [.accepted work]
  | .started run => [.started run]
  | .seen run outcome => [.seen run outcome]
  | .terminated waiter idle => [.terminated waiter idle]
  | _ => []

/-- The run that a step of a slot is a part of. -/
def Purpose.run? : Purpose → Option Run
  | .conclude run _ _ => some run
  | _ => none

/-- Whether a pump goes on after the step. -/
def Purpose.pumps : Purpose → Bool
  | .conclude run _ inCall => inCall && run.starter == .lane
  | _ => false

namespace Frame

/-- The run whose task is being called, or whose slot is being told of its end. -/
def run? : Frame → Option Run
  | .task run => some run
  | .message _ _ _ _ purpose | .offer _ _ purpose => purpose.run?
  | _ => none

/-- Whether a pump goes on after the call. -/
def pumps : Frame → Bool
  | .task run => run.starter == .lane
  | .message _ _ _ _ purpose | .offer _ _ purpose => purpose.pumps
  | .taskError inPump | .idle inPump => inPump
  | .hand _ => false

/-- Whether the call tells of a failed work. -/
def tellsFailure : Frame → Bool
  | .taskError _ => true
  | _ => false

/-- Whether the call asks a runner outside. -/
def asksOutside : Frame → Bool
  | .offer .. | .hand _ => true
  | _ => false

end Frame

def Job.run : Job → Run
  | .conclude tag ticket starter _ => { work := .limited tag ticket, starter }
  | .goOn run _ => run

def Immediate.isPump : Immediate → Bool
  | .pump => true
  | .countdown .. => false

def Alarm.waiter? : Alarm → Option Waiter
  | .giveUp waiter => some waiter
  | .settle _ => none

structure Traffic where
  pool : Pool
  /-- Number of the next submission. -/
  tickets : Ticket
  /-- Number of the next call that waits for the pool to be idle. -/
  waits : Waiter
  /-- Runs that were started and whose starter has not seen their end. -/
  runs : Multiset Run
  /-- Open calls that tell of a failed work; its lane is still to be freed. -/
  failing : Nat
  /-- Open calls after which a pump goes on. -/
  pumping : Nat
  /-- Open calls that ask a runner outside. -/
  outside : Nat
  /-- Pumps among the immediates. -/
  pumps : Nat
  /-- Calls that wait for the pool to be idle and have a timer. -/
  alarms : Multiset Waiter
  stamps : List Stamp

/-- Runs that were started and whose starter has not seen their end. -/
def System.runs (s : System) : Multiset Run :=
  s.stack.filterMap Frame.run? + s.awaiting.map Prod.snd + s.loop.jobs.map Job.run

def System.traffic (s : System) (pool : Pool) (stamps : List Stamp) : Traffic where
  pool := pool
  tickets := s.tickets
  waits := s.waits
  runs := s.runs
  failing := s.stack.countP Frame.tellsFailure
  pumping := s.stack.countP Frame.pumps
  outside := s.stack.countP Frame.asksOutside
  pumps := s.loop.immediates.countP Immediate.isPump
  alarms := s.loop.timers.filterMap fun timer => timer.alarm.waiter?
  stamps := stamps

def History.stamps (h : History) : List Stamp := h.notes.flatMap Note.stamps

def History.traffic (h : History) (pool : Pool) : Traffic := h.system.traffic pool h.stamps

namespace Traffic

@[simps]
def stamp (t : Traffic) (stamps : List Stamp) : Traffic := { t with stamps := t.stamps ++ stamps }

/-- A call to the outside is opened. -/
@[simps]
def push (t : Traffic) (frame : Frame) : Traffic :=
  { t with
    runs := ↑frame.run?.toList + t.runs
    failing := t.failing + frame.tellsFailure.toNat
    pumping := t.pumping + frame.pumps.toNat
    outside := t.outside + frame.asksOutside.toNat }

/-- A pump is scheduled if none is. -/
@[simps]
def schedule (t : Traffic) : Traffic :=
  { t with
    pool := { t.pool with pumpScheduled := true }
    pumps := t.pumps + (!t.pool.pumpScheduled).toNat }

/-- The pool has become idle: nobody waits for that any more. -/
@[simps]
def idle (t : Traffic) : Traffic :=
  { t with
    pool := { t.pool with waiters := [] }
    alarms := t.alarms.filter (· ∉ t.pool.waiters)
    stamps := t.stamps ++ t.pool.waiters.map (Stamp.terminated · true) }

/-- What follows when a lane was freed. -/
def goOn (t : Traffic) : Traffic :=
  if !t.pool.backlog.isEmpty then t.schedule else if 0 < t.pool.active then t else t.idle

/-- A lane is free again. -/
def free (t : Traffic) : Traffic := { t with pool := t.pool.free.1 }.goOn

/-- Everything that can happen to a pool. -/
inductive Step (t : Traffic) : Traffic → Prop
  /-- Plain work has a number that nothing had before. -/
  | accept {work pool tickets} (accepted : t.pool.accept work = .ok pool)
      (later : t.tickets ≤ tickets)
      (fresh : ∀ ticket, work = .plain ticket → t.tickets ≤ ticket ∧ ticket < tickets) :
      Step t ({ t with pool, tickets }.schedule.stamp [.accepted work])
  | pump {pumps} (next : t.pumps = pumps + 1) :
      Step t { t with pool := t.pool.pumpBegun, pumps, pumping := t.pumping + 1 }
  | start {work pool} (pumping : 0 < t.pumping) (next : t.pool.next? = some (work, pool)) :
      Step t ({ t with pool, runs := { work, starter := .lane } ::ₘ t.runs }.stamp
        [.started { work, starter := .lane }])
  /-- A pump is over when no lane is free or no work is left. -/
  | stop {pumping} (last : t.pumping = pumping + 1) (full : t.pool.next? = none) :
      Step t { t with pumping }
  | fulfilled {run runs} (lane : run.starter = .lane) (next : t.runs = run ::ₘ runs) :
      Step t ({ t with runs }.stamp [.seen run .fulfilled]).free
  | rejected {run runs} (e : Thrown) (lane : run.starter = .lane) (next : t.runs = run ::ₘ runs) :
      Step t ({ t with runs, pool := (t.pool.fail e).1, failing := t.failing + 1 }.stamp
        [.seen run (.rejected e)])
  /-- All have heard of a failed work. -/
  | heard {failing} (next : t.failing = failing + 1) : Step t { t with failing }.free
  | shutdown : Step t { t with pool := t.pool.shutdown.1 }
  | wait (busy : t.pool.isIdle = false) :
      Step t { t with
        pool := { t.pool with waiters := t.pool.waiters ++ [t.waits] }
        waits := t.waits + 1
        alarms := t.waits ::ₘ t.alarms }
  | pass (idle : t.pool.isIdle = true) :
      Step t ({ t with waits := t.waits + 1 }.stamp [.terminated t.waits true])
  | giveUp {waiter alarms} (next : t.alarms = waiter ::ₘ alarms) :
      Step t ({ t with pool := t.pool.giveUp waiter, alarms }.stamp [.terminated waiter false])
  /-- A submission takes a number. -/
  | number : Step t { t with tickets := t.tickets + 1 }

abbrev Steps : Traffic → Traffic → Prop := Relation.ReflTransGen Step

theorem Step.steps {t u u' : Traffic} (h : Step t u) (eq : u' = u) : Steps t u' := eq ▸ .single h

theorem Steps.of_eq {t u : Traffic} (eq : u = t) : Steps t u := eq ▸ .refl

theorem Steps.keep {P : Traffic → Prop} {t u : Traffic}
    (keep : ∀ t t', P t → Step t t' → P t') (steps : Steps t u) (start : P t) : P u := by
  induction steps with
  | refl => exact start
  | tail _ step held => exact keep _ _ held step

/-- All works are on lanes of the pool, and no runner outside is being asked. -/
structure Lawful (t : Traffic) : Prop where
  lanes : ∀ run ∈ t.runs, run.starter = .lane
  inside : t.outside = 0

@[simp] theorem free_runs (t : Traffic) : t.free.runs = t.runs := by
  unfold free goOn
  split_ifs <;> rfl

@[simp] theorem free_outside (t : Traffic) : t.free.outside = t.outside := by
  unfold free goOn
  split_ifs <;> rfl

theorem Step.lawful {t t' : Traffic} (h : Step t t') (lawful : t.Lawful) : t'.Lawful := by
  have fewer {run : Run} {runs : Multiset Run} (next : t.runs = run ::ₘ runs) :
      ∀ other ∈ runs, other.starter = .lane := fun other mem =>
    lawful.lanes other (next ▸ Multiset.mem_cons_of_mem mem)
  cases h with
  | start pumping next =>
      refine ⟨fun run mem => ?_, lawful.inside⟩
      rcases Multiset.mem_cons.1 mem with rfl | old
      · rfl
      · exact lawful.lanes run old
  | fulfilled lane next => exact ⟨by simpa using fewer next, by simpa using lawful.inside⟩
  | rejected e lane next => exact ⟨fewer next, lawful.inside⟩
  | heard next => exact ⟨by simpa using lawful.lanes, by simpa using lawful.inside⟩
  | accept | pump | stop | shutdown | wait | pass | giveUp | number =>
      exact ⟨lawful.lanes, lawful.inside⟩

end Traffic
end Turnstile
