import Turnstile.Logging

/-!
Admission for one tag. A slot counts the tasks that run and keeps at most one that waits; a task
that is submitted while another one waits replaces it.

A step of a slot is cut wherever control leaves it: `Progress` says what the slot tells or asks the
outside, and `Resume` where it goes on afterwards. Whatever the outside does meanwhile may change
the slot, so a step always goes on from the slot as it is by then.
-/
namespace Turnstile

/-- Number of a submission. -/
abbrev Ticket := Nat

abbrev Tag := String

/-- A running count that cannot be right. -/
inductive Anomaly where
  | overflow | underflow
  deriving DecidableEq, Inhabited

def Anomaly.text : Anomaly → String
  | .overflow => "overflow"
  | .underflow => "underflow"

/-- The most tasks that may run at once; `none` bounds nothing. -/
abbrev Limit := Option Number

namespace Limit

/-- Whether more run than may. -/
def isExceeded (limit : Limit) (running : Number) : Bool := limit.any (·.below running)

/-- Whether as many run as may. -/
def isReached (limit : Limit) (running : Number) : Bool := limit.any (·.equals running)

/-- A count brought down to the limit. -/
def clamp (limit : Limit) (running : Number) : Number := limit.getD running

def entry (limit : Limit) : String × Thrown :=
  match limit with
  | some n => Logging.amount "limit" n
  | none => ("limit", .value .undefined)

end Limit

/-- How many tasks run, as a number that other code may have overwritten with any other. -/
structure Slot where
  running : Number := 0
  pending : Option Ticket := none
  deriving DecidableEq, Inhabited

/-- What a slot shows of itself. -/
structure Snapshot where
  tag : Tag
  limit : Limit
  running : Number
  hasPending : Bool
  deriving DecidableEq

namespace Slot

/-- What stays the same over the life of a slot. -/
structure Setting where
  tag : Tag
  limit : Limit
  logger : Option Logging.Threshold := none

/-- A transition that a slot announces. -/
inductive Notice where
  | dispatched (ticket : Ticket) (running : Number)
  /-- The task waits now, in place of the one that waited before. -/
  | queued (ticket : Ticket) (replaced : Option Ticket)
  | finished (running : Number)
  | rejected (ticket : Ticket) (e : Thrown)
  | anomaly (kind : Anomaly) (observed : Number)

/-- Where a step goes on once its notice was heard. -/
inductive Resume where
  /-- After an overflow: bring the count down to the limit, then place the task. -/
  | place (ticket : Ticket)
  /-- After an underflow: finish as if one task had been running. -/
  | release
  | handOver
  | answer (queued : Bool)

/-- A step that stops to announce a transition. -/
structure Report where
  slot : Slot
  records : List Logging.Record
  notice : Notice
  resume : Resume

inductive Progress where
  | report (report : Report)
  /-- The runner is asked to take a task. -/
  | offer (slot : Slot) (records : List Logging.Record) (ticket : Ticket)
  | done (slot : Slot) (records : List Logging.Record) (queued : Bool)

/-- The same progress with records written before it. -/
def Progress.after (earlier : List Logging.Record) : Progress → Progress
  | .report r => .report { r with records := earlier ++ r.records }
  | .offer slot records ticket => .offer slot (earlier ++ records) ticket
  | .done slot records queued => .done slot (earlier ++ records) queued

section Step
variable (setting : Setting)

def debug (message : String) (context : Logging.Context) : List Logging.Record :=
  (Logging.writeLazily setting.logger .debug message fun _ => context).records

def tagEntry : String × Thrown := Logging.label "tag" setting.tag

def runningEntry (slot : Slot) : String × Thrown := Logging.amount "running" slot.running

/-- Makes the task wait if the tag is at its limit, and offers it to the runner otherwise. -/
def place (slot : Slot) (ticket : Ticket) : Progress :=
  if setting.limit.isReached slot.running then
    .report {
      slot := { slot with pending := some ticket }
      records := debug setting "At limit, updating pending"
        [tagEntry setting, setting.limit.entry,
          Logging.flag "replacedPending" slot.pending.isSome]
      notice := .queued ticket slot.pending
      resume := .answer true }
  else .offer { slot with running := slot.running.plus 1 } [] ticket

def submit (slot : Slot) (ticket : Ticket) : Progress :=
  let entry := debug setting "run()" [tagEntry setting, runningEntry slot]
  if setting.limit.isExceeded slot.running then
    .report {
      slot
      records := entry ++ Logging.write setting.logger .warn
        "Running count exceeds the limit, clamping"
        [tagEntry setting, runningEntry slot, setting.limit.entry]
      notice := .anomaly .overflow slot.running
      resume := .place ticket }
  else (place setting slot ticket).after entry

/-- The runner took the task. -/
def accepted (slot : Slot) (ticket : Ticket) : Report where
  slot := slot
  records := debug setting "Task dispatched" [tagEntry setting, runningEntry slot]
  notice := .dispatched ticket slot.running
  resume := .answer false

/-- The runner refused the task, which is given up. -/
def refused (slot : Slot) (ticket : Ticket) (e : Thrown) : Report where
  slot := { slot with running := slot.running.plus (-1) }
  records := Logging.write setting.logger .error "Task runner refused work, task dropped"
    [Logging.err e, tagEntry setting]
  notice := .rejected ticket e
  resume := .answer true

def finish (slot : Slot) : Report :=
  let freed := { slot with running := slot.running.plus (-1) }
  { slot := freed
    records := debug setting "Task finished" [tagEntry setting, runningEntry freed]
    notice := .finished freed.running
    resume := .handOver }

/-- A task of the tag has ended. -/
def complete (slot : Slot) : Report :=
  if slot.running.le 0 then
    { slot
      records := Logging.write setting.logger .warn
        "Task finished while no task was running, clamping" [tagEntry setting, runningEntry slot]
      notice := .anomaly .underflow slot.running
      resume := .release }
  else finish setting slot

/-- Submits the waiting task again, if there is one. -/
def handOver (slot : Slot) : Progress :=
  match slot.pending with
  | some ticket =>
    (submit setting { slot with pending := none } ticket).after
      (debug setting "Running pending task" [tagEntry setting])
  | none => .done slot [] false

/-- Goes on after a notice, from the slot as it is now. -/
def resume (slot : Slot) : Resume → Progress
  | .place ticket =>
    place setting { slot with running := setting.limit.clamp slot.running } ticket
  | .release => .report (finish setting { slot with running := 1 })
  | .handOver => handOver setting slot
  | .answer queued => .done slot [] queued

def snapshot (slot : Slot) : Snapshot where
  tag := setting.tag
  limit := setting.limit
  running := slot.running
  hasPending := slot.pending.isSome

end Step
end Slot
end Turnstile
