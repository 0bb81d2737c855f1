import Turnstile.Proofs.Passages

/-!
Systems that do the same in another guise: with other loggers, with all outcomes taken for fulfilled,
or with another way in. A guise is a change to parts of a system that its steps hardly look at, so what
a step of the system in a guise comes to is what it comes to without, in that guise. There is one
theorem for each function that makes up a reaction, and it is about every guise; what is proved of
loggers, of outcomes and of shutdowns comes of it.

Steps do look at these parts in three places, and the theorems say where. A record is written if the
logger lets it through. A lane that goes on with a failed work tells its listeners before it is free.
And a pool that is shut down refuses the work that it is offered.
-/
namespace Turnstile

/-- The loggers of a limiter, with all its slots, and of its runner. -/
structure Loggers where
  limiter : Option Logging.Threshold
  pool : Option Logging.Threshold

namespace Loggers

/-- Loggers that write every record. -/
def full : Loggers := ⟨some (.atLeast .trace), some (.atLeast .trace)⟩

/-- All that a pool ever says. -/
def poolMessages : List String :=
  ["PooledTaskRunner shutting down", "Task failed", "Lane freed", "Error emitting taskError event",
    "Error emitting idle event"]

def writing (g : Loggers) (message : String) : Option Logging.Threshold :=
  if message ∈ poolMessages then g.pool else g.limiter

/-- Whether the level of a record reaches the threshold of the logger that it is for. -/
def admits (g : Loggers) (r : Logging.Record) : Bool := Logging.enabled (g.writing r.message) r.level

theorem full_enabled (level : Logging.Level) :
    Logging.enabled full.limiter level = true ∧ Logging.enabled full.pool level = true := by
  cases level <;> exact ⟨rfl, rfl⟩

end Loggers

/-- What is another in a system: loggers, which are compared with loggers that write everything;
outcomes, which are all taken for fulfilled, so that no failures are counted; and the way in, which is
whether the pool is shut down and the number of the next submission. -/
structure Guise where
  loggers : Option Loggers := none
  forgets : Bool := false
  entry : Option (Bool × Ticket) := none

/-- Whether a note tells of a task that a slot offers to the runner. -/
def Note.offersTask : Note → Bool
  | .offered (.limited ..) => true
  | _ => false

def Reaction.offersTask (r : Reaction) : Bool := r.notes.any Note.offersTask

/-- Whether it tells of a failed work. -/
def Signal.tellsFailure : Signal → Bool
  | .call (.pool (.taskError _)) => true
  | _ => false

namespace Guise
variable (v : Guise)

/-- The guise that a system in the guise is compared with. It has no loggers of its own, or loggers
that write everything. -/
def base : Guise where
  loggers := v.loggers.map fun _ => .full

def limiterLogger (logger : Option Logging.Threshold) : Option Logging.Threshold :=
  (v.loggers.map Loggers.limiter).getD logger

def poolLogger (logger : Option Logging.Threshold) : Option Logging.Threshold :=
  (v.loggers.map Loggers.pool).getD logger

def outcome (o : Outcome) : Outcome := if v.forgets then .fulfilled else o

def pool (p : Pool) : Pool :=
  { p with
    logger := v.poolLogger p.logger
    failed := if v.forgets then 0 else p.failed
    isShutdown := (v.entry.map Prod.fst).getD p.isShutdown }

def job : Job → Job
  | .conclude tag ticket starter o => .conclude tag ticket starter (v.outcome o)
  | .goOn run o => .goOn run (v.outcome o)

def purpose : Purpose → Purpose
  | .conclude run o inCall => .conclude run (v.outcome o) inCall
  | .submit ticket => .submit ticket
  | .complete => .complete

def frame : Frame → Frame
  | .message tag current rest resume purpose => .message tag current rest resume (v.purpose purpose)
  | .offer tag ticket purpose => .offer tag ticket (v.purpose purpose)
  | .hand ticket => .hand ticket
  | .task run => .task run
  | .taskError inPump => .taskError inPump
  | .idle inPump => .idle inPump

def loop (l : EventLoop) : EventLoop := { l with jobs := l.jobs.map v.job }

def setting (s : Slot.Setting) : Slot.Setting := { s with logger := v.limiterLogger s.logger }

def system (s : System) : System :=
  { s with
    limiter := { s.limiter with logger := v.limiterLogger s.limiter.logger }
    pool := s.pool.map v.pool
    loop := v.loop s.loop
    settled := s.settled.map fun entry => (entry.1, v.outcome entry.2)
    stack := s.stack.map v.frame
    tickets := (v.entry.map Prod.snd).getD s.tickets }

/-- Whether the loggers let a record through. -/
def admits (r : Logging.Record) : Bool := v.loggers.all (·.admits r)

def keeps : Note → Bool
  | .record r => v.admits r
  | _ => true

def note : Note → Note
  | .concluding run o => .concluding run (v.outcome o)
  | .settled run o => .settled run (v.outcome o)
  | .seen run o => .seen run (v.outcome o)
  | other => other

def notes (notes : List Note) : List Note := (notes.filter v.keeps).map v.note

def reaction (r : Reaction) : Reaction where
  system := v.system r.system
  notes := v.notes r.notes
  signal := r.signal

/-- The first reaction is the second one in the guise. Where outcomes are forgotten, no failed work
is told of. -/
structure Disguises (r u : Reaction) : Prop where
  same : r = v.reaction u
  quiet : v.forgets = true → u.signal.tellsFailure = false

/-- Whatever the second guise changes, the first one changes as well. -/
structure Covers (v u : Guise) : Prop where
  loggers : v.loggers = none → u.loggers = none
  forgets : v.forgets = false → u.forgets = false
  entry : v.entry = none → u.entry = none

/-- The way in is the same, or the reaction offers no task to the runner. -/
def Lets (r : Reaction) : Prop := v.entry = none ∨ r.offersTask = false

variable {v}

theorem outcome_of_remembers (remembers : v.forgets = false) (o : Outcome) : v.outcome o = o := by
  rw [outcome, remembers]
  rfl

theorem outcome_fulfilled : v.outcome .fulfilled = .fulfilled := ite_self _

theorem system_of_remembers (remembers : v.forgets = false) (s : System) :
    v.system s =
      { s with
        limiter := { s.limiter with logger := v.limiterLogger s.limiter.logger }
        pool := s.pool.map v.pool
        tickets := (v.entry.map Prod.snd).getD s.tickets } := by
  have same : v.outcome = id := funext (outcome_of_remembers remembers)
  have job : v.job = id := by
    funext j
    cases j <;> simp [Guise.job, same]
  have frame : v.frame = id := by
    have purpose (p : Purpose) : v.purpose p = p := by cases p <;> simp [Guise.purpose, same]
    funext f
    cases f <;> simp [Guise.frame, purpose]
  simp [system, loop, job, frame, same]

theorem notes_of_remembers (remembers : v.forgets = false) (notes : List Note) :
    v.notes notes = notes.filter v.keeps := by
  have note : v.note = id := by
    funext note
    cases note <;> simp [Guise.note, outcome_of_remembers remembers]
  rw [Guise.notes, note, List.map_id]

/-- Where nothing is another, there is no guise. -/
theorem system_bare (s : System) : ({} : Guise).system s = s := by
  have pool : ({} : Guise).pool = id := rfl
  rw [system_of_remembers rfl, pool, Option.map_id]
  rfl

section Covers
variable {u : Guise} (covers : v.Covers u)
include covers

theorem outcome_outcome (o : Outcome) : v.outcome (u.outcome o) = v.outcome o := by
  cases h : v.forgets with
  | false => rw [outcome_of_remembers (covers.forgets h)]
  | true => simp [outcome, h]

theorem purpose_purpose (p : Purpose) : v.purpose (u.purpose p) = v.purpose p := by
  cases p <;> simp [Guise.purpose, outcome_outcome covers]

theorem job_job : v.job ∘ u.job = v.job := by
  funext j
  cases j <;> simp [Guise.job, outcome_outcome covers]

theorem frame_frame : v.frame ∘ u.frame = v.frame := by
  funext f
  cases f <;> simp [Guise.frame, purpose_purpose covers]

theorem limiterLogger_limiterLogger (logger : Option Logging.Threshold) :
    v.limiterLogger (u.limiterLogger logger) = v.limiterLogger logger := by
  cases h : v.loggers with
  | none => simp [limiterLogger, h, covers.loggers h]
  | some g => simp [limiterLogger, h]

theorem pool_pool : v.pool ∘ u.pool = v.pool := by
  have logger (l : Option Logging.Threshold) : v.poolLogger (u.poolLogger l) = v.poolLogger l := by
    cases h : v.loggers with
    | none => simp [poolLogger, h, covers.loggers h]
    | some g => simp [poolLogger, h]
  funext p
  cases forgets : v.forgets <;> cases entry : v.entry <;>
    simp_all [Guise.pool, covers.forgets, covers.entry]

/-- What a guise changes it changes whatever it was before. -/
theorem system_system (s : System) : v.system (u.system s) = v.system s := by
  have tickets : (v.entry.map Prod.snd).getD ((u.entry.map Prod.snd).getD s.tickets) =
      (v.entry.map Prod.snd).getD s.tickets := by
    cases h : v.entry with
    | none => simp [covers.entry h]
    | some entry => rfl
  simp only [system, loop, List.map_map, Option.map_map, job_job covers, frame_frame covers,
    pool_pool covers, limiterLogger_limiterLogger covers, tickets, Function.comp_def,
    outcome_outcome covers]

end Covers

theorem covers_base : v.Covers v.base where
  loggers none := by rw [base, none, Option.map_none]
  forgets _ := rfl
  entry _ := rfl

namespace Disguises
variable {r u : Reaction}

theorem after (h : v.Disguises r u) (notes : List Note) {notes' : List Note}
    (same : notes' = v.notes notes) : v.Disguises (r.after notes') (u.after notes) where
  same := by
    rw [h.same, same]
    simp [Reaction.after, reaction, Guise.notes]
  quiet := h.quiet

theorem afterRecords (h : v.Disguises r u) {records records' : List Logging.Record}
    (written : records = records'.filter v.admits) :
    v.Disguises (r.afterRecords records) (u.afterRecords records') := by
  refine h.after _ ?_
  have plain : v.note ∘ Note.record = Note.record := rfl
  have keeps : v.keeps ∘ Note.record = v.admits := rfl
  rw [written, Guise.notes, List.filter_map, keeps, List.map_map, plain]

end Disguises

theorem Lets.of_afterRecords {r : Reaction} {records : List Logging.Record}
    (h : v.Lets (r.afterRecords records)) : v.Lets r := by
  refine h.imp_right fun quiet => ?_
  simpa [Reaction.offersTask, Reaction.afterRecords, Reaction.after, Note.offersTask] using quiet

theorem filter_admits (same : v.loggers = none) (records : List Logging.Record) :
    records.filter v.admits = records :=
  List.filter_eq_self.2 fun r _ => by simp [admits, same]

section Records
variable (v) (logger : Option Logging.Threshold) {level : Logging.Level} {message : String}
  (context : Logging.Context)

theorem limiter_write (own : message ∉ Loggers.poolMessages) :
    Logging.write (v.limiterLogger logger) level message context =
      (Logging.write (v.base.limiterLogger logger) level message context).filter v.admits := by
  cases h : v.loggers with
  | none => simp [limiterLogger, base, h, filter_admits h]
  | some g =>
      simp only [limiterLogger, base, h, Option.map_some, Option.getD_some]
      rw [Logging.write, Logging.write, if_pos (Loggers.full_enabled level).1]
      simp [admits, h, Loggers.admits, Loggers.writing, own, List.filter_cons]

theorem pool_write (own : message ∈ Loggers.poolMessages) :
    Logging.write (v.poolLogger logger) level message context =
      (Logging.write (v.base.poolLogger logger) level message context).filter v.admits := by
  cases h : v.loggers with
  | none => simp [poolLogger, base, h, filter_admits h]
  | some g =>
      simp only [poolLogger, base, h, Option.map_some, Option.getD_some]
      rw [Logging.write, Logging.write, if_pos (Loggers.full_enabled level).2]
      simp [admits, h, Loggers.admits, Loggers.writing, own, List.filter_cons]

end Records
end Guise

/-- Whether the context is built beforehand makes no difference to what is written. -/
theorem Logging.records_writeLazily (logger : Option Logging.Threshold) (level : Logging.Level)
    (message : String) (context : Unit → Logging.Context) :
    (Logging.writeLazily logger level message context).records =
      Logging.write logger level message (context ()) := by
  rw [Logging.writeLazily, Logging.write]
  split <;> rfl

namespace Slot
variable (v : Guise) (setting : Setting) (slot : Slot) (ticket : Ticket)

/-- The report with the records that the loggers of a guise let through. -/
def Report.disguised (r : Report) (v : Guise) : Report :=
  { r with records := r.records.filter v.admits }

def Progress.disguised (p : Progress) (v : Guise) : Progress :=
  match p with
  | .report r => .report (r.disguised v)
  | .offer slot records ticket => .offer slot (records.filter v.admits) ticket
  | .done slot records queued => .done slot (records.filter v.admits) queued

theorem debug_disguised (message : String) (context : Logging.Context)
    (own : message ∉ Loggers.poolMessages) :
    debug (v.setting setting) message context =
      (debug (v.base.setting setting) message context).filter v.admits := by
  rw [debug, debug, Logging.records_writeLazily, Logging.records_writeLazily]
  exact v.limiter_write setting.logger context own

theorem after_disguised {p q : Progress} {records records' : List Logging.Record}
    (h : p = q.disguised v) (written : records = records'.filter v.admits) :
    p.after records = (q.after records').disguised v := by
  subst h written
  cases q <;> simp [Progress.after, Progress.disguised, Report.disguised]

theorem place_disguised :
    place (v.setting setting) slot ticket =
      (place (v.base.setting setting) slot ticket).disguised v := by
  by_cases reached : setting.limit.isReached slot.running = true
  · simp only [place, Guise.setting, reached, if_true, Progress.disguised, Report.disguised]
    exact congrArg (fun records => Progress.report ⟨_, records, _, _⟩)
      (debug_disguised v setting _ _ (by decide))
  · simp only [place, Guise.setting, reached]
    rfl

theorem submit_disguised :
    submit (v.setting setting) slot ticket =
      (submit (v.base.setting setting) slot ticket).disguised v := by
  have entry := debug_disguised v setting "run()" [tagEntry setting, runningEntry slot] (by decide)
  by_cases exceeded : setting.limit.isExceeded slot.running = true
  · have clamping (v : Guise) :
        submit (v.setting setting) slot ticket = (Progress.report {
          slot
          records := Logging.write (v.limiterLogger setting.logger) .warn
            "Running count exceeds the limit, clamping"
            [tagEntry setting, runningEntry slot, setting.limit.entry]
          notice := .anomaly .overflow slot.running
          resume := .place ticket }).after
            (debug (v.setting setting) "run()" [tagEntry setting, runningEntry slot]) :=
      if_pos exceeded
    rw [clamping, clamping]
    refine after_disguised v ?_ entry
    exact congrArg (fun records => Progress.report ⟨_, records, _, _⟩)
      (v.limiter_write _ _ (by decide))
  · have placing (v : Guise) :
        submit (v.setting setting) slot ticket = (place (v.setting setting) slot ticket).after
          (debug (v.setting setting) "run()" [tagEntry setting, runningEntry slot]) :=
      if_neg exceeded
    rw [placing, placing]
    exact after_disguised v (place_disguised v setting slot ticket) entry

theorem accepted_disguised :
    accepted (v.setting setting) slot ticket =
      (accepted (v.base.setting setting) slot ticket).disguised v :=
  congrArg (fun records => Report.mk _ records _ _) (debug_disguised v setting _ _ (by decide))

theorem refused_disguised (e : Thrown) :
    refused (v.setting setting) slot ticket e =
      (refused (v.base.setting setting) slot ticket e).disguised v :=
  congrArg (fun records => Report.mk _ records _ _) (v.limiter_write _ _ (by decide))

theorem finish_disguised :
    finish (v.setting setting) slot = (finish (v.base.setting setting) slot).disguised v :=
  congrArg (fun records => Report.mk _ records _ _) (debug_disguised v setting _ _ (by decide))

theorem complete_disguised :
    complete (v.setting setting) slot = (complete (v.base.setting setting) slot).disguised v := by
  by_cases none : slot.running.le 0 = true
  · simp only [complete, none, if_true]
    exact congrArg (fun records => Report.mk _ records _ _) (v.limiter_write _ _ (by decide))
  · simp only [complete, none]
    exact finish_disguised v setting slot

theorem handOver_disguised :
    handOver (v.setting setting) slot =
      (handOver (v.base.setting setting) slot).disguised v := by
  rw [handOver, handOver]
  cases slot.pending with
  | none => rfl
  | some ticket =>
      exact after_disguised v (submit_disguised v setting _ ticket)
        (debug_disguised v setting _ _ (by decide))

theorem resume_disguised (r : Resume) :
    resume (v.setting setting) slot r =
      (resume (v.base.setting setting) slot r).disguised v := by
  cases r with
  | place ticket => exact place_disguised v setting _ ticket
  | release => exact congrArg Progress.report (finish_disguised v setting _)
  | handOver => exact handOver_disguised v setting slot
  | answer queued => rfl

end Slot

namespace System
variable (s : System) (v : Guise)

/-- Where nothing else is done, the reactions differ in the guise alone. -/
theorem silent_disguised (signal : Signal)
    (quiet : v.forgets = true → signal.tellsFailure = false) :
    v.Disguises { system := v.system s, signal } { system := v.base.system s, signal } where
  same := congrArg (fun system => Reaction.mk system [] signal) (Guise.system_system Guise.covers_base s).symm
  quiet

theorem returned_disguised : v.Disguises (v.system s).returned (v.base.system s).returned :=
  s.silent_disguised v .returned fun _ => rfl

theorem ignored_disguised : v.Disguises (v.system s).ignored (v.base.system s).ignored :=
  s.silent_disguised v .ignored fun _ => rfl

theorem callOut_disguised (frame : Frame) (call : Call)
    (quiet : v.forgets = true → (Signal.call call).tellsFailure = false) :
    v.Disguises ((v.system s).callOut (v.frame frame) call)
      ((v.base.system s).callOut (v.base.frame frame) call) :=
  silent_disguised { s with stack := frame :: s.stack } v (.call call) quiet

theorem guise_pool : (v.system s).pool = s.pool.map v.pool := rfl

theorem guise_pushJob (job : Job) :
    (v.system s).pushJob (v.job job) = v.system (s.pushJob job) := by
  simp [Guise.system, Guise.loop, pushJob, EventLoop.pushJob]

theorem guise_schedulePump (pool : Pool) :
    (v.system s).schedulePump (v.pool pool) = v.system (s.schedulePump pool) := by
  have same : (v.pool pool).pumpScheduled = pool.pumpScheduled := rfl
  rw [schedulePump, schedulePump, same]
  split <;> rfl

theorem guise_next? (pool : Pool) :
    (v.pool pool).next? = pool.next?.map fun found => (found.1, v.pool found.2) := by
  have backlog : (v.pool pool).backlog = pool.backlog := rfl
  have lanes : (v.pool pool).active < (v.pool pool).concurrency ↔
      pool.active < pool.concurrency := .rfl
  rw [Pool.next?, Pool.next?, backlog]
  simp only [lanes]
  split
  · cases pool.backlog <;> rfl
  · rfl

theorem pump_disguised : v.Disguises (v.system s).pump (v.base.system s).pump := by
  have found (v : Guise) : (v.system s).pool.bind Pool.next? =
      (s.pool.bind Pool.next?).map fun found => (found.1, v.pool found.2) := by
    cases hp : s.pool with
    | none => simp [Guise.system, hp]
    | some pool => simpa [Guise.system, hp] using guise_next? v pool
  rw [pump, pump, found, found]
  cases s.pool.bind Pool.next? with
  | none => exact s.returned_disguised v
  | some found =>
      exact ((s.setPool found.2).callOut_disguised v (.task ⟨found.1, .lane⟩) (.task found.1)
        fun _ => rfl).after _ rfl

theorem leave_disguised (inPump : Bool) :
    v.Disguises ((v.system s).leave inPump) ((v.base.system s).leave inPump) := by
  cases inPump with
  | true => exact s.pump_disguised v
  | false => exact s.returned_disguised v

theorem notes_terminated (waiters : List Waiter) :
    waiters.map (Note.terminated · true) = v.notes (waiters.map (Note.terminated · true)) := by
  induction waiters with
  | nil => rfl
  | cons w waiters ih => exact congrArg _ ih

theorem becomeIdle_disguised (pool : Pool) (inPump : Bool) :
    v.Disguises ((v.system s).becomeIdle (v.pool pool) inPump)
      ((v.base.system s).becomeIdle (v.base.pool pool) inPump) := by
  let idle : System :=
    { s with pool := some { pool with waiters := [] }, loop := s.loop.clear pool.waiters }
  exact (idle.callOut_disguised v (.idle inPump) (.pool .idle) fun _ => rfl).after _
    (notes_terminated v pool.waiters)

theorem free_records (pool : Pool) :
    (v.pool pool).free.2 = (v.base.pool pool).free.2.filter v.admits := by
  simp only [Pool.free, Logging.records_writeLazily]
  exact v.pool_write pool.logger _ (by decide)

theorem freeLane_disguised (pool : Pool) (inPump : Bool) :
    v.Disguises ((v.system s).freeLane (v.pool pool) inPump)
      ((v.base.system s).freeLane (v.base.pool pool) inPump) := by
  rw [freeLane_eq, freeLane_eq]
  refine .afterRecords ?_ (free_records v pool)
  have freed (v : Guise) : (v.pool pool).free.1 = v.pool pool.free.1 := rfl
  have backlog (v : Guise) : (v.pool pool.free.1).backlog = pool.free.1.backlog := rfl
  have active (v : Guise) : (v.pool pool.free.1).active = pool.free.1.active := rfl
  simp only [freed, backlog, active]
  split
  · rw [guise_schedulePump, guise_schedulePump]
    exact leave_disguised _ v inPump
  · split
    · exact leave_disguised (s.setPool pool.free.1) v inPump
    · exact s.becomeIdle_disguised v pool.free.1 inPump

/-- Whoever goes on with an outcome that counts for another one may have a failure to tell of. -/
theorem goOn_disguised (remembers : v.forgets = false) (run : Run) (outcome : Outcome)
    (inPump : Bool) :
    v.Disguises ((v.system s).goOn run outcome inPump)
      ((v.base.system s).goOn run outcome inPump) := by
  obtain ⟨loggers, forgets, entry⟩ := v
  cases remembers
  rw [goOn, goOn, guise_pool, guise_pool]
  refine .after ?_ _ rfl
  cases run.starter with
  | caller => exact s.returned_disguised _
  | lane =>
      cases hp : s.pool with
      | none => exact s.returned_disguised _
      | some pool =>
          cases outcome with
          | fulfilled => exact s.freeLane_disguised _ pool inPump
          | rejected e =>
              have failed := (s.setPool (pool.fail e).1).callOut_disguised ⟨loggers, false, entry⟩
                (.taskError inPump) (.pool (.taskError e)) (by simp)
              exact failed.afterRecords (Guise.pool_write _ pool.logger _ (by decide))

section Slots
variable (tag : Tag) (purpose : Purpose)

theorem announce_disguised {report report' : Slot.Report} (h : report = report'.disguised v) :
    v.Disguises ((v.system s).announce tag (v.purpose purpose) report)
      ((v.base.system s).announce tag (v.base.purpose purpose) report') := by
  subst h
  let counted : System :=
    { s with limiter := (s.limiter.setSlot tag report'.slot).count report'.notice }
  let told := s.messages tag report'.notice
  have called := counted.callOut_disguised v (.message tag told.1 told.2 report'.resume purpose)
    (.message told.1) fun _ => rfl
  exact (called.after [.noticed tag report'.notice] rfl).afterRecords rfl

theorem finishStep_disguised (queued : Bool) :
    v.Disguises ((v.system s).finishStep tag (v.purpose purpose) queued)
      ((v.base.system s).finishStep tag (v.base.purpose purpose) queued) := by
  cases purpose with
  | submit ticket =>
      exact (s.silent_disguised v (.answer queued) fun _ => rfl).after
        [.answered tag ticket queued] rfl
  | complete => exact s.returned_disguised v
  | conclude run outcome inCall =>
      have left := leave_disguised (s.pushJob (.goOn run outcome)) v (inCall && run.starter == .lane)
      rw [← guise_pushJob, ← guise_pushJob] at left
      exact left.after _ rfl

theorem accepted_disguised (ticket : Ticket) :
    v.Disguises ((v.system s).accepted tag ticket (v.purpose purpose))
      ((v.base.system s).accepted tag ticket (v.base.purpose purpose)) :=
  (s.announce_disguised v tag purpose
    (Slot.accepted_disguised v (s.limiter.setting tag) (s.limiter.slot tag) ticket)).after _ rfl

theorem refused_disguised (ticket : Ticket) (e : Thrown) :
    v.Disguises ((v.system s).refused tag ticket e (v.purpose purpose))
      ((v.base.system s).refused tag ticket e (v.base.purpose purpose)) :=
  s.announce_disguised v tag purpose
    (Slot.refused_disguised v (s.limiter.setting tag) (s.limiter.slot tag) ticket e)

variable {v}

theorem guise_accept (sameEntry : v.entry = none) (pool : Pool) (work : Work) :
    (v.pool pool).accept work = (pool.accept work).map v.pool := by
  obtain ⟨loggers, forgets, entry⟩ := v
  cases sameEntry
  have down : (Guise.pool ⟨loggers, forgets, none⟩ pool).isShutdown = pool.isShutdown := rfl
  rw [Pool.accept, Pool.accept, down]
  split <;> rfl

theorem offer_disguised (sameEntry : v.entry = none) (ticket : Ticket) :
    v.Disguises ((v.system s).offer tag ticket (v.purpose purpose))
      ((v.base.system s).offer tag ticket (v.base.purpose purpose)) := by
  rw [offer, offer, guise_pool, guise_pool]
  refine .after ?_ _ rfl
  cases hp : s.pool with
  | none => exact s.callOut_disguised v (.offer tag ticket purpose) _ fun _ => rfl
  | some pool =>
      simp only [Option.map_some, guise_accept sameEntry, guise_accept (v := v.base) rfl]
      cases pool.accept (.limited tag ticket) with
      | ok later =>
          simp only [Except.map, guise_schedulePump]
          exact accepted_disguised (s.schedulePump later) v tag purpose ticket
      | error f => exact s.refused_disguised v tag purpose ticket (.fault f)

theorem follow_disguised {p p' : Slot.Progress} (h : p = p'.disguised v)
    (lets : v.Lets ((v.base.system s).follow tag (v.base.purpose purpose) p')) :
    v.Disguises ((v.system s).follow tag (v.purpose purpose) p)
      ((v.base.system s).follow tag (v.base.purpose purpose) p') := by
  subst h
  cases p' with
  | report report => exact s.announce_disguised v tag purpose rfl
  | offer slot records ticket =>
      have offers : ((v.base.system s).follow tag (v.base.purpose purpose)
          (.offer slot records ticket)).offersTask = true := by
        simp [follow, offer, Reaction.offersTask, Reaction.afterRecords, Reaction.after,
          Note.offersTask]
      have sameEntry := lets.resolve_right (ne_false_of_eq_true offers)
      exact (offer_disguised (s.setSlot tag slot) tag purpose sameEntry ticket).afterRecords rfl
  | done slot records queued =>
      exact (finishStep_disguised (s.setSlot tag slot) v tag purpose queued).afterRecords rfl

variable (v)

theorem complete_disguised :
    v.Disguises ((v.system s).complete tag (v.purpose purpose))
      ((v.base.system s).complete tag (v.base.purpose purpose)) :=
  s.announce_disguised v tag purpose
    (Slot.complete_disguised v (s.limiter.setting tag) (s.limiter.slot tag))

theorem conclude_disguised (ticket : Ticket) (starter : Starter) (outcome : Outcome)
    (inCall : Bool) :
    v.Disguises ((v.system s).conclude tag ticket starter (v.outcome outcome) inCall)
      ((v.base.system s).conclude tag ticket starter outcome inCall) :=
  (s.complete_disguised v tag (.conclude ⟨.limited tag ticket, starter⟩ outcome inCall)).after _ rfl

end Slots

theorem lookup_guise (settled : List (Promise × Outcome)) (promise : Promise) :
    (settled.map fun entry => (entry.1, v.outcome entry.2)).lookup promise =
      (settled.lookup promise).map v.outcome := by
  induction settled with
  | nil => rfl
  | cons entry rest ih =>
      rw [List.map_cons, List.lookup_cons, List.lookup_cons, ih]
      cases promise == entry.1 <;> rfl

theorem guise_ofRun (run : Run) (outcome : Outcome) :
    Job.ofRun run (v.outcome outcome) = v.job (.ofRun run outcome) := by
  obtain ⟨work, starter⟩ := run
  cases work <;> rfl

theorem guise_settle (promise : Promise) (outcome : Outcome) :
    (v.system s).settle promise (v.outcome outcome) = v.system (s.settle promise outcome) := by
  have known : ((v.system s).settled.lookup promise).isSome =
      (s.settled.lookup promise).isSome := by simp [Guise.system, lookup_guise]
  rw [settle, settle, known]
  split
  · rfl
  · simp [Guise.system, Guise.loop, EventLoop.pushJobs, Function.comp_def, guise_ofRun]

theorem guise_await (promise : Promise) (run : Run) :
    (v.system s).await promise run = v.system (s.await promise run) := by
  have known : (v.system s).settled.lookup promise = (s.settled.lookup promise).map v.outcome :=
    lookup_guise v s.settled promise
  rw [await, await, known]
  cases s.settled.lookup promise with
  | none => rfl
  | some outcome =>
      dsimp only [Option.map_some]
      rw [guise_ofRun, guise_pushJob]

theorem settled_disguised (promise : Promise) (outcome : Outcome) :
    v.Disguises ((v.system s).settle promise (v.outcome outcome)).returned
      ((v.base.system s).settle promise outcome).returned := by
  have settled := returned_disguised (s.settle promise outcome) v
  rwa [← guise_settle, ← guise_settle] at settled

/-- A task that throws ends with an outcome that no guise may take for another one. -/
theorem taskReturned_disguised (remembers : v.forgets = false) (run : Run) (result : TaskReturn) :
    v.Disguises ((v.system s).taskReturned run result)
      ((v.base.system s).taskReturned run result) := by
  cases result with
  | settled outcome =>
      have left := leave_disguised (s.pushJob (.ofRun run outcome)) v (run.starter == .lane)
      rwa [← guise_pushJob, ← guise_pushJob, ← guise_ofRun, ← guise_ofRun,
        Guise.outcome_of_remembers remembers] at left
  | later promise =>
      simp only [taskReturned, guise_await]
      exact leave_disguised (s.await promise run) v (run.starter == .lane)
  | threw e =>
      obtain ⟨work, starter⟩ := run
      cases work with
      | limited tag ticket =>
          have concluded := s.conclude_disguised v tag ticket starter (.rejected e) true
          rwa [Guise.outcome_of_remembers remembers] at concluded
      | plain ticket =>
          cases starter with
          | lane => exact s.goOn_disguised v remembers ⟨.plain ticket, .lane⟩ (.rejected e) true
          | caller =>
              have returned := returned_disguised
                (s.pushJob (.goOn ⟨.plain ticket, .caller⟩ (.rejected e))) v
              rw [← guise_pushJob, ← guise_pushJob, Guise.job,
                Guise.outcome_of_remembers remembers] at returned
              exact returned

theorem unheard_disguised (message : Message) (thrown : Option Thrown) :
    (v.system s).unheard message thrown =
      ((v.base.system s).unheard message thrown).filter v.admits := by
  cases message with
  | notice => rfl
  | event event =>
      cases thrown with
      | none => rfl
      | some e =>
          have named : event.name ∈ LimiterEvent.names := by
            cases event <;> simp [LimiterEvent.name, LimiterEvent.names]
          have own : ∀ name ∈ LimiterEvent.names,
              "Error emitting " ++ name ++ " event" ∉ Loggers.poolMessages := by decide
          exact v.limiter_write _ _ (own event.name named)

theorem unheardByPool_disguised (event : String) (thrown : Option Thrown)
    (own : event ∈ PoolEvent.names) :
    (v.system s).unheardByPool event thrown =
      ((v.base.system s).unheardByPool event thrown).filter v.admits := by
  have message : ∀ name ∈ PoolEvent.names,
      "Error emitting " ++ name ++ " event" ∈ Loggers.poolMessages := by decide
  rw [unheardByPool.eq_def, unheardByPool.eq_def, guise_pool, guise_pool]
  cases s.pool with
  | none => rfl
  | some pool =>
      cases thrown with
      | none => rfl
      | some e => exact v.pool_write _ _ (message event own)

variable {v}

theorem goOnFrom_disguised (frame : Frame) (answer : Reply)
    (remembers : ∀ result, answer = .task result → v.forgets = false) {r u : Reaction}
    (other : v.Disguises r u)
    (lets : v.Lets (((v.base.system s).goOnFrom (v.base.frame frame) answer).getD u)) :
    v.Disguises (((v.system s).goOnFrom (v.frame frame) answer).getD r)
      (((v.base.system s).goOnFrom (v.base.frame frame) answer).getD u) := by
  cases frame with
  | message tag current rest resume purpose =>
      cases rest with
      | nil =>
          cases answer with
          | heard thrown =>
              have step := s.follow_disguised tag purpose
                (Slot.resume_disguised v (s.limiter.setting tag) (s.limiter.slot tag) resume)
                lets.of_afterRecords
              exact step.afterRecords (s.unheard_disguised v current thrown)
          | accept | refuse | task => exact other
      | cons next rest =>
          cases answer with
          | heard thrown =>
              have called := s.callOut_disguised v (.message tag next rest resume purpose)
                (.message next) fun _ => rfl
              exact called.afterRecords (s.unheard_disguised v current thrown)
          | accept | refuse | task => exact other
  | offer tag ticket purpose =>
      cases answer with
      | accept => exact s.accepted_disguised v tag purpose ticket
      | refuse e => exact s.refused_disguised v tag purpose ticket e
      | heard | task => exact other
  | hand ticket =>
      cases answer with
      | accept => exact (s.returned_disguised v).after [.accepted (.plain ticket)] rfl
      | refuse e => exact s.silent_disguised v (.refused e) fun _ => rfl
      | heard | task => exact other
  | task run =>
      cases answer with
      | task result => exact s.taskReturned_disguised v (remembers result rfl) run result
      | accept | refuse | heard => exact other
  | taskError inPump =>
      cases answer with
      | heard thrown =>
          have unheard := s.unheardByPool_disguised v "taskError" thrown (by decide)
          simp only [goOnFrom, guise_pool, Guise.frame]
          refine Guise.Disguises.afterRecords ?_ unheard
          cases s.pool with
          | none => exact s.returned_disguised v
          | some pool => exact s.freeLane_disguised v pool inPump
      | accept | refuse | task => exact other
  | idle inPump =>
      cases answer with
      | heard thrown =>
          have unheard := s.unheardByPool_disguised v "idle" thrown (by decide)
          exact (s.leave_disguised v inPump).afterRecords unheard
      | accept | refuse | task => exact other

theorem reply_disguised (answer : Reply)
    (remembers : ∀ result, answer = .task result → v.forgets = false)
    (lets : v.Lets ((v.base.system s).reply answer)) :
    v.Disguises ((v.system s).reply answer) ((v.base.system s).reply answer) := by
  have stack (v : Guise) : (v.system s).stack = s.stack.map v.frame := rfl
  rw [System.reply, stack] at lets
  rw [System.reply, System.reply, stack, stack]
  cases hs : s.stack with
  | nil => exact s.ignored_disguised v
  | cons frame rest =>
      rw [hs] at lets
      exact goOnFrom_disguised { s with stack := rest } frame answer remembers
        (s.ignored_disguised v) lets

variable (v)

theorem runJob_disguised (remembers : v.forgets = false) :
    v.Disguises (v.system s).runJob (v.base.system s).runJob := by
  have stack (v : Guise) : (v.system s).stack = s.stack.map v.frame := rfl
  have jobs (v : Guise) : (v.system s).loop.jobs = s.loop.jobs.map v.job := rfl
  rw [runJob, runJob, stack, stack, jobs, jobs]
  cases s.stack with
  | cons frame rest => exact s.ignored_disguised v
  | nil =>
      cases s.loop.jobs with
      | nil => exact s.ignored_disguised v
      | cons job rest =>
          let taken : System := { s with loop := { s.loop with jobs := rest }, stack := [] }
          cases job with
          | conclude tag ticket starter outcome =>
              exact taken.conclude_disguised v tag ticket starter outcome false
          | goOn run outcome =>
              simp only [List.map_cons, Guise.job, Guise.outcome_of_remembers remembers]
              exact taken.goOn_disguised v remembers run outcome false

theorem guise_quiet : (v.system s).quiet = s.quiet := by
  simp [quiet, Guise.system, Guise.loop]

theorem runImmediate_disguised :
    v.Disguises (v.system s).runImmediate (v.base.system s).runImmediate := by
  have immediates (v : Guise) : (v.system s).loop.immediates = s.loop.immediates := rfl
  rw [runImmediate, runImmediate, guise_quiet, guise_quiet, immediates, immediates]
  split
  · rename_i immediate rest _ _
    let taken : System := { s with loop := { s.loop with immediates := rest } }
    cases immediate with
    | pump =>
        have begun (v : Guise) : (v.system s).pool.map Pool.pumpBegun =
            (s.pool.map Pool.pumpBegun).map v.pool := by
          cases hp : s.pool <;> simp [Guise.system, hp, Guise.pool, Pool.pumpBegun]
        simp only [begun]
        exact pump_disguised { taken with pool := s.pool.map Pool.pumpBegun } v
    | countdown promise more =>
        cases more with
        | zero =>
            have settled := taken.settled_disguised v promise .fulfilled
            rwa [Guise.outcome_fulfilled] at settled
        | succ more =>
            exact returned_disguised
              { taken with loop := taken.loop.pushImmediate (.countdown promise more) } v
  · exact s.ignored_disguised v

theorem runTimer_disguised : v.Disguises (v.system s).runTimer (v.base.system s).runTimer := by
  have fired (v : Guise) : (v.system s).loop.fire? =
      s.loop.fire?.map fun next => (next.1, v.loop next.2) := by
    cases h : EventLoop.first? s.loop.timers <;>
      simp [Guise.system, Guise.loop, EventLoop.fire?, h]
  rw [runTimer, runTimer, guise_quiet, guise_quiet, fired, fired]
  cases s.quiet with
  | false => exact s.ignored_disguised v
  | true =>
      cases s.loop.fire? with
      | none => exact s.ignored_disguised v
      | some next =>
          obtain ⟨alarm, loop⟩ := next
          cases alarm with
          | settle promise =>
              have settled := settled_disguised { s with loop } v promise .fulfilled
              rwa [Guise.outcome_fulfilled] at settled
          | giveUp waiter =>
              have gone (v : Guise) : (v.system s).pool.map (Pool.giveUp · waiter) =
                  (s.pool.map (Pool.giveUp · waiter)).map v.pool := by
                cases hp : s.pool <;> simp [Guise.system, hp, Guise.pool, Pool.giveUp]
              simp only [Option.map_some, gone]
              exact (returned_disguised { s with loop, pool := s.pool.map (Pool.giveUp · waiter) }
                v).after _ rfl

theorem elapse_disguised (ms : Nat) :
    v.Disguises ((v.system s).elapse ms) ((v.base.system s).elapse ms) := by
  have elapsed (v : Guise) : (v.system s).loop.elapse? ms = (s.loop.elapse? ms).map v.loop := by
    rw [EventLoop.elapse?, EventLoop.elapse?, apply_ite (Option.map v.loop)]
    rfl
  rw [elapse, elapse, guise_quiet, guise_quiet, elapsed, elapsed]
  cases s.quiet with
  | false => exact s.ignored_disguised v
  | true =>
      cases s.loop.elapse? ms with
      | none => exact s.ignored_disguised v
      | some loop => exact returned_disguised { s with loop } v

theorem overwrite_disguised (tag : Tag) (running : Number) :
    v.Disguises ((v.system s).overwrite tag running) ((v.base.system s).overwrite tag running) := by
  have slot (v : Guise) : (v.system s).limiter.slot? tag = s.limiter.slot? tag := rfl
  rw [overwrite, overwrite, slot, slot]
  cases s.limiter.slot? tag with
  | none => exact s.ignored_disguised v
  | some slot => exact returned_disguised (s.setSlot tag { slot with running }) v

theorem start_disguised (work : Work) :
    v.Disguises ((v.system s).start work) ((v.base.system s).start work) := by
  have inside (v : Guise) : (v.system s).pool.isSome = s.pool.isSome := Option.isSome_map
  rw [start, start, inside, inside]
  split
  · exact s.ignored_disguised v
  · exact (s.callOut_disguised v (.task ⟨work, .caller⟩) (.task work) fun _ => rfl).after _ rfl

theorem awaitTermination_disguised (ms : Number) :
    v.Disguises ((v.system s).awaitTermination ms) ((v.base.system s).awaitTermination ms) := by
  let taken : System := { s with waits := s.waits + 1 }
  rw [awaitTermination, awaitTermination, guise_pool, guise_pool]
  cases hp : s.pool with
  | none => exact s.ignored_disguised v
  | some pool =>
      have idle (v : Guise) : (v.pool pool).isIdle = pool.isIdle := rfl
      simp only [Option.map_some, idle]
      split
      · exact (returned_disguised { taken with pool := Option.some pool } v).after
          [.terminated s.waits true] rfl
      · exact returned_disguised
          { taken with
            pool := some { pool with waiters := pool.waiters ++ [s.waits] }
            loop := s.loop.arm ms (.giveUp s.waits) } v

section Entry
variable {v} (sameEntry : v.entry = none)
include sameEntry

theorem submit_disguised (tag : Tag) :
    v.Disguises ((v.system s).submit tag) ((v.base.system s).submit tag) := by
  obtain ⟨loggers, forgets, entry⟩ := v
  cases sameEntry
  have entered := follow_disguised { s with tickets := s.tickets + 1 } tag (.submit s.tickets)
    (Slot.submit_disguised ⟨loggers, forgets, none⟩ (s.limiter.setting tag) (s.limiter.slot tag)
      s.tickets) (.inl rfl)
  exact entered.after [.submitted tag s.tickets] rfl

theorem guise_tickets : (v.system s).tickets = s.tickets := by simp [Guise.system, sameEntry]

theorem execute_disguised : v.Disguises (v.system s).execute (v.base.system s).execute := by
  let taken : System := { s with tickets := s.tickets + 1 }
  rw [execute, execute, s.guise_tickets sameEntry, s.guise_tickets (v := v.base) rfl, guise_pool,
    guise_pool]
  refine .after ?_ _ rfl
  cases s.pool with
  | none =>
      obtain ⟨loggers, forgets, entry⟩ := v
      cases sameEntry
      exact callOut_disguised { taken with pool := Option.none } ⟨loggers, forgets, none⟩
        (.hand s.tickets) (.offer (.plain s.tickets)) fun _ => rfl
  | some pool =>
      simp only [Option.map_some, guise_accept sameEntry, guise_accept (v := v.base) rfl]
      obtain ⟨loggers, forgets, entry⟩ := v
      cases sameEntry
      cases pool.accept (.plain s.tickets) with
      | ok later =>
          have scheduled := returned_disguised (taken.schedulePump later) ⟨loggers, forgets, none⟩
          rw [← guise_schedulePump, ← guise_schedulePump] at scheduled
          exact scheduled.after [.accepted (.plain s.tickets)] rfl
      | error f =>
          exact silent_disguised { taken with pool := Option.some pool } ⟨loggers, forgets, none⟩
            (.refused (.fault f)) fun _ => rfl

theorem guise_shutdown (pool : Pool) : (v.pool pool).shutdown.1 = v.pool pool.shutdown.1 := by
  obtain ⟨loggers, forgets, entry⟩ := v
  cases sameEntry
  have down : (Guise.pool ⟨loggers, forgets, none⟩ pool).isShutdown = pool.isShutdown := rfl
  rw [Pool.shutdown, Pool.shutdown, down]
  split <;> rfl

theorem shutdown_records (pool : Pool) :
    (v.pool pool).shutdown.2 = (v.base.pool pool).shutdown.2.filter v.admits := by
  have down (v : Guise) (sameEntry : v.entry = none) :
      (v.pool pool).isShutdown = pool.isShutdown := by simp [Guise.pool, sameEntry]
  rw [Pool.shutdown, Pool.shutdown, down v sameEntry, down v.base rfl]
  split
  · rfl
  · exact v.pool_write pool.logger _ (by decide)

theorem shutdown_disguised : v.Disguises (v.system s).shutdown (v.base.system s).shutdown := by
  rw [shutdown, shutdown, guise_pool, guise_pool]
  cases s.pool with
  | none => exact s.ignored_disguised v
  | some pool =>
      simp only [Option.map_some, guise_shutdown sameEntry pool,
        guise_shutdown (v := v.base) rfl pool]
      exact (returned_disguised (s.setPool pool.shutdown.1) v).afterRecords
        (shutdown_records sameEntry pool)

end Entry
end System

/-- Moves that hand nothing to the limiter or to the runner and do not shut it down. -/
def Move.staysOutside : Move → Bool
  | .submit _ | .execute | .shutdown => false
  | _ => true

/-- Moves in which somebody may go on with the outcome of a work. -/
def Move.goesOn : Move → Bool
  | .reply (.task _) | .job => true
  | _ => false

def Guise.move (v : Guise) : Move → Move
  | .settle promise outcome => .settle promise (v.outcome outcome)
  | m => m

/-- A move from a system in a guise comes to the same, in that guise. -/
theorem System.react_disguised (s : System) {v : Guise} {m : Move}
    (remembers : v.forgets = true → m.goesOn = false)
    (sameEntry : v.entry = none ∨ m.staysOutside = true) (lets : v.Lets ((v.base.system s).react m)) :
    v.Disguises ((v.system s).react (v.move m)) ((v.base.system s).react m) := by
  have remembers (goesOn : m.goesOn = true) : v.forgets = false :=
    Bool.eq_false_iff.2 fun forgets => Bool.false_ne_true ((remembers forgets).symm.trans goesOn)
  have sameEntry (inside : m.staysOutside = false) : v.entry = none :=
    sameEntry.resolve_right (ne_true_of_eq_false inside)
  cases m with
  | submit tag => exact s.submit_disguised (sameEntry rfl) tag
  | complete tag =>
      have slot (v : Guise) : (v.system s).limiter.slot? tag = s.limiter.slot? tag := rfl
      simp only [react, Guise.move, slot]
      split
      · exact s.complete_disguised v tag .complete
      · exact s.ignored_disguised v
  | overwrite tag running => exact s.overwrite_disguised v tag running
  | execute => exact s.execute_disguised (sameEntry rfl)
  | start work => exact s.start_disguised v work
  | shutdown => exact s.shutdown_disguised (sameEntry rfl)
  | awaitTermination ms => exact s.awaitTermination_disguised v ms
  | reply answer =>
      refine s.reply_disguised answer (fun result task => remembers ?_) lets
      rw [task]
      rfl
  | settle promise outcome => exact s.settled_disguised v promise outcome
  | delay promise ms =>
      exact returned_disguised { s with loop := s.loop.arm ms (.settle promise) } v
  | countdown promise immediates =>
      exact returned_disguised
        { s with loop := s.loop.pushImmediate (.countdown promise (immediates - 1)) } v
  | job => exact s.runJob_disguised v (remembers rfl)
  | immediate => exact s.runImmediate_disguised v
  | timer => exact s.runTimer_disguised v
  | elapse ms => exact s.elapse_disguised v ms

/-- Where outcomes are what they were, a move comes to the same but for the guise. -/
theorem System.react_of_remembers (s : System) {v : Guise} {m : Move}
    (remembers : v.forgets = false) (sameEntry : v.entry = none ∨ m.staysOutside = true)
    (lets : v.Lets ((v.base.system s).react m)) :
    (v.system s).react m = v.reaction ((v.base.system s).react m) := by
  have forgetless (forgets : v.forgets = true) : m.goesOn = false :=
    absurd (remembers.symm.trans forgets) Bool.false_ne_true
  have move : v.move m = m := by
    cases m <;> simp [Guise.move, Guise.outcome_of_remembers remembers]
  have went := s.react_disguised forgetless sameEntry lets
  rw [move] at went
  exact went.same

end Turnstile
