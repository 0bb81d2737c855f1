import Turnstile.Proofs.Agreement

/-!
The end of a task. Its slot is told of it once, before the work is settled, and the work is settled
with the outcome that the task had; whoever started the work sees that outcome, and a pool counts and
reports each failure once. Refusals that the slot meets meanwhile and listeners that throw make no
difference.

The tasks that were started are followed from stage to stage. What a reaction says in its notes is
what passes between the stages: where a task leaves one of them it enters the next.
-/
namespace Turnstile

/-- How far the run of a submission has come. -/
inductive Stage where
  | running
  /-- The task has ended, and its slot has not been told. -/
  | ended (outcome : Outcome)
  /-- The slot is being told. -/
  | concluding (outcome : Outcome)
  /-- The work is settled, and whoever started it has not seen that. -/
  | settled (outcome : Outcome)

abbrev Item := Submission × Stage

/-- A submission whose task has ended so. -/
abbrev Ending := Submission × Outcome

namespace Ending

def before (ending : Ending) : Item := (ending.1, .running)

def after (ending : Ending) : Item := (ending.1, .ended ending.2)

/-- The error of a task that failed. -/
def failure? : Ending → Option (Submission × Thrown)
  | (task, .rejected e) => some (task, e)
  | (_, .fulfilled) => none

end Ending

def Run.stands (run : Run) (stage : Stage) : List Item := run.work.submission?.toList.map (·, stage)

def Run.ended (run : Run) (outcome : Outcome) : List Ending :=
  run.work.submission?.toList.map (·, outcome)

def Purpose.items : Purpose → List Item
  | .conclude run outcome _ => run.stands (.concluding outcome)
  | .submit _ | .complete => []

def Frame.items : Frame → List Item
  | .task run => run.stands .running
  | .message _ _ _ _ purpose | .offer _ _ purpose => purpose.items
  | .hand _ | .taskError _ | .idle _ => []

def Job.items : Job → List Item
  | .conclude tag ticket _ outcome => [((tag, ticket), .ended outcome)]
  | .goOn run outcome => run.stands (.settled outcome)

namespace System

def items (s : System) : Multiset Item :=
  s.stack.flatMap Frame.items + s.awaiting.flatMap (fun entry => entry.2.stands .running) +
    s.loop.jobs.flatMap Job.items

/-- Submissions whose task is being called, or waits for a promise. -/
def running (s : System) : List Submission :=
  s.stack.filterMap Frame.inFlight? ++ s.awaiting.filterMap fun entry => entry.2.work.submission?

end System

namespace Note

/-- Whether the note is about the course of a run. -/
def ofRun : Note → Bool
  | .started _ | .concluding .. | .settled .. | .seen .. => true
  | _ => false

def enters : Note → List Item
  | .started run => run.stands .running
  | .concluding run outcome => run.stands (.concluding outcome)
  | .settled run outcome => run.stands (.settled outcome)
  | _ => []

def leaves : Note → List Item
  | .concluding run outcome => run.stands (.ended outcome)
  | .settled run outcome => run.stands (.concluding outcome)
  | .seen run outcome => run.stands (.settled outcome)
  | _ => []

/-- The slot is told that a task has ended so. -/
def concluded : Note → List Ending
  | .concluding run outcome => run.ended outcome
  | _ => []

/-- A work is settled so. -/
def settlements : Note → List Ending
  | .settled run outcome => run.ended outcome
  | _ => []

/-- Whoever started a work has seen its end. -/
def sightings : Note → List Ending
  | .seen run outcome => run.ended outcome
  | _ => []

/-- A work that failed, with its error. -/
def failure? : Note → Option (Work × Thrown)
  | .seen run (.rejected e) => some (run.work, e)
  | _ => none

theorem still {note : Note} (quiet : note.ofRun = false) :
    note.enters = [] ∧ note.leaves = [] ∧ note.failure? = none := by
  cases note with
  | started | concluding | settled | seen => cases quiet
  | record | submitted | noticed | answered | offered | accepted | terminated =>
      exact ⟨rfl, rfl, rfl⟩

end Note

def Outcome.error? : Outcome → Option Thrown
  | .fulfilled => none
  | .rejected e => some e

/-- The error of a work that listeners of the pool are told of. -/
def Signal.failure? : Signal → Option Thrown
  | .call (.pool (.taskError e)) => some e
  | _ => none

namespace Reaction
variable {own : Prop} {items : Multiset Item} {failure : Option Thrown} {r : Reaction}
  {notes : List Note}

def enters (r : Reaction) : List Item := r.notes.flatMap Note.enters

def leaves (r : Reaction) : List Item := r.notes.flatMap Note.leaves

def failures (r : Reaction) : List (Work × Thrown) := r.notes.filterMap Note.failure?

/-- No run leaves its stage, and new ones may begin; listeners of the pool are told of this failure
and of no other. -/
structure Opens (failure : Option Thrown) (items : Multiset Item) (r : Reaction) : Prop where
  leaves : r.leaves = []
  items : r.system.items = items + r.enters
  failures : r.failures = []
  signal : r.signal.failure? = failure

/-- What leaves a stage was there before, and all else is kept. On a lane (`own`) listeners of the pool
are told of a failure just if one is seen. -/
structure Advances (own : Prop) (items : Multiset Item) (r : Reaction) : Prop where
  moves : ∃ kept, items = kept + r.leaves ∧ r.system.items = kept + r.enters
  reports : own → r.signal.failure?.toList = r.failures.map Prod.snd

theorem flatMap_still {f : Note → List Item} (quiet : ∀ note ∈ notes, note.ofRun = false)
    (each : ∀ note : Note, note.ofRun = false → f note = []) : notes.flatMap f = [] :=
  List.flatMap_eq_nil_iff.2 fun note mem => each note (quiet note mem)

theorem still (quiet : ∀ note ∈ notes, note.ofRun = false) :
    (r.after notes).enters = r.enters ∧ (r.after notes).leaves = r.leaves ∧
      (r.after notes).failures = r.failures := by
  have enters := flatMap_still quiet fun _ calm => (Note.still calm).1
  have leaves := flatMap_still quiet fun _ calm => (Note.still calm).2.1
  have failures : notes.filterMap Note.failure? = [] :=
    List.filterMap_eq_nil_iff.2 fun note mem => (Note.still (quiet note mem)).2.2
  refine ⟨?_, ?_, ?_⟩
  · rw [Reaction.enters, after, List.flatMap_append, enters]
    rfl
  · rw [Reaction.leaves, after, List.flatMap_append, leaves]
    rfl
  · rw [Reaction.failures, after, List.filterMap_append, failures]
    rfl

namespace Opens

theorem of_items {others : Multiset Item} (h : r.Opens failure others) (same : items = others) :
    r.Opens failure items :=
  same ▸ h

theorem after (h : r.Opens failure items) (quiet : ∀ note ∈ notes, note.ofRun = false) :
    (r.after notes).Opens failure items := by
  obtain ⟨enters, leaves, failures⟩ := still (r := r) quiet
  refine ⟨leaves.trans h.leaves, ?_, failures.trans h.failures, h.signal⟩
  rw [enters]
  exact h.items

theorem afterRecords {records : List Logging.Record} (h : r.Opens failure items) :
    (r.afterRecords records).Opens failure items :=
  h.after (by simp [Note.ofRun])

theorem advances (h : r.Opens none items) : r.Advances own items where
  moves := ⟨items, by rw [h.leaves]; exact (add_zero items).symm, h.items⟩
  reports _ := by rw [h.signal, h.failures]; rfl

/-- One run passes to its next stage before new ones begin. -/
theorem advance (note : Note) (h : r.Opens failure (items + note.enters))
    (told : own → failure = note.failure?.map Prod.snd) :
    (r.after [note]).Advances own (items + note.leaves) where
  moves := by
    have leaves : (r.after [note]).leaves = note.leaves ++ r.leaves := by
      simp [Reaction.leaves, Reaction.after]
    have enters : (r.after [note]).enters = note.enters ++ r.enters := by
      simp [Reaction.enters, Reaction.after]
    refine ⟨items, ?_, ?_⟩
    · rw [leaves, h.leaves, List.append_nil]
    · rw [enters, ← Multiset.coe_add, ← add_assoc]
      exact h.items
  reports owned := by
    have failures : (r.after [note]).failures = note.failure?.toList ++ r.failures := by
      cases hf : note.failure? <;> simp [Reaction.failures, Reaction.after, hf]
    have signal : (r.after [note]).signal.failure? = failure := h.signal
    rw [failures, h.failures, signal, told owned, List.append_nil]
    cases note.failure? <;> rfl

end Opens

namespace Advances

theorem of_items {others : Multiset Item} (h : r.Advances own others) (same : items = others) :
    r.Advances own items :=
  same ▸ h

theorem after (h : r.Advances own items) (quiet : ∀ note ∈ notes, note.ofRun = false) :
    (r.after notes).Advances own items := by
  obtain ⟨enters, leaves, failures⟩ := still (r := r) quiet
  refine ⟨?_, fun owned => ?_⟩
  · rw [enters, leaves]
    exact h.moves
  · rw [failures]
    exact h.reports owned

theorem afterRecords {records : List Logging.Record} (h : r.Advances own items) :
    (r.afterRecords records).Advances own items :=
  h.after (by simp [Note.ofRun])

end Advances
end Reaction

namespace System
variable (s : System) (tag : Tag) (ticket : Ticket) (purpose : Purpose) {own : Prop}

/-- The stages depend on these parts of a system only. -/
theorem items_congr {s t : System} (stack : s.stack = t.stack) (awaiting : s.awaiting = t.awaiting)
    (jobs : s.loop.jobs = t.loop.jobs) : s.items = t.items := by
  simp only [items, stack, awaiting, jobs]

theorem returned_opens : s.returned.Opens none s.items :=
  ⟨rfl, (add_zero _).symm, rfl, rfl⟩

theorem ignored_opens : s.ignored.Opens none s.items :=
  ⟨rfl, (add_zero _).symm, rfl, rfl⟩

theorem items_push (frame : Frame) :
    ({ s with stack := frame :: s.stack } : System).items = s.items + frame.items := by
  simp only [items, List.flatMap_cons, ← Multiset.coe_add]
  abel

theorem callOut_opens (frame : Frame) {call : Call} {failure : Option Thrown}
    (told : (Signal.call call).failure? = failure) :
    (s.callOut frame call).Opens failure (s.items + frame.items) :=
  ⟨rfl, (s.items_push frame).trans (add_zero _).symm, rfl, told⟩

theorem items_pushJob (job : Job) : (s.pushJob job).items = s.items + job.items := by
  simp only [items, pushJob, EventLoop.pushJob, List.flatMap_append, ← Multiset.coe_add,
    List.flatMap_singleton]
  abel

theorem items_schedulePump (pool : Pool) : (s.schedulePump pool).items = s.items := by
  rw [schedulePump]
  split <;> rfl

/-- A run begins with the call of its task. -/
theorem called_opens (run : Run) :
    ((s.callOut (.task run) (.task run.work)).after [.started run]).Opens none s.items where
  leaves := rfl
  items := by
    have entered : ((s.callOut (.task run) (.task run.work)).after [.started run]).enters =
        (Frame.task run).items := List.append_nil _
    rw [entered]
    exact s.items_push (.task run)
  failures := rfl
  signal := rfl

theorem pump_opens : s.pump.Opens none s.items := by
  rw [pump]
  split
  · rename_i work pool _
    exact called_opens (s.setPool pool) ⟨work, .lane⟩
  · exact s.returned_opens

theorem leave_opens (inPump : Bool) : (s.leave inPump).Opens none s.items := by
  cases inPump with
  | true => exact s.pump_opens
  | false => exact s.returned_opens

theorem becomeIdle_opens (pool : Pool) (inPump : Bool) :
    (s.becomeIdle pool inPump).Opens none s.items := by
  refine .after ?_ (by simp [Note.ofRun])
  exact (add_zero s.items).symm ▸ callOut_opens
    { s with pool := some { pool with waiters := [] }, loop := s.loop.clear pool.waiters }
    (.idle inPump) rfl

theorem freeLane_opens (pool : Pool) (inPump : Bool) :
    (s.freeLane pool inPump).Opens none s.items := by
  simp only [freeLane]
  refine .afterRecords ?_
  split
  · exact s.items_schedulePump _ ▸ leave_opens _ inPump
  · split
    · exact leave_opens (s.setPool _) inPump
    · exact s.becomeIdle_opens _ inPump

/-- Listeners hear of a failed work in the step that ends it. -/
theorem endLane_opens (pool : Pool) (outcome : Outcome) (inPump : Bool) :
    (s.endLane pool outcome inPump).Opens outcome.error? s.items := by
  cases outcome with
  | fulfilled => exact s.freeLane_opens pool inPump
  | rejected e =>
      refine .afterRecords ?_
      exact (add_zero s.items).symm ▸
        callOut_opens (s.setPool (pool.fail e).1) (.taskError inPump) rfl

theorem goOn_advances (run : Run) (outcome : Outcome) (inPump : Bool)
    (lane : own → run.starter = .lane ∧ s.pool.isSome = true) :
    (s.goOn run outcome inPump).Advances own (s.items + run.stands (.settled outcome)) := by
  have error : (Note.seen run outcome).failure?.map Prod.snd = outcome.error? := by
    cases outcome <;> rfl
  rw [goOn]
  split
  · rename_i pool _ _
    have ended := s.endLane_opens pool outcome inPump
    exact (ended.of_items (add_zero s.items)).advance (.seen run outcome) fun _ => error.symm
  · rename_i elsewhere
    refine (s.returned_opens.of_items (add_zero s.items)).advance (.seen run outcome) fun owned => ?_
    obtain ⟨starter, some⟩ := lane owned
    obtain ⟨pool, hp⟩ := Option.isSome_iff_exists.1 some
    exact (elsewhere pool starter hp).elim

theorem announce_opens (report : Slot.Report) :
    (s.announce tag purpose report).Opens none (s.items + purpose.items) := by
  refine .afterRecords (.after ?_ (by simp [Note.ofRun]))
  exact .of_items (callOut_opens _ (.message tag _ _ report.resume purpose) rfl) rfl

theorem finishStep_advances (queued : Bool) :
    (s.finishStep tag purpose queued).Advances own (s.items + purpose.items) := by
  cases purpose with
  | submit ticket =>
      have answered : ({ system := s, signal := .answer queued } : Reaction).Opens none s.items :=
        ⟨rfl, (add_zero _).symm, rfl, rfl⟩
      have noted : (Reaction.after [.answered tag ticket queued] _).Opens none s.items :=
        answered.after (by simp [Note.ofRun])
      exact (add_zero s.items).symm ▸ noted.advances
  | complete => exact (add_zero s.items).symm ▸ s.returned_opens.advances
  | conclude run outcome inCall =>
      have left := leave_opens (s.pushJob (.goOn run outcome)) (inCall && run.starter == .lane)
      rw [items_pushJob] at left
      exact left.advance (.settled run outcome) fun _ => rfl

theorem accepted_opens :
    (s.accepted tag ticket purpose).Opens none (s.items + purpose.items) :=
  .after (s.announce_opens tag purpose _) (by simp [Note.ofRun])

/-- A refusal is announced like anything else. -/
theorem offer_opens : (s.offer tag ticket purpose).Opens none (s.items + purpose.items) := by
  refine .after ?_ (by simp [Note.ofRun])
  split
  · exact s.callOut_opens (.offer tag ticket purpose) rfl
  · split
    · rename_i later _
      exact s.items_schedulePump later ▸ accepted_opens _ tag ticket purpose
    · exact s.announce_opens tag purpose _

theorem follow_advances (p : Slot.Progress) :
    (s.follow tag purpose p).Advances own (s.items + purpose.items) := by
  cases p with
  | report report => exact (s.announce_opens tag purpose report).advances
  | offer slot records ticket =>
      exact .afterRecords (offer_opens (s.setSlot tag slot) tag ticket purpose).advances
  | done slot records queued =>
      exact .afterRecords (finishStep_advances (s.setSlot tag slot) tag purpose queued)

theorem conclude_advances (starter : Starter) (outcome : Outcome) (inCall : Bool) :
    (s.conclude tag ticket starter outcome inCall).Advances own
      (s.items + Run.stands ⟨.limited tag ticket, starter⟩ (.ended outcome)) :=
  (s.announce_opens tag (.conclude ⟨.limited tag ticket, starter⟩ outcome inCall) _).advance
    (.concluding ⟨.limited tag ticket, starter⟩ outcome) fun _ => rfl

theorem items_ofRun (run : Run) (outcome : Outcome) :
    (Job.ofRun run outcome).items = run.stands (.ended outcome) := by
  obtain ⟨work, starter⟩ := run
  cases work <;> rfl

/-- The outcome of a task that has ended by the time that it comes back. -/
def outcome? (s : System) : TaskReturn → Option Outcome
  | .settled outcome => some outcome
  | .later promise => s.settled.lookup promise
  | .threw e => some (.rejected e)

/-- The tasks that end with a promise that is settled now. -/
def endingsBy (s : System) (promise : Promise) (outcome : Outcome) : List Ending :=
  if (s.settled.lookup promise).isSome then []
  else (s.awaiting.filter (·.1 == promise)).flatMap fun entry => entry.2.ended outcome

/-- The task that ends with a reply to the call that left `frame`. -/
def endingsOf (s : System) : Frame → Reply → List Ending
  | .task run, .task result => (s.outcome? result).toList.flatMap run.ended
  | _, _ => []

/-- The tasks that end with a move. -/
def endings (s : System) : Move → List Ending
  | .reply reply =>
    match s.stack with
    | frame :: _ => s.endingsOf frame reply
    | [] => []
  | .settle promise outcome => s.endingsBy promise outcome
  | .immediate =>
    match s.quiet, s.loop.immediates with
    | true, .countdown promise 0 :: _ => s.endingsBy promise .fulfilled
    | _, _ => []
  | .timer =>
    match s.quiet, s.loop.fire? with
    | true, some (.settle promise, _) => s.endingsBy promise .fulfilled
    | _, _ => []
  | _ => []

end System

theorem Run.ended_before (run : Run) (outcome : Outcome) :
    (run.ended outcome).map Ending.before = run.stands .running := by
  simp [ended, stands, Ending.before, Function.comp_def]

theorem Run.ended_after (run : Run) (outcome : Outcome) :
    (run.ended outcome).map Ending.after = run.stands (.ended outcome) := by
  simp [ended, stands, Ending.after, Function.comp_def]

/-- The reaction to a move with which these tasks have ended. -/
def Reaction.Ends (own : Prop) (items : Multiset Item) (ended : List Ending) (r : Reaction) : Prop :=
  ∃ later, items + ended.map Ending.after = later + ended.map Ending.before ∧ r.Advances own later

theorem Reaction.Advances.ends {own : Prop} {items : Multiset Item} {r : Reaction}
    (h : r.Advances own items) : r.Ends own items [] :=
  ⟨items, rfl, h⟩

namespace System
variable (s : System) (tag : Tag) (ticket : Ticket) (purpose : Purpose) {own : Prop}

/-- Waking the runs that waited for a promise moves their tasks on to the jobs. -/
theorem items_settle (promise : Promise) (outcome : Outcome) :
    s.items + (s.endingsBy promise outcome).map Ending.after =
      (s.settle promise outcome).items + (s.endingsBy promise outcome).map Ending.before := by
  let waits (entry : Promise × Run) : Bool := entry.1 == promise
  let begun (entry : Promise × Run) : List Item := entry.2.stands .running
  have before : ((s.awaiting.filter waits).flatMap fun entry => entry.2.ended outcome).map
      Ending.before = (s.awaiting.filter waits).flatMap begun := by
    simp only [List.map_flatMap, Run.ended_before, begun]
  have woken : ((s.awaiting.filter waits).map fun entry => Job.ofRun entry.2 outcome).flatMap
      Job.items = ((s.awaiting.filter waits).flatMap fun entry => entry.2.ended outcome).map
        Ending.after := by
    simp only [List.flatMap_map, List.map_flatMap, items_ofRun, Run.ended_after]
  have both : (s.awaiting.flatMap begun : Multiset Item) =
      (s.awaiting.filter waits).flatMap begun +
        (s.awaiting.filter fun entry => !waits entry).flatMap begun := by
    rw [Multiset.coe_add, ← List.flatMap_append]
    exact Multiset.coe_eq_coe.2 ((List.filter_append_perm waits _).flatMap_right _).symm
  rw [settle, endingsBy]
  split
  · rfl
  · simp only [items, List.partition_eq_filter_filter, EventLoop.pushJobs, List.flatMap_append,
      ← Multiset.coe_add]
    rw [before, woken, both]
    simp only [waits, Function.comp_def]
    abel

theorem items_await (promise : Promise) (run : Run) :
    (s.await promise run).items = s.items +
      run.stands (((s.settled.lookup promise).map Stage.ended).getD .running) := by
  rw [await]
  split
  · rename_i outcome found
    rw [items_pushJob, items_ofRun, found]
    rfl
  · rename_i none
    rw [none]
    simp only [items, List.flatMap_append, ← Multiset.coe_add, List.flatMap_singleton,
      Option.map_none, Option.getD_none]
    abel

/-- A task that was called ends as soon as it comes back, or waits for its promise. -/
theorem taskReturned_advances (run : Run) (result : TaskReturn)
    (lane : own → run.starter = .lane ∧ s.pool.isSome = true) :
    (s.taskReturned run result).Advances own
      (s.items + run.stands (((s.outcome? result).map Stage.ended).getD .running)) := by
  cases result with
  | settled outcome =>
      have left := leave_opens (s.pushJob (.ofRun run outcome)) (run.starter == .lane)
      rw [items_pushJob, items_ofRun] at left
      exact left.advances
  | later promise =>
      have left := leave_opens (s.await promise run) (run.starter == .lane)
      rw [items_await] at left
      exact left.advances
  | threw e =>
      obtain ⟨work, starter⟩ := run
      cases work with
      | limited tag ticket => exact s.conclude_advances tag ticket starter (.rejected e) true
      | plain ticket =>
          cases starter with
          | lane => exact s.goOn_advances ⟨.plain ticket, .lane⟩ (.rejected e) true lane
          | caller =>
              have left := returned_opens (s.pushJob (.goOn ⟨.plain ticket, .caller⟩ (.rejected e)))
              rw [items_pushJob] at left
              exact left.advances

/-- The last call has returned; if it was one of a task, the task may have ended. -/
theorem goOnFrom_ends {frame : Frame} {reply : Reply} {r : Reaction}
    (lane : own → (∀ run, frame = .task run → run.starter = .lane) ∧ s.pool.isSome = true)
    (h : s.goOnFrom frame reply = some r) :
    r.Ends own (s.items + frame.items) (s.endingsOf frame reply) := by
  have bare : s.items + ([] : List Item) = s.items := add_zero _
  unfold goOnFrom at h
  split at h <;> cases h
  · rename_i tag current next rest resume purpose thrown
    have opened : (s.callOut (.message tag next rest resume purpose) (.message next)).Opens none
        (s.items + purpose.items) := s.callOut_opens (.message tag next rest resume purpose) rfl
    exact opened.afterRecords.advances.ends
  · exact (s.follow_advances _ _ _).afterRecords.ends
  · exact (s.accepted_opens _ _ _).advances.ends
  · exact (s.announce_opens _ _ _).advances.ends
  · exact ((s.returned_opens.after (by simp [Note.ofRun])).advances.of_items bare).ends
  · rename_i e
    have refused : ({ system := s, signal := .refused e } : Reaction).Opens none s.items :=
      ⟨rfl, (add_zero _).symm, rfl, rfl⟩
    exact (refused.advances.of_items bare).ends
  · rename_i run result
    have back := s.taskReturned_advances run result fun owned =>
      ⟨(lane owned).1 run rfl, (lane owned).2⟩
    refine ⟨_, ?_, back⟩
    rw [endingsOf, Frame.items]
    cases s.outcome? result with
    | none => rfl
    | some outcome =>
        simp only [Option.toList_some, List.flatMap_singleton, Run.ended_after, Run.ended_before,
          Option.map_some, Option.getD_some]
        abel
  · rename_i inPump thrown
    refine ((Reaction.Advances.afterRecords ?_).of_items bare).ends
    split
    · exact (s.freeLane_opens _ inPump).advances
    · exact s.returned_opens.advances
  · exact ((s.leave_opens _).afterRecords.advances.of_items bare).ends

theorem reply_ends (lane : own → (∀ run ∈ s.runs, run.starter = .lane) ∧ s.pool.isSome = true)
    (reply : Reply) : (s.reply reply).Ends own s.items (s.endings (.reply reply)) := by
  rw [System.reply, endings]
  cases hs : s.stack with
  | nil => exact s.ignored_opens.advances.ends
  | cons frame rest =>
      let inner : System := { s with stack := rest }
      have opened : s.items = inner.items + frame.items := by
        rw [← items_push, ← hs]
      have mine (owned : own) :
          (∀ run, frame = .task run → run.starter = .lane) ∧ inner.pool.isSome = true := by
        refine ⟨?_, (lane owned).2⟩
        rintro run rfl
        exact (lane owned).1 run (by simp [runs, hs, Frame.run?])
      have same : s.endingsOf frame reply = inner.endingsOf frame reply := rfl
      dsimp only
      cases hr : inner.goOnFrom frame reply with
      | some r => exact opened ▸ inner.goOnFrom_ends mine hr
      | none =>
          have unanswered : inner.endingsOf frame reply = [] := by
            unfold endingsOf
            split
            · simp [goOnFrom] at hr
            · rfl
          rw [same, unanswered]
          exact s.ignored_opens.advances.ends

theorem runJob_advances
    (lane : own → (∀ run ∈ s.runs, run.starter = .lane) ∧ s.pool.isSome = true) :
    s.runJob.Advances own s.items := by
  rw [runJob]
  split
  · rename_i job rest hs hj
    let taken : System := { s with loop := { s.loop with jobs := rest } }
    have opened : s.items = taken.items + job.items := by
      simp only [items, taken, hj, List.flatMap_cons, ← Multiset.coe_add]
      abel
    rw [opened]
    cases job with
    | conclude tag ticket starter outcome =>
        exact taken.conclude_advances tag ticket starter outcome false
    | goOn run outcome =>
        refine taken.goOn_advances run outcome false fun owned => ⟨?_, (lane owned).2⟩
        exact (lane owned).1 run (by simp [runs, hj, Job.run])
  · exact s.ignored_opens.advances

theorem settled_ends (promise : Promise) (outcome : Outcome) :
    (s.settle promise outcome).returned.Ends own s.items (s.endingsBy promise outcome) :=
  ⟨_, s.items_settle promise outcome, (returned_opens _).advances⟩

theorem runImmediate_ends : s.runImmediate.Ends own s.items (s.endings .immediate) := by
  rw [runImmediate, endings]
  cases hq : s.quiet with
  | false => exact s.ignored_opens.advances.ends
  | true =>
      cases hi : s.loop.immediates with
      | nil => exact s.ignored_opens.advances.ends
      | cons immediate rest =>
          let taken : System := { s with loop := { s.loop with immediates := rest } }
          cases immediate with
          | pump =>
              exact (pump_opens { taken with pool := s.pool.map Pool.pumpBegun }).advances.ends
          | countdown promise more =>
              cases more with
              | zero => exact taken.settled_ends promise .fulfilled
              | succ more =>
                  exact (returned_opens { taken with
                    loop := taken.loop.pushImmediate (.countdown promise more) }).advances.ends

theorem runTimer_ends : s.runTimer.Ends own s.items (s.endings .timer) := by
  rw [runTimer, endings]
  cases hq : s.quiet with
  | false => exact s.ignored_opens.advances.ends
  | true =>
      cases hl : s.loop.fire? with
      | none => exact s.ignored_opens.advances.ends
      | some fired =>
          obtain ⟨alarm, loop⟩ := fired
          have same : s.items = ({ s with loop } : System).items :=
            items_congr rfl rfl (jobs_of_fire? hl).symm
          rw [same]
          cases alarm with
          | settle promise => exact settled_ends { s with loop } promise .fulfilled
          | giveUp waiter =>
              have back := returned_opens { s with loop, pool := s.pool.map (Pool.giveUp · waiter) }
              exact (back.after (by simp [Note.ofRun])).advances.ends

theorem elapse_opens (ms : Nat) : (s.elapse ms).Opens none s.items := by
  rw [elapse]
  split
  · rename_i loop _ hl
    exact (returned_opens { s with loop }).of_items (items_congr rfl rfl (jobs_of_elapse? hl).symm)
  · exact s.ignored_opens

theorem submit_advances : (s.submit tag).Advances own s.items :=
  .after (.of_items (follow_advances { s with tickets := s.tickets + 1 } tag (.submit s.tickets) _)
    (add_zero _).symm) (by simp [Note.ofRun])

theorem execute_opens : s.execute.Opens none s.items := by
  let taken : System := { s with tickets := s.tickets + 1 }
  refine .after ?_ (by simp [Note.ofRun])
  split
  · exact .of_items (taken.callOut_opens (.hand s.tickets) rfl) (add_zero _).symm
  · split
    · rename_i later _
      have back := returned_opens (taken.schedulePump later)
      rw [items_schedulePump] at back
      exact back.after (by simp [Note.ofRun])
    · exact ⟨rfl, (add_zero _).symm, rfl, rfl⟩

theorem start_opens (work : Work) : (s.start work).Opens none s.items := by
  rw [start]
  split
  · exact s.ignored_opens
  · exact s.called_opens ⟨work, .caller⟩

theorem awaitTermination_opens (ms : Number) : (s.awaitTermination ms).Opens none s.items := by
  rw [awaitTermination]
  split
  · exact s.ignored_opens
  · dsimp only
    split
    · exact .after (returned_opens { s with waits := s.waits + 1 }) (by simp [Note.ofRun])
    · exact .of_items (returned_opens _) (items_congr rfl rfl rfl)

theorem react_ends (lane : own → (∀ run ∈ s.runs, run.starter = .lane) ∧ s.pool.isSome = true)
    (m : Move) : (s.react m).Ends own s.items (s.endings m) := by
  cases m with
  | submit tag => exact (s.submit_advances tag).ends
  | complete tag =>
      refine Reaction.Opens.advances ?_ |>.ends
      rw [react]
      split
      · exact (s.announce_opens tag .complete _).of_items (add_zero _).symm
      · exact s.ignored_opens
  | overwrite tag running =>
      refine Reaction.Opens.advances ?_ |>.ends
      rw [react, overwrite]
      split
      · exact returned_opens (s.setSlot tag _)
      · exact s.ignored_opens
  | execute => exact s.execute_opens.advances.ends
  | start work => exact (s.start_opens work).advances.ends
  | shutdown =>
      refine Reaction.Opens.advances ?_ |>.ends
      rw [react, shutdown]
      split
      · rename_i pool _
        exact .afterRecords (returned_opens (s.setPool pool.shutdown.1))
      · exact s.ignored_opens
  | awaitTermination ms => exact (s.awaitTermination_opens ms).advances.ends
  | reply reply => exact s.reply_ends lane reply
  | settle promise outcome => exact s.settled_ends promise outcome
  | delay promise ms =>
      exact (returned_opens { s with loop := s.loop.arm ms (.settle promise) }).advances.ends
  | countdown promise immediates =>
      exact (returned_opens { s with
        loop := s.loop.pushImmediate (.countdown promise (immediates - 1)) }).advances.ends
  | job => exact (s.runJob_advances lane).ends
  | immediate => exact s.runImmediate_ends
  | timer => exact s.runTimer_ends
  | elapse ms => exact (s.elapse_opens ms).advances.ends

end System

namespace Item

def running? : Item → Option Submission
  | (task, .running) => some task
  | _ => none

def ended? : Item → Option Ending
  | (task, .ended outcome) => some (task, outcome)
  | _ => none

def concluding? : Item → Option Ending
  | (task, .concluding outcome) => some (task, outcome)
  | _ => none

def settled? : Item → Option Ending
  | (task, .settled outcome) => some (task, outcome)
  | _ => none

end Item

/-- What a note says of each stage: who leaves it enters the next one. -/
structure Note.Passes (note : Note) : Prop where
  begins : note.enters.filterMap Item.running? =
    (note.stamps.filterMap Stamp.started?).filterMap Work.submission?
  runs : note.leaves.filterMap Item.running? = []
  ends : note.enters.filterMap Item.ended? = []
  tells : note.leaves.filterMap Item.ended? = note.concluded
  concludes : note.enters.filterMap Item.concluding? = note.concluded
  settles : note.leaves.filterMap Item.concluding? = note.settlements
  settled : note.enters.filterMap Item.settled? = note.settlements
  sees : note.leaves.filterMap Item.settled? = note.sightings

theorem Note.passes (note : Note) : note.Passes := by
  cases note with
  | started run | concluding run | settled run | seen run =>
      obtain ⟨work, starter⟩ := run
      cases work <;> exact ⟨rfl, rfl, rfl, rfl, rfl, rfl, rfl, rfl⟩
  | record | submitted | noticed | answered | offered | accepted | terminated =>
      exact ⟨rfl, rfl, rfl, rfl, rfl, rfl, rfl, rfl⟩

namespace History
variable {s : System} {h : History} {ended : List Ending} {ms : List Move}

/-- The tasks that end along a run. -/
def endings : History → List Move → List Ending
  | _, [] => []
  | h, m :: ms => h.system.endings m ++ endings (h.play m) ms

/-- The errors of failed works that listeners of the pool are told of along a run. -/
def reported : History → List Move → List Thrown
  | _, [] => []
  | h, m :: ms => (h.system.react m).signal.failure?.toList ++ reported (h.play m) ms

theorem endings_append (h : History) (first second : List Move) :
    h.endings (first ++ second) = h.endings first ++ (h.plays first).endings second := by
  induction first generalizing h with
  | nil => rfl
  | cons m first ih => rw [List.cons_append, endings, endings, ih, List.append_assoc, plays_cons]

theorem reported_append (h : History) (first second : List Move) :
    h.reported (first ++ second) = h.reported first ++ (h.plays first).reported second := by
  induction first generalizing h with
  | nil => rfl
  | cons m first ih => rw [List.cons_append, reported, reported, ih, List.append_assoc, plays_cons]

/-- Submissions whose task was called. -/
def begun (h : History) : List Submission := h.started.filterMap Work.submission?

def concluded (h : History) : List Ending := h.notes.flatMap Note.concluded

def settlements (h : History) : List Ending := h.notes.flatMap Note.settlements

def sightings (h : History) : List Ending := h.notes.flatMap Note.sightings

def failures (h : History) : List (Work × Thrown) := h.notes.filterMap Note.failure?

/-- All tasks are in the stages that they have entered and not left. -/
def Accounts (ended : List Ending) (h : History) : Prop :=
  (h.notes.flatMap Note.enters : Multiset Item) + ended.map Ending.after =
    h.system.items + ended.map Ending.before + h.notes.flatMap Note.leaves

theorem Accounts.play (accounts : h.Accounts ended) (m : Move) :
    (h.play m).Accounts (ended ++ h.system.endings m) := by
  have step : (h.system.react m).Ends False h.system.items (h.system.endings m) :=
    h.system.react_ends False.elim m
  obtain ⟨later, ends, advances⟩ := step
  obtain ⟨kept, gone, entered⟩ := advances.moves
  rw [gone] at ends
  have items : (h.play m).system.items = kept + (h.system.react m).notes.flatMap Note.enters :=
    entered
  have both := congrArg₂ (· + ·) accounts ends
  simp only [Accounts, items, Reaction.leaves] at both ⊢
  simp only [History.play, List.flatMap_append, List.map_append, ← Multiset.coe_add]
  refine add_right_cancel (b := h.system.items) ?_
  generalize (List.flatMap Note.enters (h.system.react m).notes : Multiset Item) = new at both ⊢
  calc _ = _ + new := by abel
    _ = _ + new := congrArg (· + new) both
    _ = _ := by abel

theorem accounts (begins : s.Begins) (ms : List Move) :
    ((⟨s, []⟩ : History).plays ms).Accounts ((⟨s, []⟩ : History).endings ms) := by
  induction ms using List.reverseRecOn with
  | nil =>
      rw [begins.rest]
      rfl
  | append_singleton ms m ih =>
      have last : ((⟨s, []⟩ : History).plays ms).endings [m] =
          ((⟨s, []⟩ : History).plays ms).system.endings m := List.append_nil _
      rw [plays_append, endings_append, last]
      exact ih.play m

theorem Accounts.project {α : Type} (accounts : h.Accounts ended) (f : Item → Option α)
    {enters leaves : Note → List α}
    (entering : ∀ note : Note, note.enters.filterMap f = enters note)
    (leaving : ∀ note : Note, note.leaves.filterMap f = leaves note) :
    (h.notes.flatMap enters : Multiset α) + (ended.map Ending.after).filterMap f =
      h.system.items.filterMap f + (ended.map Ending.before).filterMap f +
        h.notes.flatMap leaves := by
  have projected := congrArg (Multiset.filterMap f) accounts
  simpa only [Multiset.filterMap_add, Multiset.filterMap_coe, List.filterMap_flatMap, entering,
    leaving] using projected

theorem running_stands (run : Run) :
    (run.stands .running).filterMap Item.running? = run.work.submission?.toList := by
  obtain ⟨work, starter⟩ := run
  cases work <;> rfl

theorem running_purpose (purpose : Purpose) : purpose.items.filterMap Item.running? = [] := by
  cases purpose with
  | conclude run outcome inCall =>
      obtain ⟨work, starter⟩ := run
      cases work <;> rfl
  | submit | complete => rfl

theorem running_items (s : System) : s.items.filterMap Item.running? = s.running := by
  have frame (frame : Frame) :
      frame.items.filterMap Item.running? = frame.inFlight?.toList := by
    cases frame with
    | task run => exact running_stands run
    | message tag current rest resume purpose => exact running_purpose purpose
    | offer tag ticket purpose => exact running_purpose purpose
    | hand | taskError | idle => rfl
  have job (job : Job) : job.items.filterMap Item.running? = [] := by
    cases job with
    | conclude => rfl
    | goOn run =>
        obtain ⟨work, starter⟩ := run
        cases work <;> rfl
  have frames : (s.stack.flatMap Frame.items).filterMap Item.running? =
      s.stack.filterMap Frame.inFlight? := by
    rw [List.filterMap_flatMap, List.filterMap_eq_flatMap_toList]
    simp only [frame]
  have waiting : (s.awaiting.flatMap fun entry => entry.2.stands .running).filterMap
      Item.running? = s.awaiting.filterMap fun entry => entry.2.work.submission? := by
    rw [List.filterMap_flatMap, List.filterMap_eq_flatMap_toList]
    simp only [running_stands]
  have jobs : (s.loop.jobs.flatMap Job.items).filterMap Item.running? = [] := by
    simp [List.filterMap_flatMap, job]
  rw [System.items, Multiset.filterMap_add, Multiset.filterMap_add, Multiset.filterMap_coe,
    Multiset.filterMap_coe, Multiset.filterMap_coe, frames, waiting, jobs]
  exact add_zero _

/-- Every task that was called is running or has ended. -/
theorem begun_perm (begins : s.Begins) (ms : List Move) :
    let h := (⟨s, []⟩ : History).plays ms
    h.begun.Perm (h.system.running ++ ((⟨s, []⟩ : History).endings ms).map Prod.fst) := by
  intro h
  have projected := (accounts begins ms).project Item.running?
    (fun note => note.passes.begins) fun note => note.passes.runs
  have after :
      (((⟨s, []⟩ : History).endings ms).map Ending.after).filterMap Item.running? = [] := by
    simp [List.filterMap_map, Ending.after, Item.running?]
  have before : (((⟨s, []⟩ : History).endings ms).map Ending.before).filterMap Item.running? =
      ((⟨s, []⟩ : History).endings ms).map Prod.fst := by
    simp [List.filterMap_map, Ending.before, Item.running?, Function.comp_def]
  have begun : h.begun = h.notes.flatMap fun note =>
      (note.stamps.filterMap Stamp.started?).filterMap Work.submission? := by
    simp only [History.begun, started, stamps, List.filterMap_flatMap]
  have none : (h.notes.flatMap fun _ => ([] : List Submission)) = [] := by simp
  rw [after, before, running_items, ← begun, none, Multiset.coe_nil, add_zero, add_zero,
    Multiset.coe_add] at projected
  exact Multiset.coe_eq_coe.1 projected

/-- From the end of a task on all is told in turn. -/
theorem told_in_turn (accounts : h.Accounts ended) :
    (ended : Multiset Ending) = h.system.items.filterMap Item.ended? + h.concluded ∧
    (h.concluded : Multiset Ending) =
      h.system.items.filterMap Item.concluding? + h.settlements ∧
    (h.settlements : Multiset Ending) = h.system.items.filterMap Item.settled? + h.sightings := by
  have toTell := accounts.project Item.ended?
    (fun note => note.passes.ends) fun note => note.passes.tells
  have telling := accounts.project Item.concluding?
    (fun note => note.passes.concludes) fun note => note.passes.settles
  have toSee := accounts.project Item.settled?
    (fun note => note.passes.settled) fun note => note.passes.sees
  have none : (h.notes.flatMap fun _ => ([] : List Ending)) = [] := by simp
  refine ⟨?_, ?_, ?_⟩
  · simpa [none, concluded, List.filterMap_map, Ending.after, Ending.before, Item.ended?,
      Function.comp_def] using toTell
  · simpa [concluded, settlements, sightings, List.filterMap_map, Ending.after, Ending.before,
      Item.concluding?, Function.comp_def] using telling
  · simpa [concluded, settlements, sightings, List.filterMap_map, Ending.after, Ending.before,
      Item.settled?, Function.comp_def] using toSee

/-- Where no call is open and no job is left, every task that was called is running or through. -/
theorem items_of_rest {s : System} (closed : s.stack = []) (done : s.loop.jobs = []) :
    s.items.filterMap Item.ended? = 0 ∧ s.items.filterMap Item.concluding? = 0 ∧
      s.items.filterMap Item.settled? = 0 := by
  have running {f : Item → Option Ending} (none : ∀ task, f (task, .running) = none) :
      s.items.filterMap f = 0 := by
    simp [System.items, closed, done, List.filterMap_flatMap, Run.stands,
      List.filterMap_map, none]
  exact ⟨running fun _ => rfl, running fun _ => rfl, running fun _ => rfl⟩

/-- Whatever was said by `later` at any time had been said by `earlier`. -/
def Foretold (earlier later : Note → List Ending) (notes : List Note) : Prop :=
  ∀ early, early <+: notes → early.flatMap later ⊆ early.flatMap earlier

theorem Foretold.append {earlier later : Note → List Ending} {notes more : List Note}
    (foretold : Foretold earlier later notes)
    (new : more.flatMap later ⊆ notes.flatMap earlier) : Foretold earlier later (notes ++ more) := by
  intro early before
  rcases List.prefix_or_prefix_of_prefix before (List.prefix_append notes more) with
    old | ⟨most, rfl⟩
  · exact foretold early old
  · have sub : most.flatMap later ⊆ more.flatMap later := by
      obtain ⟨rest, split⟩ := (List.prefix_append_right_inj notes).1 before
      rw [← split, List.flatMap_append]
      exact List.subset_append_left _ _
    rw [List.flatMap_append, List.flatMap_append]
    refine List.append_subset.2 ⟨?_, ?_⟩
    · exact List.subset_append_of_subset_left _ (foretold notes List.prefix_rfl)
    · exact List.subset_append_of_subset_left _ (List.Subset.trans sub new)

/-- What leaves a later stage in a reaction had come there before it. -/
theorem left_before {f : Item → Option Ending} {leaves : Note → List Ending}
    (leaving : ∀ note : Note, note.leaves.filterMap f = leaves note)
    (later : ∀ ending : Ending, f ending.after = none) (m : Move) {ending : Ending}
    (mem : ending ∈ (h.system.react m).notes.flatMap leaves) :
    ending ∈ h.system.items.filterMap f := by
  have step : (h.system.react m).Ends False h.system.items (h.system.endings m) :=
    h.system.react_ends False.elim m
  obtain ⟨mid, ends, advances⟩ := step
  obtain ⟨kept, gone, -⟩ := advances.moves
  have left : ending ∈ (h.system.react m).leaves.filterMap f := by
    simpa only [Reaction.leaves, List.filterMap_flatMap, leaving] using mem
  obtain ⟨item, inside, same⟩ := List.mem_filterMap.1 left
  have all : item ∈ h.system.items + (h.system.endings m).map Ending.after := by
    rw [ends, gone]
    simp [inside]
  rcases Multiset.mem_add.1 all with here | new
  · exact (Multiset.mem_filterMap f _).2 ⟨item, here, same⟩
  · obtain ⟨other, -, rfl⟩ := List.mem_map.1 (Multiset.mem_coe.1 new)
    rw [later] at same
    cases same

theorem foretold (begins : s.Begins) (ms : List Move) :
    let h := (⟨s, []⟩ : History).plays ms
    Foretold Note.concluded Note.settlements h.notes ∧
      Foretold Note.settlements Note.sightings h.notes := by
  induction ms using List.reverseRecOn with
  | nil =>
      have none {earlier later : Note → List Ending} : Foretold earlier later [] := by
        intro early before
        rw [List.prefix_nil.1 before]
        exact List.Subset.refl _
      exact ⟨none, none⟩
  | append_singleton ms m ih =>
      obtain ⟨-, telling, toSee⟩ := told_in_turn (accounts begins ms)
      rw [plays_append]
      refine ⟨ih.1.append fun ending mem => ?_, ih.2.append fun ending mem => ?_⟩
      · have here := left_before (fun note => note.passes.settles) (fun _ => rfl) m mem
        exact Multiset.mem_coe.1 (telling ▸ Multiset.mem_add.2 (.inl here))
      · have here := left_before (fun note => note.passes.sees) (fun _ => rfl) m mem
        exact Multiset.mem_coe.1 (toSee ▸ Multiset.mem_add.2 (.inl here))

theorem failures_map_fst (h : History) : h.failures.map Prod.fst = h.failed := by
  have note (note : Note) :
      (note.failure?.map Prod.fst).toList = note.stamps.filterMap Stamp.failed? := by
    cases note with
    | seen run outcome => cases outcome <;> rfl
    | record | submitted | noticed | answered | offered | accepted | started | concluding | settled
      | terminated => rfl
  rw [failures, failed, stamps, List.map_filterMap, List.filterMap_flatMap,
    List.filterMap_eq_flatMap_toList]
  simp only [note]

/-- Failures of limited works are those that the starters saw. -/
theorem failures_of_tasks (h : History) :
    h.failures.filterMap (fun failure => failure.1.submission?.map (·, failure.2)) =
      h.sightings.filterMap Ending.failure? := by
  have note (note : Note) : (note.failure?.bind fun failure =>
      failure.1.submission?.map (·, failure.2)).toList =
        note.sightings.filterMap Ending.failure? := by
    cases note with
    | seen run outcome =>
        obtain ⟨work, starter⟩ := run
        cases work <;> cases outcome <;> rfl
    | record | submitted | noticed | answered | offered | accepted | started | concluding | settled
      | terminated => rfl
  rw [failures, sightings, List.filterMap_filterMap, List.filterMap_flatMap,
    List.filterMap_eq_flatMap_toList]
  simp only [note]

theorem reported_eq (begins : s.Begins) {p : Pool} (own : s.pool = some p) (ms : List Move) :
    (⟨s, []⟩ : History).reported ms = ((⟨s, []⟩ : History).plays ms).failures.map Prod.snd := by
  induction ms using List.reverseRecOn with
  | nil => rfl
  | append_singleton ms m ih =>
      let h := (⟨s, []⟩ : History).plays ms
      obtain ⟨pool, hp, lawful, -⟩ := lanes begins own ms
      have step : (h.system.react m).Ends True h.system.items (h.system.endings m) :=
        h.system.react_ends (fun _ => ⟨lawful.lanes, by rw [hp]; rfl⟩) m
      obtain ⟨_, -, advances⟩ := step
      have last : h.reported [m] = (h.system.react m).failures.map Prod.snd :=
        (List.append_nil _).trans (advances.reports trivial)
      have more : (h.play m).failures = h.failures ++ (h.system.react m).failures :=
        List.filterMap_append
      rw [plays_append, reported_append, ih, last]
      exact ((congrArg (List.map Prod.snd) more).trans List.map_append).symm

/-- Where a runner starts nothing twice, no task is called twice. -/
theorem begun_nodup (begins : s.Begins) (kept : Conduct.once.Keeps ⟨s, []⟩ ms) :
    ((⟨s, []⟩ : History).plays ms).begun.Nodup := by
  obtain ⟨limit, logger, start⟩ := begins.admission
  obtain ⟨shared, -, balanced⟩ := plays_induction
    (P := fun a => a.Shared ∧ a.Ran ∧ a.Balanced [])
    (fun _ _ held step => ⟨step.shared held.1 held.2.1 held.2.2,
      (step.mono fun _ _ => Conduct.once_honest).ran held.2.1 held.2.2, step.balanced held.2.2⟩)
    kept (start ▸ ⟨.at_start limit logger, .at_start limit logger, .at_start limit logger⟩)
  rw [List.nodup_iff_count_le_one]
  rintro ⟨tag, t⟩
  have found (work : Work) : (work.submission? == some (tag, t)) = (work == .limited tag t) := by
    cases work <;> simp [Work.submission?]
  have same : ((⟨s, []⟩ : History).plays ms).begun.count (tag, t) =
      ((⟨s, []⟩ : History).plays ms).started.count (.limited tag t) := by
    rw [begun, List.count_filterMap, List.count]
    exact List.countP_congr fun work _ => by rw [found]
  have share := shared.share tag t
  have once := balanced.offered_le_one tag t
  rw [same, count_started]
  omega

/-- Each task that was called is running or has ended, once, and its slot is told of its end once, before
the work is settled; both have the outcome of the task, and so has what the starter of the work sees
afterwards. Where no call is open and no job is left, all of this has happened for each task that has
ended. A pool counts each failed work once, and its listeners are told once, of that error. -/
theorem task_is_concluded_once_with_its_outcome (begins : s.Begins) (ms : List Move)
    (kept : Conduct.once.Keeps ⟨s, []⟩ ms) :
    let h := (⟨s, []⟩ : History).plays ms
    let ended := (⟨s, []⟩ : History).endings ms
    h.begun.Nodup ∧ h.begun.Perm (h.system.running ++ ended.map Prod.fst) ∧
      h.concluded.Subperm ended ∧ h.settlements.Subperm h.concluded ∧
      h.sightings.Subperm h.settlements ∧
      Foretold Note.concluded Note.settlements h.notes ∧
      Foretold Note.settlements Note.sightings h.notes ∧
      (h.system.stack = [] → h.system.loop.jobs = [] →
        h.concluded.Perm ended ∧ h.settlements.Perm ended ∧ h.sightings.Perm ended) ∧
      ∀ p, s.pool = some p → ∃ pool, h.system.pool = some pool ∧
        pool.failed = h.failures.length ∧
        (⟨s, []⟩ : History).reported ms = h.failures.map Prod.snd ∧
        h.failures.filterMap (fun failure => failure.1.submission?.map (·, failure.2)) =
          h.sightings.filterMap Ending.failure? := by
  intro h ended
  have all := accounts begins ms
  obtain ⟨toTell, telling, toSee⟩ := told_in_turn all
  obtain ⟨settled, seen⟩ := foretold begins ms
  have sub {first second : List Ending} {rest : Multiset Ending}
      (split : (first : Multiset Ending) = rest + second) : second.Subperm first :=
    Multiset.coe_le.1 (split ▸ Multiset.le_add_left _ _)
  refine ⟨begun_nodup begins kept, begun_perm begins ms, sub toTell, sub telling, sub toSee, settled,
    seen, fun closed done => ?_, fun p own => ?_⟩
  · obtain ⟨none, none', none''⟩ := items_of_rest closed done
    rw [none, zero_add] at toTell
    rw [none', zero_add] at telling
    rw [none'', zero_add] at toSee
    have concluded := Multiset.coe_eq_coe.1 toTell
    have settlements := concluded.trans (Multiset.coe_eq_coe.1 telling)
    have sightings := settlements.trans (Multiset.coe_eq_coe.1 toSee)
    exact ⟨concluded.symm, settlements.symm, sightings.symm⟩
  · obtain ⟨pool, hp, -, lanes⟩ := lanes begins own ms
    have failed : pool.failed = h.failed.length := lanes.counted.failed
    refine ⟨pool, hp, ?_, reported_eq begins own ms, h.failures_of_tasks⟩
    rw [failed, ← failures_map_fst, List.length_map]

/-- A task throws `undefined` while another one waits for it; the pool is shut down by then and refuses
the other one, and listeners throw as well. -/
def refusedHandOver : List Move :=
  [.submit "t", .reply (.heard (some (.value .null))), .submit "t", .reply (.heard none), .immediate,
    .shutdown, .reply (.task (.threw (.value .undefined))), .reply (.heard (some (.value .null))),
    .reply (.heard none), .job, .reply (.heard (some (.value .null))), .reply (.heard none)]

theorem thrown_undefined_is_reported_once :
    let h := (⟨oneLane, []⟩ : History).plays refusedHandOver
    h.settlements = [(("t", 0), .rejected (.value .undefined))] ∧
      ∃ pool, h.system.pool = some pool ∧ pool.failed = 1 ∧
        (⟨oneLane, []⟩ : History).reported refusedHandOver = [.value .undefined] := by
  intro h
  obtain ⟨-, -, -, -, -, -, -, rest, failed⟩ := task_is_concluded_once_with_its_outcome
    oneLane_begins refusedHandOver (by decide +kernel)
  obtain ⟨-, settled, -⟩ := rest (by with_unfolding_all rfl) (by with_unfolding_all rfl)
  have ended : (⟨oneLane, []⟩ : History).endings refusedHandOver =
      [(("t", 0), .rejected (.value .undefined))] := by with_unfolding_all rfl
  obtain ⟨pool, hp, counted, reported, -⟩ := failed _ rfl
  have failures : h.failures = [(.limited "t" 0, .value .undefined)] := by with_unfolding_all rfl
  rw [ended] at settled
  exact ⟨List.perm_singleton.1 settled, pool, hp, counted.trans (congrArg List.length failures),
    reported.trans (congrArg (List.map Prod.snd) failures)⟩

end History
end Turnstile
