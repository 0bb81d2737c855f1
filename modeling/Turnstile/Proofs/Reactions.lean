import Turnstile.Proofs.Steps

/-!
Every reaction of a system is a chain of steps of its limiter's side. The theorems follow the
functions that make up a reaction, from the innermost one outwards.
-/
namespace Turnstile
open Admission

namespace Reaction

def marks (r : Reaction) : List Mark := r.notes.flatMap Note.marks

@[simp] theorem marks_after (notes : List Note) (r : Reaction) :
    (r.after notes).marks = notes.flatMap Note.marks ++ r.marks := by
  simp [marks, after]

@[simp] theorem marks_records (records : List Logging.Record) :
    (records.map Note.record).flatMap Note.marks = [] := by
  simp [List.flatMap_map, Note.marks]

@[simp] theorem marks_afterRecords (records : List Logging.Record) (r : Reaction) :
    (r.afterRecords records).marks = r.marks := by
  simp [afterRecords]

@[simp] theorem system_after (notes : List Note) (r : Reaction) :
    (r.after notes).system = r.system := rfl

@[simp] theorem system_afterRecords (records : List Logging.Record) (r : Reaction) :
    (r.afterRecords records).system = r.system := rfl

/-- The limiter's side after a reaction, if these marks were there before it. -/
def admission (r : Reaction) (before : List Mark) : Admission :=
  r.system.admission (before ++ r.marks)

@[simp] theorem admission_after (notes : List Note) (r : Reaction) (before : List Mark) :
    (r.after notes).admission before = r.admission (before ++ notes.flatMap Note.marks) := by
  simp [admission]

@[simp] theorem admission_afterRecords (records : List Logging.Record) (r : Reaction)
    (before : List Mark) : (r.afterRecords records).admission before = r.admission before := by
  simp [admission]

end Reaction

namespace System
variable {c : Conduct} (s : System) (before : List Mark)

@[simp] theorem admission_returned : s.returned.admission before = s.admission before := by
  simp [Reaction.admission, Reaction.marks, returned]

@[simp] theorem admission_ignored : s.ignored.admission before = s.admission before := by
  simp [Reaction.admission, Reaction.marks, ignored]

theorem admission_pushJob (job : Job) :
    (s.pushJob job).admission before =
      { s.admission before with
        inFlight := (s.admission before).inFlight + job.inFlight?.toList } := by
  cases h : job.inFlight? <;>
    simp [admission, pushJob, EventLoop.pushJob, inFlight, backlog, List.filterMap_append, h,
      ← Multiset.coe_add, add_assoc]

/-- What `callOut` adds to the limiter's side is what the frame holds of it. -/
theorem admission_callOut (frame : Frame) (call : Call) :
    (s.callOut frame call).admission before =
      { s.admission before with
        pauses := frame.pause?.toList ++ (s.admission before).pauses
        inFlight := ↑frame.inFlight?.toList + (s.admission before).inFlight } := by
  cases hp : frame.pause? <;> cases hf : frame.inFlight? <;>
    simp [Reaction.admission, Reaction.marks, callOut, admission, inFlight, backlog,
      hp, hf, ← Multiset.cons_coe, ← Multiset.singleton_add, add_assoc]

/-- The limiter's side depends on these parts of a system only. -/
theorem admission_congr {s t : System} (limiter : s.limiter = t.limiter)
    (tickets : s.tickets = t.tickets) (stack : s.stack = t.stack)
    (awaiting : s.awaiting = t.awaiting) (jobs : s.loop.jobs = t.loop.jobs)
    (backlog : s.backlog = t.backlog) : s.admission before = t.admission before := by
  simp only [admission, inFlight, limiter, tickets, stack, awaiting, jobs, backlog]

theorem backlog_map {s : System} {f : Pool → Pool} (h : ∀ pool, (f pool).backlog = pool.backlog) :
    ((s.pool.map f).map Pool.backlog).getD [] = s.backlog := by
  cases hp : s.pool <;> simp [backlog, hp, h]

theorem backlog_of_pool {s : System} {pool : Pool} (h : s.pool = some pool) :
    s.backlog = pool.backlog := by
  simp [backlog, h]

theorem admission_setPool (pool : Pool) :
    (s.setPool pool).admission before =
      { s.admission before with backlog := pool.backlog.filterMap Work.submission? } := by
  simp [admission, setPool, backlog, inFlight]

theorem admission_schedulePump (pool : Pool) :
    (s.schedulePump pool).admission before =
      { s.admission before with backlog := pool.backlog.filterMap Work.submission? } := by
  rw [schedulePump]
  split
  · exact admission_setPool s before pool
  · simp [admission, EventLoop.pushImmediate, backlog, inFlight]

@[simp] theorem schedulePump_limiter (pool : Pool) :
    (s.schedulePump pool).limiter = s.limiter := by
  rw [schedulePump]
  split <;> rfl

/-- A pool whose backlog is the same is no change. -/
theorem admission_of_backlog {pool : Pool} (h : pool.backlog = s.backlog) :
    { s.admission before with backlog := pool.backlog.filterMap Work.submission? } =
      s.admission before := by
  simp [admission, h]

theorem pump_steps : Steps c (s.admission before) (s.pump.admission before) := by
  rw [pump]
  split
  · rename_i work rest hn
    obtain ⟨pool, hp, hn⟩ := Option.bind_eq_some_iff.1 hn
    have queue : s.backlog = work :: rest.backlog := by
      obtain ⟨-, left, order, rfl⟩ := Pool.next?_eq_some hn
      exact (backlog_of_pool hp).trans order
    rw [Reaction.admission_after, admission_callOut, admission_setPool]
    cases work with
    | limited tag ticket =>
        have next : (s.admission before).backlog =
            (tag, ticket) ::ₘ ↑(rest.backlog.filterMap Work.submission?) := by
          simp [admission, queue, Work.submission?]
        apply (Step.pump next).steps
        simp [admission, mark, Note.marks, Frame.pause?, Frame.inFlight?, Work.submission?]
    | plain ticket =>
        apply Steps.of_eq
        simp [admission, queue, Note.marks, Frame.pause?, Frame.inFlight?, Work.submission?,
          List.filterMap_cons]
  · rw [admission_returned]

theorem leave_steps (inPump : Bool) :
    Steps c (s.admission before) ((s.leave inPump).admission before) := by
  rw [leave]
  split
  · exact pump_steps s before
  · rw [admission_returned]

theorem becomeIdle_steps {s : System} {pool : Pool} (inPump : Bool)
    (h : pool.backlog = s.backlog) :
    Steps c (s.admission before) ((s.becomeIdle pool inPump).admission before) := by
  apply Steps.of_eq
  have quiet : (pool.waiters.map fun w => Note.terminated w true).flatMap Note.marks = [] := by
    simp [List.flatMap_map, Note.marks]
  simp only [becomeIdle, Reaction.admission_after, admission_callOut, quiet, List.append_nil]
  simp [admission, backlog, inFlight, EventLoop.clear, Frame.pause?, Frame.inFlight?, h]

theorem freeLane_steps {s : System} {pool : Pool} (inPump : Bool)
    (h : pool.backlog = s.backlog) :
    Steps c (s.admission before) ((s.freeLane pool inPump).admission before) := by
  have hf : pool.free.1.backlog = s.backlog := h
  simp only [freeLane, Reaction.admission_afterRecords]
  split
  · have steps := leave_steps (c := c) (s.schedulePump pool.free.1) before inPump
    rwa [admission_schedulePump, admission_of_backlog s before hf] at steps
  · split
    · have steps := leave_steps (c := c) (s.setPool pool.free.1) before inPump
      rwa [admission_setPool, admission_of_backlog s before hf] at steps
    · exact becomeIdle_steps before inPump hf

theorem endLane_steps {s : System} {pool : Pool} (outcome : Outcome) (inPump : Bool)
    (h : pool.backlog = s.backlog) :
    Steps c (s.admission before) ((s.endLane pool outcome inPump).admission before) := by
  cases outcome with
  | fulfilled => exact freeLane_steps before inPump h
  | rejected e =>
      have hf : (pool.fail e).1.backlog = s.backlog := h
      apply Steps.of_eq
      simp only [endLane, Reaction.admission_afterRecords, admission_callOut, admission_setPool]
      simp [admission_of_backlog s before hf, Frame.pause?, Frame.inFlight?]

theorem goOn_steps (run : Run) (outcome : Outcome) (inPump : Bool) :
    Steps c (s.admission before) ((s.goOn run outcome inPump).admission before) := by
  simp only [goOn, Reaction.admission_after]
  have quiet : [Note.seen run outcome].flatMap Note.marks = [] := rfl
  rw [quiet, List.append_nil]
  split
  · rename_i pool _ hp
    exact endLane_steps before outcome inPump (backlog_of_pool hp).symm
  · rw [admission_returned]

section Slots
variable (tag : Tag) (ticket : Ticket) (purpose : Purpose) (slot : Slot)

theorem admission_announce (report : Slot.Report) :
    (s.announce tag purpose report).admission before =
      (s.admission before).tell tag purpose report.slot report.notice report.resume := by
  simp only [announce, Reaction.admission_afterRecords, Reaction.admission_after,
    admission_callOut]
  simp [admission, Admission.tell, backlog, inFlight, Frame.pause?, Frame.inFlight?, Note.marks]

theorem finishStep_steps (queued : Bool) :
    Steps c ((s.admission before).mark (purpose.marks tag queued))
      ((s.finishStep tag purpose queued).admission before) := by
  cases purpose with
  | submit ticket =>
      apply Steps.of_eq
      simp [finishStep, Reaction.admission, Reaction.marks, admission, mark, Note.marks,
        Purpose.marks]
  | complete =>
      apply Steps.of_eq
      simp [finishStep, mark, Purpose.marks]
  | conclude run outcome inCall =>
      have steps := leave_steps (c := c) (s.pushJob (.goOn run outcome)) before
        (inCall && run.starter == .lane)
      simp only [finishStep, Reaction.admission_after]
      simpa [admission_pushJob, Job.inFlight?, mark, Purpose.marks, Note.marks] using steps

theorem admission_accepted :
    (s.accepted tag ticket purpose).admission before =
      ((s.admission before).mark [.accepted tag ticket]).tell tag purpose (s.limiter.slot tag)
        (.dispatched ticket (s.limiter.slot tag).running) (.answer false) := by
  simp only [accepted, Reaction.admission_after, admission_announce]
  rfl

theorem admission_refused (e : Thrown) :
    (s.refused tag ticket e purpose).admission before =
      (s.admission before).tell tag purpose
        { s.limiter.slot tag with running := (s.limiter.slot tag).running.plus (-1) }
        (.rejected ticket e) (.answer true) :=
  admission_announce s before tag purpose _

/-- A pool answers an offer at once, so the offer stays open only where the runner is outside. -/
theorem offer_steps :
    Steps c ((s.admission before).ask tag purpose slot ticket)
      (((s.setSlot tag slot).offer tag ticket purpose).admission before) := by
  rw [offer]
  simp only [Reaction.admission_after]
  split
  · apply Steps.of_eq
    rw [admission_callOut]
    simp [admission, ask, setSlot, backlog, inFlight, Frame.pause?, Frame.inFlight?, Note.marks]
  · rename_i pool hp
    have prompt : ((s.admission before).ask tag purpose slot ticket).Prompt tag ticket := by
      simp [Prompt, ask]
    split
    · rename_i taken ht
      apply (Step.take prompt rfl).steps
      have queue : taken.backlog = pool.backlog ++ [.limited tag ticket] :=
        congrArg Pool.backlog (Pool.accept_eq_ok ht).2
      rw [← backlog_of_pool hp] at queue
      rw [admission_accepted, admission_schedulePump, schedulePump_limiter, queue]
      simp [admission, ask, Admission.tell, mark, back, setSlot, backlog, inFlight,
        List.filterMap_append, Work.submission?, Note.marks, Admission.slot]
    · rename_i f hf
      apply (Step.refuse (.fault f) (.inr prompt) rfl).steps
      rw [admission_refused]
      simp [admission, ask, Admission.tell, back, setSlot, backlog, inFlight, Note.marks, Admission.slot]

@[simp] theorem admission_follow_after (records : List Logging.Record) (p : Slot.Progress) :
    (s.follow tag purpose (p.after records)).admission before =
      (s.follow tag purpose p).admission before := by
  cases p with
  | report r => simp [follow, Slot.Progress.after, admission_announce]
  | offer | done => simp [follow, Slot.Progress.after]

theorem place_steps :
    ∃ a, Places tag ticket purpose ((s.admission before).setSlot tag slot) a ∧
      Steps c a ((s.follow tag purpose
        (Slot.place (s.limiter.setting tag) slot ticket)).admission before) := by
  have here : ((s.admission before).setSlot tag slot).slot tag = slot := by
    simp [Admission.slot_setSlot]
  rw [Slot.place]
  split
  · rename_i reached
    refine ⟨_, .wait (by rw [here]; exact reached), Steps.of_eq ?_⟩
    simp only [follow, admission_announce, here]
    simp [admission, Admission.tell, Admission.setSlot]
  · rename_i room
    refine ⟨_, .offer (by rw [here]; exact eq_false_of_ne_true room), ?_⟩
    simp only [follow, Reaction.admission_afterRecords, here]
    convert offer_steps s before tag ticket purpose { slot with running := slot.running.plus 1 }
      using 1
    simp [admission, ask, Admission.setSlot]

theorem submit_steps :
    ∃ a, Enters tag ticket purpose ((s.admission before).setSlot tag slot) a ∧
      Steps c a ((s.follow tag purpose
        (Slot.submit (s.limiter.setting tag) slot ticket)).admission before) := by
  have here : ((s.admission before).setSlot tag slot).slot tag = slot := by
    simp [Admission.slot_setSlot]
  rw [Slot.submit]
  split
  · rename_i exceeded
    refine ⟨_, .overflow (by rw [here]; exact exceeded), Steps.of_eq ?_⟩
    simp only [follow, admission_announce, here]
    simp [admission, Admission.tell, Admission.setSlot]
  · rename_i kept
    obtain ⟨a, places, steps⟩ := place_steps (c := c) s before tag ticket purpose slot
    refine ⟨a, .place (by rw [here]; exact eq_false_of_ne_true kept) places, ?_⟩
    rwa [admission_follow_after]

theorem complete_ends :
    Ends tag purpose (s.admission before) ((s.complete tag purpose).admission before) := by
  simp only [complete, Slot.complete, admission_announce]
  split
  · rename_i idle
    exact .underflow idle
  · rename_i busy
    exact .finish (eq_false_of_ne_true busy)

end Slots

/-- The system as it was while the call that left the frame was open. -/
def reopened (frame : Frame) : System := { s with stack := frame :: s.stack }

theorem admission_reopened (frame : Frame) :
    (s.reopened frame).admission before =
      { s.admission before with
        pauses := frame.pause?.toList ++ (s.admission before).pauses
        inFlight := ↑frame.inFlight?.toList + (s.admission before).inFlight } :=
  admission_callOut s before frame (.pool .idle) |>.symm ▸ by
    simp [Reaction.admission, Reaction.marks, callOut, reopened]

theorem resume_steps (tag : Tag) (current : Message) (resume : Slot.Resume) (purpose : Purpose) :
    Steps c ((s.reopened (.message tag current [] resume purpose)).admission before)
      ((s.resumeStep tag resume purpose).admission before) := by
  have top : ((s.reopened (.message tag current [] resume purpose)).admission before).pauses =
      ⟨tag, purpose, .heard resume⟩ :: (s.admission before).pauses := rfl
  have back : ((s.reopened (.message tag current [] resume purpose)).admission before).back
      (s.admission before).pauses = s.admission before := by
    simp [admission_reopened, Admission.back, Frame.inFlight?]
  rw [resumeStep]
  cases resume with
  | place ticket =>
      obtain ⟨a, places, steps⟩ := place_steps (c := c) s before tag ticket purpose
        { s.limiter.slot tag with running := s.limiter.limit.clamp (s.limiter.slot tag).running }
      exact .head (.place top (back ▸ places)) steps
  | release =>
      apply (Step.release top).steps
      rw [back]
      simp only [Slot.resume, follow, admission_announce]
      simp [Admission.finish, Admission.tell, Admission.setSlot, admission, Slot.finish,
        Admission.slot, reopened]
  | handOver =>
      cases hp : (s.limiter.slot tag).pending with
      | none =>
          refine .head (.rest top hp) ?_
          rw [back]
          simp only [Slot.resume, Slot.handOver, hp, follow, Reaction.admission_afterRecords]
          exact finishStep_steps (s.setSlot tag (s.limiter.slot tag)) before tag purpose false
      | some ticket =>
          obtain ⟨a, enters, steps⟩ := submit_steps (c := c) s before tag ticket purpose
            { s.limiter.slot tag with pending := none }
          refine .head (.handOver top hp (back ▸ enters)) ?_
          simpa only [Slot.resume, Slot.handOver, hp, admission_follow_after] using steps
  | answer queued =>
      refine .head (.answer top) ?_
      rw [back]
      simp only [Slot.resume, follow, Reaction.admission_afterRecords]
      exact finishStep_steps (s.setSlot tag (s.limiter.slot tag)) before tag purpose queued

theorem inFlight?_ofRun (run : Run) (outcome : Outcome) :
    (Job.ofRun run outcome).inFlight? = run.work.submission? := by
  obtain ⟨work, starter⟩ := run
  cases work <;> rfl

theorem admission_await (promise : Promise) (run : Run) :
    (s.await promise run).admission before =
      { s.admission before with
        inFlight := ↑run.work.submission?.toList + (s.admission before).inFlight } := by
  rw [await]
  split
  · rw [admission_pushJob, inFlight?_ofRun, add_comm]
  · have last : [(promise, run)].filterMap (fun entry => entry.2.work.submission?) =
        run.work.submission?.toList := by
      cases h : run.work.submission? <;> simp [h]
    simp only [admission, inFlight, backlog, List.filterMap_append, last, ← Multiset.coe_add]
    congr 1
    abel

/-- Waking the runs that waited for a promise only moves them to the jobs. -/
theorem admission_settle (promise : Promise) (outcome : Outcome) :
    (s.settle promise outcome).admission before = s.admission before := by
  let run? (entry : Promise × Run) : Option Submission := entry.2.work.submission?
  let waits (entry : Promise × Run) : Bool := entry.1 == promise
  have woken : ((s.awaiting.filter waits).map fun entry =>
      Job.ofRun entry.2 outcome).filterMap Job.inFlight? =
        (s.awaiting.filter waits).filterMap run? := by
    rw [List.filterMap_map]
    exact congrArg (List.filterMap · _) (funext fun entry => inFlight?_ofRun entry.2 outcome)
  have both : (s.awaiting.filterMap run? : Multiset Submission) =
      (s.awaiting.filter waits).filterMap run? +
        (s.awaiting.filter fun entry => !waits entry).filterMap run? := by
    rw [Multiset.coe_add, ← List.filterMap_append]
    exact Multiset.coe_eq_coe.2 ((List.filter_append_perm waits _).filterMap _).symm
  rw [settle]
  split
  · rfl
  · simp only [admission, inFlight, backlog, EventLoop.pushJobs, List.partition_eq_filter_filter,
      List.filterMap_append, ← Multiset.coe_add]
    congr 1
    rw [both, woken]
    simp only [run?, waits, Function.comp_def]
    abel

theorem conclude_steps (tag : Tag) (ticket : Ticket) (starter : Starter) (outcome : Outcome)
    (inCall : Bool) :
    Steps c
      { s.admission before with inFlight := (tag, ticket) ::ₘ (s.admission before).inFlight }
      ((s.conclude tag ticket starter outcome inCall).admission before) := by
  simp only [conclude, Reaction.admission_after]
  have ends := complete_ends s (before ++ [.concluded tag ticket]) tag
    (.conclude { work := .limited tag ticket, starter } outcome inCall)
  have next : ({ s.admission before with
      inFlight := (tag, ticket) ::ₘ (s.admission before).inFlight } : Admission).inFlight =
        (tag, ticket) ::ₘ (s.admission before).inFlight := rfl
  exact .single (.conclude next ends)

theorem taskReturned_steps (run : Run) (result : TaskReturn) :
    Steps c ((s.reopened (.task run)).admission before)
      ((s.taskReturned run result).admission before) := by
  have opened : (s.reopened (.task run)).admission before =
      { s.admission before with
        inFlight := ↑run.work.submission?.toList + (s.admission before).inFlight } :=
    admission_reopened s before (.task run)
  rw [opened]
  cases result with
  | settled outcome =>
      have steps := leave_steps (c := c) (s.pushJob (.ofRun run outcome)) before
        (run.starter == .lane)
      rwa [admission_pushJob, inFlight?_ofRun, add_comm] at steps
  | later promise =>
      have steps := leave_steps (c := c) (s.await promise run) before (run.starter == .lane)
      rwa [admission_await] at steps
  | threw e =>
      obtain ⟨work, starter⟩ := run
      cases work with
      | limited tag ticket => exact conclude_steps s before tag ticket starter (.rejected e) true
      | plain ticket =>
          cases starter with
          | lane => exact goOn_steps s before _ _ true
          | caller =>
              apply Steps.of_eq
              simp [taskReturned, admission_pushJob, Job.inFlight?, Work.submission?]

/-- The last call has returned. -/
theorem goOnFrom_steps {frame : Frame} {reply : Reply} {r : Reaction}
    (may : ∀ tag ticket purpose e, frame = .offer tag ticket purpose → reply = .refuse e →
      c ((s.reopened frame).admission before) (.refuse tag ticket))
    (h : s.goOnFrom frame reply = some r) :
    Steps c ((s.reopened frame).admission before) (r.admission before) := by
  have plain (quiet : frame.pause? = none) (still : frame.inFlight? = none) :
      (s.reopened frame).admission before = s.admission before := by
    simp [admission_reopened, quiet, still]
  have top (tag : Tag) (ticket : Ticket) (purpose : Purpose) :
      ((s.reopened (.offer tag ticket purpose)).admission before).pauses =
        ⟨tag, purpose, .offer ticket⟩ :: (s.admission before).pauses := rfl
  unfold goOnFrom at h
  split at h <;> cases h
  · apply Steps.of_eq
    rw [Reaction.admission_afterRecords, admission_callOut, admission_reopened]
    rfl
  · rw [Reaction.admission_afterRecords]
    exact resume_steps s before _ _ _ _
  · rename_i tag ticket purpose
    apply (Step.accept (top tag ticket purpose)).steps
    rw [admission_accepted, admission_reopened]
    simp [Frame.inFlight?, Admission.back, Admission.mark, Admission.tell, Admission.slot, admission]
  · rename_i tag ticket purpose e
    apply (Step.refuse e (.inl (may tag ticket purpose e rfl rfl)) (top tag ticket purpose)).steps
    rw [admission_refused, admission_reopened]
    simp [Frame.inFlight?, Admission.back, Admission.tell, Admission.slot, admission]
  · rw [plain rfl rfl, Reaction.admission_after, admission_returned]
    exact Steps.of_eq (congrArg s.admission (List.append_nil before))
  · rw [plain rfl rfl]
    exact Steps.of_eq (congrArg s.admission (List.append_nil before))
  · exact taskReturned_steps s before _ _
  · rw [plain rfl rfl, Reaction.admission_afterRecords]
    split
    · rename_i pool hp
      exact freeLane_steps before _ (backlog_of_pool hp).symm
    · rw [admission_returned]
  · rw [plain rfl rfl, Reaction.admission_afterRecords]
    exact leave_steps s before _

theorem runJob_steps : Steps c (s.admission before) (s.runJob.admission before) := by
  rw [runJob]
  split
  · rename_i job rest _ hj
    let taken : System := { s with loop := { s.loop with jobs := rest } }
    have opened : s.admission before =
        { taken.admission before with
          inFlight := ↑job.inFlight?.toList + (taken.admission before).inFlight } := by
      cases hf : job.inFlight? <;>
        simp [admission, inFlight, backlog, taken, hj, hf, ← Multiset.cons_coe]
    rw [opened]
    cases job with
    | conclude tag ticket starter outcome =>
        exact conclude_steps taken before tag ticket starter outcome false
    | goOn run outcome => exact goOn_steps taken before run outcome false
  · rw [admission_ignored]

theorem runImmediate_steps :
    Steps c (s.admission before) (s.runImmediate.admission before) := by
  rw [runImmediate]
  split
  · rename_i immediate rest _ _
    let taken : System := { s with loop := { s.loop with immediates := rest } }
    have same : s.admission before = taken.admission before := rfl
    split
    · have begun : s.admission before =
          ({ taken with pool := s.pool.map Pool.pumpBegun } : System).admission before :=
        admission_congr before rfl rfl rfl rfl rfl
          (backlog_map (s := s) (f := Pool.pumpBegun) fun _ => rfl).symm
      rw [begun]
      exact pump_steps _ before
    · rw [admission_returned]
      exact .refl
    · rw [admission_returned, admission_settle, same]
  · rw [admission_ignored]

theorem jobs_of_fire? {l later : EventLoop} {alarm : Alarm} (h : l.fire? = some (alarm, later)) :
    later.jobs = l.jobs := by
  obtain ⟨t, -, ht⟩ := Option.map_eq_some_iff.1 h
  cases ht
  rfl

theorem jobs_of_elapse? {l later : EventLoop} {ms : Nat} (h : l.elapse? ms = some later) :
    later.jobs = l.jobs := by
  rw [EventLoop.elapse?] at h
  split at h <;> cases h
  rfl

theorem runTimer_steps : Steps c (s.admission before) (s.runTimer.admission before) := by
  rw [runTimer]
  split
  · rename_i promise loop _ hl
    rw [admission_returned, admission_settle]
    exact Steps.of_eq (admission_congr before rfl rfl rfl rfl (jobs_of_fire? hl) rfl)
  · rename_i waiter loop _ hl
    rw [Reaction.admission_after, admission_returned]
    apply Steps.of_eq
    rw [show before ++ [Note.terminated waiter false].flatMap Note.marks = before from
      List.append_nil before]
    exact admission_congr before rfl rfl rfl rfl (jobs_of_fire? hl) (backlog_map fun _ => rfl)
  · rw [admission_ignored]

theorem elapse_steps (ms : Nat) :
    Steps c (s.admission before) ((s.elapse ms).admission before) := by
  rw [elapse]
  split
  · rename_i loop _ hl
    rw [admission_returned]
    exact Steps.of_eq (admission_congr before rfl rfl rfl rfl (jobs_of_elapse? hl) rfl)
  · rw [admission_ignored]

theorem execute_steps : Steps c (s.admission before) (s.execute.admission before) := by
  let taken : System := { s with tickets := s.tickets + 1 }
  have numbered : Step c (s.admission before) (taken.admission before) := .number
  have quiet (note : Note) (h : note.marks = []) :
      before ++ [note].flatMap Note.marks = before := by
    simp [h]
  refine .head numbered (Steps.of_eq ?_)
  simp only [execute, Reaction.admission_after]
  rw [quiet _ rfl]
  split
  · rw [admission_callOut]
    simp [taken, Frame.pause?, Frame.inFlight?]
  · rename_i pool hp
    split
    · rename_i later hl
      have queue : later.backlog = pool.backlog ++ [.plain s.tickets] :=
        congrArg Pool.backlog (Pool.accept_eq_ok hl).2
      have last : [Work.plain s.tickets].filterMap Work.submission? = [] := rfl
      rw [Reaction.admission_after, admission_returned, quiet _ rfl, admission_schedulePump, queue,
        List.filterMap_append, last, List.append_nil, ← backlog_of_pool hp]
      rfl
    · simp [Reaction.admission, Reaction.marks, taken]

/-- A call of `submit` makes a submission, which enters its slot; no deed follows. -/
theorem submit_enters (tag : Tag) :
    ∃ a, Enters tag s.tickets (.submit s.tickets)
        ({ s.admission before with tickets := s.tickets + 1 }.mark [.submitted tag s.tickets]) a ∧
      Steps c a ((s.submit tag).admission before) := by
  let taken : System := { s with tickets := s.tickets + 1 }
  obtain ⟨a, enters, steps⟩ := submit_steps (c := c) taken (before ++ [.submitted tag s.tickets])
    tag s.tickets (.submit s.tickets) (s.limiter.slot tag)
  refine ⟨a, enters.of_setSlot, ?_⟩
  simp only [submit, Reaction.admission_after]
  exact steps

theorem submit_react_steps (tag : Tag) (may : c (s.admission before) (.submit tag)) :
    Steps c (s.admission before) ((s.submit tag).admission before) := by
  obtain ⟨a, enters, steps⟩ := submit_enters (c := c) s before tag
  exact .head (.submit may enters) steps

theorem start_steps (work : Work)
    (may : ∀ d ∈ s.deed? (.start work), c (s.admission before) d) :
    Steps c (s.admission before) ((s.start work).admission before) := by
  rw [start]
  split
  · rw [admission_ignored]
  · rename_i outside
    rw [Reaction.admission_after, admission_callOut]
    cases work with
    | limited tag ticket =>
        have free : s.pool = none := by simpa using outside
        refine (Step.start (may (.start tag ticket) (by simp [deed?, free]))
          (by simp [admission, backlog, free])).steps ?_
        simp [admission, mark, Note.marks, Frame.pause?, Frame.inFlight?, Work.submission?]
    | plain ticket =>
        apply Steps.of_eq
        simp [Note.marks, Frame.pause?, Frame.inFlight?, Work.submission?]

/-- Telling a slot of an end is all that a completion is. -/
theorem complete_react_steps (tag : Tag) (may : c (s.admission before) (.complete tag)) :
    Steps c (s.admission before) ((s.complete tag .complete).admission before) :=
  .single (.complete may (complete_ends s before tag .complete))

theorem overwrite_steps (tag : Tag) (running : Number)
    (may : c (s.admission before) (.overwrite tag running)) :
    Steps c (s.admission before) ((s.overwrite tag running).admission before) := by
  rw [overwrite]
  split
  · rename_i slot hs
    have found : s.limiter.slot tag = slot := by simp [Limiter.slot, hs]
    rw [admission_returned, ← found]
    exact .single (.overwrite may)
  · rw [admission_ignored]

theorem shutdown_steps : Steps c (s.admission before) (s.shutdown.admission before) := by
  rw [shutdown]
  split
  · rename_i pool hp
    have kept : pool.shutdown.1.backlog = s.backlog := by
      rw [backlog_of_pool hp, Pool.shutdown]
      split <;> rfl
    rw [Reaction.admission_afterRecords, admission_returned, admission_setPool,
      admission_of_backlog s before kept]
  · rw [admission_ignored]

theorem awaitTermination_steps (ms : Number) :
    Steps c (s.admission before) ((s.awaitTermination ms).admission before) := by
  rw [awaitTermination]
  split
  · rw [admission_ignored]
  · rename_i pool hp
    dsimp only
    split
    · rw [Reaction.admission_after, admission_returned]
      exact Steps.of_eq (congrArg s.admission (List.append_nil before))
    · rw [admission_returned]
      exact Steps.of_eq (admission_congr before rfl rfl rfl rfl rfl (backlog_of_pool hp).symm)

theorem reply_steps (reply : Reply)
    (may : ∀ d ∈ s.deed? (.reply reply), c (s.admission before) d) :
    Steps c (s.admission before) ((s.reply reply).admission before) := by
  rw [System.reply]
  split
  · rename_i frame rest hs
    let inner : System := { s with stack := rest }
    have opened : inner.reopened frame = s := by
      rw [reopened, ← hs]
    have allowed : ∀ tag ticket purpose e, frame = .offer tag ticket purpose →
        reply = .refuse e → c ((inner.reopened frame).admission before) (.refuse tag ticket) := by
      rintro tag ticket purpose e rfl rfl
      rw [opened]
      exact may _ (by simp [deed?, hs])
    cases hr : inner.goOnFrom frame reply with
    | none => rw [Option.getD_none, admission_ignored]
    | some r => exact opened ▸ goOnFrom_steps inner before allowed hr
  · rw [admission_ignored]

/-- Every reaction is a chain of steps. -/
theorem react_steps (m : Move) (may : ∀ d ∈ s.deed? m, c (s.admission before) d) :
    Steps c (s.admission before) ((s.react m).admission before) := by
  cases m with
  | submit tag => exact submit_react_steps s before tag (may _ rfl)
  | complete tag =>
      simp only [react]
      split
      · exact complete_react_steps s before tag (may _ rfl)
      · rw [admission_ignored]
  | overwrite tag running => exact overwrite_steps s before tag running (may _ rfl)
  | execute => exact execute_steps s before
  | start work => exact start_steps s before work may
  | shutdown => exact shutdown_steps s before
  | awaitTermination ms => exact awaitTermination_steps s before ms
  | reply reply => exact reply_steps s before reply may
  | settle promise outcome =>
      rw [react, admission_returned, admission_settle]
  | delay promise ms | countdown promise immediates =>
      rw [react, admission_returned]
      exact .refl
  | job => exact runJob_steps s before
  | immediate => exact runImmediate_steps s before
  | timer => exact runTimer_steps s before
  | elapse ms => exact elapse_steps s before ms

end System

namespace History

theorem admission_play (h : History) (m : Move) :
    (h.play m).admission = (h.system.react m).admission h.marks := by
  simp [Reaction.admission, Reaction.marks, admission, play, marks]

theorem play_steps {c : Conduct} {h : History} {m : Move} (may : c.Permits h m) :
    Admission.Steps c h.admission (h.play m).admission := by
  rw [admission_play]
  exact System.react_steps h.system h.marks m may

/-- What every step keeps holds after every run that keeps to the conduct. -/
theorem plays_induction {c : Conduct} {P : Admission → Prop}
    (keep : ∀ a a', P a → Admission.Step c a a' → P a') {h : History} {ms : List Move}
    (kept : c.Keeps h ms) (start : P h.admission) : P (h.plays ms).admission := by
  induction ms generalizing h with
  | nil => exact start
  | cons m ms ih => exact ih kept.2 ((play_steps kept.1).keep keep start)

theorem limit_plays (h : History) (ms : List Move) :
    (h.plays ms).system.limiter.limit = h.system.limiter.limit :=
  plays_induction (c := fun _ _ => True)
    (P := fun a => a.limiter.limit = h.system.limiter.limit)
    (fun _ _ held step => step.limit.1.trans held)
    (Conduct.keeps_of_forall fun _ _ => trivial) rfl

theorem limit_play (h : History) (m : Move) :
    (h.play m).system.limiter.limit = h.system.limiter.limit := limit_plays h [m]

theorem tickets_le_plays (h : History) (ms : List Move) :
    h.system.tickets ≤ (h.plays ms).system.tickets :=
  plays_induction (c := fun _ _ => True) (P := fun a => h.system.tickets ≤ a.tickets)
    (fun _ _ held step => held.trans step.limit.2) (Conduct.keeps_of_forall fun _ _ => trivial)
    (Nat.le_refl _)

end History
end Turnstile
