import Turnstile.Proofs.Calls
import Turnstile.Proofs.Dispatches
import Turnstile.Proofs.Lanes
import Turnstile.Proofs.Limits
import Turnstile.Proofs.Outcomes
import Turnstile.Proofs.Service

/-!
The stream of events as an account of the running counts. Whoever hears every event first can tell
from the events alone how many works of a tag run: so many were dispatched, and so many of them have
finished. Each event of the two kinds says the same number.

The number is read from the slot when the event is told. It counts a task that is just being offered
to the runner as well, so the account holds for runners that do nothing else while they are asked to
take work: pools, and runners outside that start work later.
-/
namespace Turnstile

namespace LimiterEvent

def dispatches (tag : Tag) : LimiterEvent → Bool
  | .dispatched own _ => own == tag
  | _ => false

def finishes (tag : Tag) : LimiterEvent → Bool
  | .finished own _ => own == tag
  | _ => false

/-- The running count that an event tells, and of which tag. -/
def running? : LimiterEvent → Option (Tag × Number)
  | .dispatched tag running | .finished tag running => some (tag, running)
  | _ => none

theorem not_dispatches {e : LimiterEvent} (untold : e.running? = none) (tag : Tag) :
    e.dispatches tag = false ∧ e.finishes tag = false := by
  cases e <;> simp_all [running?, dispatches, finishes]

end LimiterEvent

namespace Mark

def accepts (tag : Tag) : Mark → Bool
  | .accepted own _ => own == tag
  | _ => false

def concludes (tag : Tag) : Mark → Bool
  | .concluded own _ => own == tag
  | _ => false

def finishes (tag : Tag) : Mark → Bool
  | .finished own => own == tag
  | _ => false

theorem accepts_iff {m : Mark} {tag : Tag} : m.accepts tag = true ↔ ∃ t, .accepted tag t = m := by
  cases m with
  | accepted own t => simpa [accepts] using eq_comm
  | _ => simp [accepts]

theorem concludes_iff {m : Mark} {tag : Tag} :
    m.concludes tag = true ↔ ∃ t, .concluded tag t = m := by
  cases m with
  | concluded own t => simpa [concludes] using eq_comm
  | _ => simp [concludes]

/-- Whether a dispatch or an end is told along with it. -/
def isTold : Mark → Bool
  | .accepted .. | .finished _ => true
  | _ => false

theorem not_accepts {m : Mark} (untold : m.isTold = false) (tag : Tag) :
    m.accepts tag = false ∧ m.finishes tag = false := by
  cases m <;> simp_all [isTold, accepts, finishes]

end Mark

/-- A transition of a slot is being told. -/
def Frame.tells : Frame → Bool
  | .message .. => true
  | _ => false

/-- What is still to be told of a transition is no dispatch and no end. -/
def Frame.restsUncounted : Frame → Prop
  | .message _ _ rest _ _ => ∀ m ∈ rest, ∀ e ∈ (Signal.call (.message m)).events, e.running? = none
  | _ => True

namespace Reaction
variable {s t : System} {r : Reaction} {notes : List Note}

/-- Nothing that counts is told, nor marked. -/
structure Silent (s : System) (r : Reaction) : Prop where
  signal : ∀ e ∈ r.signal.events, e.running? = none
  marks : ∀ m ∈ r.marks, m.isTold = false
  rests : (∀ f ∈ s.stack, f.restsUncounted) → ∀ f ∈ r.system.stack, f.restsUncounted
  pool : s.pool = none → r.system.pool = none

/-- Dispatches and ends are told as they are marked, each with the running count of its slot, in a
step of the slot. -/
structure Recounts (s : System) (r : Reaction) : Prop where
  dispatched : ∀ tag, r.signal.events.countP (·.dispatches tag) = r.marks.countP (Mark.accepts tag)
  finished : ∀ tag, r.signal.events.countP (·.finishes tag) = r.marks.countP (Mark.finishes tag)
  running : ∀ e ∈ r.signal.events, ∀ own running, e.running? = some (own, running) →
    r.signal.events = [e] ∧ running = (r.system.limiter.slot own).running ∧
      ∃ frame below, r.system.stack = frame :: below ∧ frame.tells = true
  rests : (∀ f ∈ s.stack, f.restsUncounted) → ∀ f ∈ r.system.stack, f.restsUncounted
  pool : s.pool = none → r.system.pool = none

namespace Silent

theorem of_like (h : r.Silent t) (stack : t.stack = s.stack) (pool : s.pool = none → t.pool = none) :
    r.Silent s :=
  { h with rests := stack ▸ h.rests, pool := fun none => h.pool (pool none) }

theorem after (h : r.Silent s) (quiet : ∀ m ∈ notes.flatMap Note.marks, m.isTold = false) :
    (r.after notes).Silent s :=
  { h with
    marks := fun m mem => by
      rw [marks_after, List.mem_append] at mem
      exact mem.elim (quiet m) (h.marks m) }

theorem afterRecords {records : List Logging.Record} (h : r.Silent s) :
    (r.afterRecords records).Silent s :=
  h.after (by simp)

theorem recounts (h : r.Silent s) : r.Recounts s where
  dispatched tag := by
    rw [List.countP_eq_zero.2, List.countP_eq_zero.2]
    · exact fun m mem => by simp [(Mark.not_accepts (h.marks m mem) tag).1]
    · exact fun e mem => by simp [(LimiterEvent.not_dispatches (h.signal e mem) tag).1]
  finished tag := by
    rw [List.countP_eq_zero.2, List.countP_eq_zero.2]
    · exact fun m mem => by simp [(Mark.not_accepts (h.marks m mem) tag).2]
    · exact fun e mem => by simp [(LimiterEvent.not_dispatches (h.signal e mem) tag).2]
  running e mem own running told := by
    rw [h.signal e mem] at told
    cases told
  rests := h.rests
  pool := h.pool

end Silent

namespace Recounts

theorem of_like (h : r.Recounts t) (stack : t.stack = s.stack)
    (pool : s.pool = none → t.pool = none) : r.Recounts s :=
  { h with rests := stack ▸ h.rests, pool := fun none => h.pool (pool none) }

theorem after (h : r.Recounts s) (quiet : ∀ m ∈ notes.flatMap Note.marks, m.isTold = false) :
    (r.after notes).Recounts s :=
  { h with
    dispatched := fun tag => by
      have none : (notes.flatMap Note.marks).countP (Mark.accepts tag) = 0 :=
        List.countP_eq_zero.2 fun m mem => by simp [(Mark.not_accepts (quiet m mem) tag).1]
      rw [marks_after, List.countP_append, none, Nat.zero_add]
      exact h.dispatched tag
    finished := fun tag => by
      have none : (notes.flatMap Note.marks).countP (Mark.finishes tag) = 0 :=
        List.countP_eq_zero.2 fun m mem => by simp [(Mark.not_accepts (quiet m mem) tag).2]
      rw [marks_after, List.countP_append, none, Nat.zero_add]
      exact h.finished tag }

theorem afterRecords {records : List Logging.Record} (h : r.Recounts s) :
    (r.afterRecords records).Recounts s :=
  h.after (by simp)

/-- Of one reaction, nothing that counts is heard, or all that there is to hear. -/
theorem heard (h : r.Recounts s) {more : List LimiterEvent} (early : more <+: r.signal.events) :
    (∀ e ∈ more, e.running? = none) ∨
      ∃ e, more = [e] ∧ r.signal.events = [e] ∧
        (∀ own n, e.running? = some (own, n) → n = (r.system.limiter.slot own).running) ∧
        ∃ frame below, r.system.stack = frame :: below ∧ frame.tells = true := by
  by_cases quiet : ∀ e ∈ more, e.running? = none
  · exact .inl quiet
  push Not at quiet
  obtain ⟨e, mem, counts⟩ := quiet
  obtain ⟨⟨own, n⟩, running⟩ := Option.ne_none_iff_exists'.1 counts
  have all := h.running e (early.subset mem)
  obtain ⟨alone, -, telling⟩ := all own n running
  rw [alone, List.prefix_cons_iff] at early
  obtain rfl | ⟨rest, rfl, nothing⟩ := early
  · cases mem
  · rw [List.prefix_nil.1 nothing]
    exact .inr ⟨e, rfl, alone, fun own n told => (all own n told).2.1, telling⟩

end Recounts
end Reaction

namespace Slot

/-- A report of a slot that is no dispatch; an end is told with the count that it leaves. -/
structure Report.Fair (r : Report) : Prop where
  undispatched : ∀ ticket running, r.notice ≠ .dispatched ticket running
  finished : ∀ running, r.notice = .finished running → running = r.slot.running

def Progress.Fair : Progress → Prop
  | .report r => r.Fair
  | _ => True

variable (setting : Setting) (slot : Slot) (ticket : Ticket)

theorem fair_after {p : Progress} {records : List Logging.Record} (h : p.Fair) :
    (p.after records).Fair := by
  cases p with
  | report r => exact ⟨h.undispatched, h.finished⟩
  | offer | done => trivial

theorem place_fair : (place setting slot ticket).Fair := by
  rw [place]
  split
  · constructor <;> simp
  · trivial

theorem submit_fair : (submit setting slot ticket).Fair := by
  simp only [submit]
  split
  · constructor <;> simp
  · exact fair_after (place_fair setting slot ticket)

theorem refused_fair (e : Thrown) : (refused setting slot ticket e).Fair := by
  constructor <;> simp [refused]

theorem finish_fair : (finish setting slot).Fair := by
  constructor <;> simp [finish]

theorem complete_fair : (complete setting slot).Fair := by
  rw [complete]
  split
  · constructor <;> simp
  · exact finish_fair setting slot

theorem resume_fair (r : Resume) : (resume setting slot r).Fair := by
  cases r with
  | place ticket => exact place_fair setting _ ticket
  | release => exact finish_fair setting _
  | handOver =>
      rw [resume, handOver]
      split
      · exact fair_after (submit_fair setting _ _)
      · trivial
  | answer queued => trivial

end Slot

namespace System
variable (s : System) (tag : Tag) (ticket : Ticket) (purpose : Purpose)

theorem returned_silent : s.returned.Silent s :=
  ⟨by simp [Signal.events, returned], by simp [Reaction.marks, returned], id, id⟩

theorem ignored_silent : s.ignored.Silent s :=
  ⟨by simp [Signal.events, ignored], by simp [Reaction.marks, ignored], id, id⟩

theorem callOut_silent (frame : Frame) (call : Call)
    (quiet : ∀ e ∈ (Signal.call call).events, e.running? = none) (rests : frame.restsUncounted) :
    (s.callOut frame call).Silent s where
  signal := quiet
  marks := by simp [Reaction.marks, callOut]
  rests all f mem := (List.mem_cons.1 mem).elim (fun new => new ▸ rests) (all f)
  pool := id

theorem pump_silent : s.pump.Silent s := by
  rw [pump]
  split
  · rename_i work later found
    have called := (s.setPool later).callOut_silent (.task ⟨work, .lane⟩) (.task work)
      (by simp [Signal.events]) trivial
    refine .after (called.of_like rfl fun none => ?_) ?_
    · simp [none] at found
    · cases work <;> simp [Note.marks, Mark.isTold]
  · exact s.returned_silent

theorem leave_silent (inPump : Bool) : (s.leave inPump).Silent s := by
  cases inPump with
  | true => exact s.pump_silent
  | false => exact s.returned_silent

variable {s} in
theorem freeLane_silent {own : Pool} (hp : s.pool = some own) (pool : Pool) (inPump : Bool) :
    (s.freeLane pool inPump).Silent s := by
  have inside {t : System} : s.pool = none → t.pool = none := by simp [hp]
  rw [freeLane_eq]
  refine .afterRecords ?_
  split
  · exact (leave_silent _ inPump).of_like (s.schedulePump_stack _) inside
  · split
    · exact (leave_silent _ inPump).of_like rfl inside
    · refine .after (.of_like (callOut_silent _ _ _ (by simp [Signal.events]) trivial) rfl inside) ?_
      simp [List.flatMap_map, Note.marks]

theorem goOn_silent (run : Run) (outcome : Outcome) (inPump : Bool) :
    (s.goOn run outcome inPump).Silent s := by
  refine .after ?_ (by simp [Note.marks])
  split
  · rename_i pool _ hp
    cases outcome with
    | fulfilled => exact freeLane_silent hp pool inPump
    | rejected e =>
        have told := (s.setPool (pool.fail e).1).callOut_silent (.taskError inPump)
          (.pool (.taskError e)) (by simp [Signal.events]) trivial
        exact .afterRecords (told.of_like rfl (by simp [hp]))
  · exact s.returned_silent

theorem finishStep_silent (queued : Bool) : (s.finishStep tag purpose queued).Silent s := by
  cases purpose with
  | submit ticket =>
      exact ⟨by simp [Signal.events, finishStep],
        by simp [Reaction.marks, finishStep, Note.marks, Mark.isTold], id, id⟩
  | complete => exact s.returned_silent
  | conclude run outcome inCall =>
      exact .after ((leave_silent _ _).of_like rfl id) (by simp [Note.marks])

section Messages
variable {tag} {notice : Slot.Notice}

/-- A transition of one event is told by this event, to either audience. -/
theorem told_eq {e : LimiterEvent} (all : LimiterEvent.all tag notice = [e]) :
    (Signal.call (.message (s.messages tag notice).1)).events = [e] := by
  cases ha : s.audience with
  | observer => simpa [messages, ha, Signal.events] using all
  | listeners =>
      obtain ⟨first, -⟩ := List.cons.inj all
      simpa [messages, ha, Signal.events] using first

theorem told_uncounted (quiet : ∀ e ∈ LimiterEvent.all tag notice, e.running? = none) :
    ∀ e ∈ (Signal.call (.message (s.messages tag notice).1)).events, e.running? = none := by
  cases ha : s.audience with
  | observer => simpa [messages, ha, Signal.events] using quiet
  | listeners => simpa [messages, ha, Signal.events] using quiet _ List.mem_cons_self

theorem rests_uncounted : ∀ m ∈ (s.messages tag notice).2,
    ∀ e ∈ (Signal.call (.message m)).events, e.running? = none := by
  cases ha : s.audience with
  | observer => simp [messages, ha]
  | listeners =>
      cases notice with
      | queued ticket replaced =>
          cases replaced <;>
            simp [messages, ha, LimiterEvent.ofNotice, Signal.events, LimiterEvent.running?]
      | _ => simp [messages, ha, LimiterEvent.ofNotice]

end Messages

theorem marks_announce (report : Slot.Report) :
    (s.announce tag purpose report).marks = report.notice.marks tag := by
  simp [announce, Reaction.marks, callOut, Reaction.afterRecords, Reaction.after, Note.marks]

theorem rests_announce (report : Slot.Report) (all : ∀ f ∈ s.stack, f.restsUncounted) :
    ∀ f ∈ (s.announce tag purpose report).system.stack, f.restsUncounted := by
  intro f mem
  exact (List.mem_cons.1 mem).elim (fun new => new ▸ s.rests_uncounted) (all f)

/-- A transition that counts is told by an event of its own. -/
theorem announce_told {report : Slot.Report} (notes : List Note) {e : LimiterEvent}
    (all : LimiterEvent.all tag report.notice = [e])
    (running : e.running? = some (tag, report.slot.running))
    (dispatched : ∀ own, [e].countP (·.dispatches own) =
      (notes.flatMap Note.marks ++ report.notice.marks tag).countP (Mark.accepts own))
    (finished : ∀ own, [e].countP (·.finishes own) =
      (notes.flatMap Note.marks ++ report.notice.marks tag).countP (Mark.finishes own)) :
    ((s.announce tag purpose report).after notes).Recounts s := by
  have events : ((s.announce tag purpose report).after notes).signal.events = [e] := s.told_eq all
  have marks := Reaction.marks_after notes (s.announce tag purpose report)
  rw [marks_announce] at marks
  refine ⟨fun own => ?_, fun own => ?_, fun e' mem own n told => ?_, rests_announce s tag purpose _, id⟩
  · rw [events, marks, dispatched]
  · rw [events, marks, finished]
  · rw [events, List.mem_singleton] at mem
    rw [mem, running] at told
    cases told
    refine ⟨mem ▸ events, ?_, _, _, rfl, rfl⟩
    exact congrArg Slot.running (Limiter.slot_setSlot_self s.limiter tag report.slot).symm

theorem announce_silent {report : Slot.Report}
    (quiet : ∀ e ∈ LimiterEvent.all tag report.notice, e.running? = none)
    (unmarked : ∀ m ∈ report.notice.marks tag, m.isTold = false) :
    (s.announce tag purpose report).Silent s :=
  ⟨s.told_uncounted quiet, by rwa [marks_announce], rests_announce s tag purpose report, id⟩

theorem announce_recounts {report : Slot.Report} (fair : report.Fair) :
    (s.announce tag purpose report).Recounts s := by
  obtain ⟨slot, records, notice, resume⟩ := report
  have silent (quiet : ∀ e ∈ LimiterEvent.all tag notice, e.running? = none)
      (unmarked : ∀ m ∈ notice.marks tag, m.isTold = false) :
      (s.announce tag purpose ⟨slot, records, notice, resume⟩).Recounts s :=
    (announce_silent s tag purpose quiet unmarked).recounts
  cases notice with
  | dispatched ticket running => exact absurd rfl (fair.undispatched ticket running)
  | queued ticket replaced =>
      apply silent <;> cases replaced <;>
        simp [LimiterEvent.all, LimiterEvent.ofNotice, LimiterEvent.running?, Slot.Notice.marks,
          Mark.isTold]
  | finished running =>
      obtain rfl : running = slot.running := fair.finished running rfl
      refine announce_told s tag purpose [] rfl rfl (fun own => ?_) fun own => ?_
      · simp [LimiterEvent.dispatches, Slot.Notice.marks, Mark.accepts, LimiterEvent.ofNotice]
      · simp [LimiterEvent.finishes, Slot.Notice.marks, Mark.finishes, LimiterEvent.ofNotice,
          List.countP_cons]
  | rejected ticket e =>
      apply silent <;>
        simp [LimiterEvent.all, LimiterEvent.ofNotice, LimiterEvent.running?, Slot.Notice.marks,
          Mark.isTold]
  | anomaly kind observed =>
      apply silent <;>
        simp [LimiterEvent.all, LimiterEvent.ofNotice, LimiterEvent.running?, Slot.Notice.marks,
          Mark.isTold]

theorem accepted_recounts : (s.accepted tag ticket purpose).Recounts s := by
  refine announce_told s tag purpose _ rfl rfl (fun own => ?_) fun own => ?_
  · simp [Slot.accepted, LimiterEvent.ofNotice, LimiterEvent.dispatches, Note.marks,
      Slot.Notice.marks, Mark.accepts, List.countP_cons]
  · simp [Slot.accepted, LimiterEvent.ofNotice, LimiterEvent.finishes, Note.marks,
      Slot.Notice.marks, Mark.finishes]

theorem refused_recounts (e : Thrown) : (s.refused tag ticket e purpose).Recounts s :=
  s.announce_recounts tag purpose (Slot.refused_fair _ _ ticket e)

theorem offer_recounts : (s.offer tag ticket purpose).Recounts s := by
  refine .after ?_ (by simp [Note.marks, Mark.isTold])
  cases hp : s.pool with
  | none =>
      exact (s.callOut_silent (.offer tag ticket purpose)
        (.offer (.limited tag ticket)) (by simp [Signal.events]) trivial).recounts
  | some pool =>
      dsimp only
      split
      · rename_i later _
        exact (accepted_recounts (s.schedulePump later) tag ticket purpose).of_like
          (s.schedulePump_stack later) (by simp [hp])
      · exact s.refused_recounts tag ticket purpose _

theorem follow_recounts {p : Slot.Progress} (fair : p.Fair) :
    (s.follow tag purpose p).Recounts s := by
  cases p with
  | report report => exact s.announce_recounts tag purpose fair
  | offer slot records ticket =>
      exact .afterRecords ((offer_recounts (s.setSlot tag slot) tag ticket purpose).of_like rfl id)
  | done slot records queued =>
      exact .afterRecords
        ((finishStep_silent (s.setSlot tag slot) tag purpose queued).recounts.of_like rfl id)

theorem complete_recounts : (s.complete tag purpose).Recounts s :=
  s.announce_recounts tag purpose (Slot.complete_fair _ _)

theorem conclude_recounts (starter : Starter) (outcome : Outcome) (inCall : Bool) :
    (s.conclude tag ticket starter outcome inCall).Recounts s :=
  .after (s.complete_recounts tag _) (by simp [Note.marks, Mark.isTold])

theorem taskReturned_recounts (run : Run) (result : TaskReturn) :
    (s.taskReturned run result).Recounts s := by
  cases result with
  | settled outcome =>
      have left := leave_silent (s.pushJob (.ofRun run outcome)) (run.starter == .lane)
      exact left.recounts.of_like rfl id
  | later promise =>
      have left := leave_silent (s.await promise run) (run.starter == .lane)
      exact left.recounts.of_like (s.await_stack promise run) fun none => by rwa [await_pool]
  | threw e =>
      obtain ⟨work, starter⟩ := run
      cases work with
      | limited tag ticket => exact s.conclude_recounts tag ticket starter (.rejected e) true
      | plain ticket =>
          cases starter with
          | lane => exact (s.goOn_silent ⟨.plain ticket, .lane⟩ (.rejected e) true).recounts
          | caller =>
              have back := returned_silent (s.pushJob (.goOn ⟨.plain ticket, .caller⟩ (.rejected e)))
              exact back.recounts.of_like rfl id

theorem goOnFrom_recounts {frame : Frame} {reply : Reply} {r : Reaction}
    (rests : frame.restsUncounted) (h : s.goOnFrom frame reply = some r) : r.Recounts s := by
  unfold goOnFrom at h
  split at h <;> cases h
  · rename_i tag current next rest resume purpose thrown
    have called := s.callOut_silent (.message tag next rest resume purpose)
      (.message next) (rests next List.mem_cons_self)
      fun m mem => rests m (List.mem_cons_of_mem _ mem)
    exact called.afterRecords.recounts
  · exact .afterRecords (s.follow_recounts _ _ (Slot.resume_fair _ _ _))
  · exact s.accepted_recounts _ _ _
  · exact s.refused_recounts _ _ _ _
  · exact (s.returned_silent.after (by simp [Note.marks])).recounts
  · exact Reaction.Silent.recounts
      ⟨by simp [Signal.events], by simp [Reaction.marks], id, id⟩
  · exact s.taskReturned_recounts _ _
  · refine .afterRecords ?_
    split
    · rename_i pool hp
      exact (freeLane_silent hp pool _).recounts
    · exact s.returned_silent.recounts
  · exact .afterRecords (s.leave_silent _).recounts

theorem runJob_recounts : s.runJob.Recounts s := by
  rw [runJob]
  split
  · rename_i job rest _ _
    cases job with
    | conclude tag ticket starter outcome =>
        exact (conclude_recounts _ tag ticket starter outcome false).of_like rfl id
    | goOn run outcome => exact (goOn_silent _ run outcome false).recounts.of_like rfl id
  · exact s.ignored_silent.recounts

theorem runImmediate_silent : s.runImmediate.Silent s := by
  rw [runImmediate]
  split
  · split
    · exact (pump_silent _).of_like rfl fun none => by simp [none]
    · exact (returned_silent _).of_like rfl id
    · exact (returned_silent _).of_like (settle_stack _ _ _) fun none => by rwa [settle_pool]
  · exact s.ignored_silent

theorem runTimer_silent : s.runTimer.Silent s := by
  rw [runTimer]
  split
  · exact (returned_silent _).of_like (settle_stack _ _ _) fun none => by rwa [settle_pool]
  · exact .after ((returned_silent _).of_like rfl fun none => by simp [none]) (by simp [Note.marks])
  · exact s.ignored_silent

theorem execute_silent : s.execute.Silent s := by
  refine .after ?_ (by simp [Note.marks])
  split
  · have handed := callOut_silent { s with tickets := s.tickets + 1 } (.hand s.tickets)
      (.offer (.plain s.tickets)) (by simp [Signal.events]) trivial
    exact handed.of_like rfl id
  · rename_i pool hp
    split
    · exact .after ((returned_silent _).of_like (schedulePump_stack _ _) (by simp [hp]))
        (by simp [Note.marks])
    · exact ⟨by simp [Signal.events], by simp [Reaction.marks], id, by simp [hp]⟩

theorem start_silent (work : Work) : (s.start work).Silent s := by
  rw [start]
  split
  · exact s.ignored_silent
  · refine .after (s.callOut_silent _ _ (by simp [Signal.events]) trivial) ?_
    cases work <;> simp [Note.marks, Mark.isTold]

theorem awaitTermination_silent (ms : Number) : (s.awaitTermination ms).Silent s := by
  rw [awaitTermination]
  split
  · exact s.ignored_silent
  · rename_i pool hp
    dsimp only
    split
    · exact .after ((returned_silent _).of_like rfl id) (by simp [Note.marks])
    · exact (returned_silent _).of_like rfl (by simp [hp])

/-- Whatever a move comes to, dispatches and ends are told as they are marked. -/
theorem react_recounts (rests : ∀ f ∈ s.stack, f.restsUncounted) (m : Move) :
    (s.react m).Recounts s := by
  cases m with
  | submit tag =>
      have entered := follow_recounts { s with tickets := s.tickets + 1 } tag (.submit s.tickets)
        (Slot.submit_fair (s.limiter.setting tag) (s.limiter.slot tag) s.tickets)
      exact .after (entered.of_like rfl id) (by simp [Note.marks, Mark.isTold])
  | complete tag =>
      rw [react]
      split
      · exact s.complete_recounts tag .complete
      · exact s.ignored_silent.recounts
  | overwrite tag running =>
      rw [react, overwrite]
      split
      · exact (returned_silent _).recounts.of_like rfl id
      · exact s.ignored_silent.recounts
  | execute => exact s.execute_silent.recounts
  | start work => exact (s.start_silent work).recounts
  | shutdown =>
      rw [react, shutdown]
      split
      · rename_i pool hp
        exact .afterRecords ((returned_silent _).recounts.of_like rfl (by simp [hp]))
      · exact s.ignored_silent.recounts
  | awaitTermination ms => exact (s.awaitTermination_silent ms).recounts
  | reply reply =>
      rcases s.reply_cases reply with ignored | ⟨frame, rest, top, answered⟩
      · rw [react, ignored]
        exact s.ignored_silent.recounts
      · rw [top] at rests
        have went := goOnFrom_recounts _ (rests frame List.mem_cons_self) answered
        exact { went with
          rests := fun _ => went.rests fun f mem => rests f (List.mem_cons_of_mem _ mem) }
  | settle promise outcome =>
      refine (returned_silent _).recounts.of_like (s.settle_stack promise outcome) fun none => ?_
      rwa [settle_pool]
  | delay promise ms => exact (returned_silent _).recounts.of_like rfl id
  | countdown promise immediates => exact (returned_silent _).recounts.of_like rfl id
  | job => exact s.runJob_recounts
  | immediate => exact s.runImmediate_silent.recounts
  | timer => exact s.runTimer_silent.recounts
  | elapse ms =>
      rw [react, elapse]
      split
      · exact (returned_silent _).recounts.of_like rfl id
      · exact s.ignored_silent.recounts

end System

/-- A runner outside is being asked to take a task. -/
def Pause.asks : Pause → Bool
  | ⟨_, _, .offer _⟩ => true
  | _ => false

def Frame.asks : Frame → Bool
  | .offer .. => true
  | _ => false

/-- A step of a slot has stopped at the call, or a task of one is being called. -/
def Frame.ofSlot (frame : Frame) : Bool := frame.pause?.isSome || frame.inFlight?.isSome

def Admission.Unasked (a : Admission) : Prop := ∀ p ∈ a.pauses, p.asks = false

instance (a : Admission) : Decidable a.Unasked :=
  inferInstanceAs (Decidable (∀ p ∈ a.pauses, p.asks = false))

/-- While a runner outside is asked to take a task nothing is submitted and no task is started. It
starts only what it has taken before, and nothing twice. Slots are told of ends by works only, and
their counts left alone. -/
def Conduct.deferring : Conduct
  | a, .submit _ => a.Unasked
  | _, .complete _ => False
  | _, .overwrite .. => False
  | a, .start tag ticket =>
    a.Unasked ∧ 0 < a.times (.accepted tag ticket) ∧ a.times (.started tag ticket) = 0
  | a, .refuse tag ticket => a.times (.started tag ticket) = 0

instance : ∀ a d, Decidable (Conduct.deferring a d)
  | a, .submit _ => inferInstanceAs (Decidable a.Unasked)
  | _, .complete _ | _, .overwrite .. => .isFalse id
  | a, .start tag ticket =>
    inferInstanceAs (Decidable (a.Unasked ∧ 0 < a.times (.accepted tag ticket) ∧
      a.times (.started tag ticket) = 0))
  | a, .refuse tag ticket => inferInstanceAs (Decidable (a.times (.started tag ticket) = 0))

theorem Conduct.deferring_careful {a : Admission} {d : Deed} (h : deferring a d) : careful a d := by
  cases d with
  | submit => trivial
  | complete | overwrite => exact h.elim
  | start tag ticket => exact ⟨Nat.add_pos_left h.2.1 _, h.2.2⟩
  | refuse tag ticket => exact h

namespace System
variable {s : System} {before : List Mark}

/-- Nothing of a slot is called above a call that asks a runner outside. -/
def AsksLast (s : System) : Prop :=
  s.stack.Pairwise fun above below => below.asks = true → above.ofSlot = false

theorem asks_of_pause {frame : Frame} (asks : frame.asks = true) :
    ∃ p, frame.pause? = some p ∧ p.asks = true := by
  cases frame with
  | offer => exact ⟨_, rfl, rfl⟩
  | message | hand | task | taskError | idle => cases asks

theorem unasked_iff : (s.admission before).Unasked ↔ ∀ f ∈ s.stack, f.asks = false := by
  constructor
  · intro unasked f mem
    by_contra asks
    obtain ⟨p, pause, open_⟩ := asks_of_pause (eq_true_of_ne_false asks)
    have quiet := unasked p (List.mem_filterMap.2 ⟨f, mem, pause⟩)
    rw [open_] at quiet
    cases quiet
  · intro unasked p mem
    obtain ⟨f, open_, pause⟩ := List.mem_filterMap.1 mem
    cases f with
    | message => cases pause; rfl
    | offer => exact absurd (unasked _ open_) (by simp [Frame.asks])
    | hand | task | taskError | idle => cases pause

theorem asksLast_of_leaves {r : Reaction} {inPump : Bool} (leaves : r.Leaves s inPump)
    (unasked : ∀ f ∈ s.stack, f.asks = false) : r.system.AsksLast := by
  have below : s.stack.Pairwise fun above below => below.asks = true → above.ofSlot = false :=
    List.pairwise_of_forall_mem_list fun above _ below mem asks => by
      rw [unasked below mem] at asks
      cases asks
  rw [AsksLast]
  rcases leaves.stack with ⟨frame, opened, -⟩ | ⟨same, -⟩
  · rw [opened, List.pairwise_cons]
    refine ⟨fun f mem asks => ?_, below⟩
    rw [unasked f mem] at asks
    cases asks
  · rwa [same]

/-- Without a pool, a call that does not concern a slot leaves nothing behind. -/
theorem stack_of_goOnFrom (outside : s.pool = none) {frame : Frame} {reply : Reply} {r : Reaction}
    (aside : frame.ofSlot = false) (h : s.goOnFrom frame reply = some r) :
    r.system.stack = s.stack := by
  have left (t : System) (none : t.pool = none) (same : t.stack = s.stack) (inPump : Bool) :
      (t.leave inPump).system.stack = s.stack := by
    cases inPump <;> simp [leave, pump, none, returned, same]
  unfold goOnFrom at h
  split at h <;> cases h
  · cases aside
  · cases aside
  · cases aside
  · cases aside
  · rfl
  · rfl
  · rename_i run result
    obtain ⟨work, starter⟩ := run
    cases work with
    | limited tag ticket => cases aside
    | plain ticket =>
        cases result with
        | settled outcome => exact left (s.pushJob _) outside rfl _
        | later promise =>
            exact left _ (by rwa [await_pool]) (s.await_stack promise _) _
        | threw e =>
            cases starter with
            | lane => simp [taskReturned, goOn, outside, returned, Reaction.after]
            | caller => rfl
  · simp [outside, Reaction.afterRecords, Reaction.after, returned]
  · exact left s outside rfl _

/-- While a runner outside is asked, no move but an answer changes what is called, or it only calls
what does not concern a slot. -/
theorem react_while_asking (asking : ¬∀ f ∈ s.stack, f.asks = false) (outside : s.pool = none)
    {m : Move} (may : ∀ d ∈ s.deed? m, Conduct.deferring (s.admission before) d) :
    (∃ reply, m = .reply reply) ∨ (s.react m).system.stack = s.stack ∨
      ∃ frame, frame.ofSlot = false ∧ (s.react m).system.stack = frame :: s.stack := by
  have busy (none : s.stack = []) : False := asking (by simp [none])
  have loud : s.quiet = false := by
    cases top : s.stack with
    | nil => exact (busy top).elim
    | cons frame rest => simp [quiet, top]
  cases m with
  | submit tag => exact absurd (unasked_iff.1 (may _ rfl)) asking
  | complete tag => exact (may _ rfl).elim
  | overwrite tag running => exact (may _ rfl).elim
  | execute =>
      refine .inr (.inr ⟨.hand s.tickets, rfl, ?_⟩)
      simp [react, execute, outside, Reaction.after, callOut]
  | start work =>
      cases work with
      | limited tag ticket =>
          have permitted := may (.start tag ticket) (by simp [deed?, outside])
          exact absurd (unasked_iff.1 permitted.1) asking
      | plain ticket =>
          refine .inr (.inr ⟨.task ⟨.plain ticket, .caller⟩, rfl, ?_⟩)
          simp [react, start, outside, Reaction.after, callOut]
  | shutdown => exact .inr (.inl (by simp [react, shutdown, outside, ignored]))
  | awaitTermination ms => exact .inr (.inl (by simp [react, awaitTermination, outside, ignored]))
  | reply reply => exact .inl ⟨reply, rfl⟩
  | settle promise outcome => exact .inr (.inl (s.settle_stack promise outcome))
  | delay | countdown => exact .inr (.inl rfl)
  | job =>
      cases top : s.stack with
      | nil => exact (busy top).elim
      | cons frame rest => exact .inr (.inl (by simp [react, runJob, top, ignored]))
  | immediate => exact .inr (.inl (by simp [react, runImmediate, loud, ignored]))
  | timer => exact .inr (.inl (by simp [react, runTimer, loud, ignored]))
  | elapse ms => exact .inr (.inl (by simp [react, elapse, loud, ignored]))

theorem reply_asksLast (last : s.AsksLast) (outside : s.pool = none) (reply : Reply) :
    (s.react (.reply reply)).system.AsksLast := by
  rcases s.reply_cases reply with ignored | ⟨frame, rest, top, answered⟩
  · rw [react, ignored]
    exact last
  rw [AsksLast, top, List.pairwise_cons] at last
  cases concerns : frame.ofSlot with
  | true =>
      refine asksLast_of_leaves (goOnFrom_leaves _ answered) fun f mem => ?_
      by_contra asks
      have none := last.1 f mem (eq_true_of_ne_false asks)
      rw [concerns] at none
      cases none
  | false =>
      rw [AsksLast, react, stack_of_goOnFrom (s := { s with stack := rest }) outside concerns answered]
      exact last.2

theorem react_asksLast (last : s.AsksLast) (outside : s.pool = none) {m : Move}
    (may : ∀ d ∈ s.deed? m, Conduct.deferring (s.admission before) d) :
    (s.react m).system.AsksLast := by
  by_cases unasked : ∀ f ∈ s.stack, f.asks = false
  · rcases s.react_leaves m with leaves | ⟨reply, frame, rest, -, top, answered⟩
    · exact asksLast_of_leaves leaves unasked
    · rw [top] at unasked
      exact asksLast_of_leaves (goOnFrom_leaves _ answered)
        fun f mem => unasked f (List.mem_cons_of_mem _ mem)
  · rcases react_while_asking unasked outside may with ⟨reply, rfl⟩ | same | ⟨frame, aside, stack⟩
    · exact reply_asksLast last outside reply
    · rwa [AsksLast, same]
    · rw [AsksLast, stack, List.pairwise_cons]
      exact ⟨fun _ _ _ => aside, last⟩

end System

def Mark.ofEnd : Mark → Bool
  | .concluded .. | .finished _ => true
  | _ => false

namespace Admission
variable {a a' : Admission} {limit : Nat} {tag : Tag} {ticket : Ticket} {purpose : Purpose}

/-- Marks of one kind can be counted ticket by ticket. -/
theorem countP_eq_sum {p : Mark → Bool} {f : Ticket → Mark} (inj : f.Injective)
    (names : ∀ m, p m = true ↔ ∃ t, f t = m) (known : ∀ t, 0 < a.times (f t) → t < a.tickets) :
    a.marks.countP p = ∑ t ∈ Finset.range a.tickets, a.times (f t) := by
  have named : ∀ m ∈ (a.marks.filter p : Multiset Mark),
      m ∈ (Finset.range a.tickets).map ⟨f, inj⟩ := by
    intro m mem
    obtain ⟨old, counted⟩ := List.mem_filter.1 (Multiset.mem_coe.1 mem)
    obtain ⟨t, rfl⟩ := (names m).1 counted
    exact Finset.mem_map.2 ⟨t, Finset.mem_range.2 (known t (List.count_pos_iff.2 old)), rfl⟩
  rw [List.countP_eq_length_filter, ← Multiset.coe_card, ← Multiset.sum_count_eq_card named,
    Finset.sum_map]
  refine Finset.sum_congr rfl fun t _ => ?_
  rw [Multiset.coe_count]
  exact List.count_filter ((names (f t)).2 ⟨t, rfl⟩)

/-- How many submissions of the tag are being offered. -/
def offerings (a : Admission) (tag : Tag) : Nat := ∑ t ∈ Finset.range a.tickets, a.offering tag t

theorem offerings_of_unasked (unasked : a.Unasked) (tag : Tag) : a.offerings tag = 0 := by
  refine Finset.sum_eq_zero fun t _ => List.countP_eq_zero.2 fun p mem offered => ?_
  have quiet := unasked p mem
  obtain ⟨own, purpose, resume | ticket⟩ := p
  · simp [Pause.offers] at offered
  · simp [Pause.asks] at quiet

/-- The works of a tag that are outstanding are those that the runner took and that have not ended,
and those that it is being offered. -/
theorem card_outstanding (balanced : a.Balanced []) (shared : a.Shared) (tag : Tag) :
    (a.outstanding tag).card + a.marks.countP (Mark.concludes tag) =
      a.marks.countP (Mark.accepts tag) + a.offerings tag := by
  have known (t : Ticket) (some : 0 < a.times (.accepted tag t) + a.times (.concluded tag t)) :
      t < a.tickets := by
    by_contra late
    have fresh := balanced.fresh tag t (Nat.le_of_not_lt late)
    have course := balanced.course tag t
    have offers := balanced.offers tag t
    have carried := Balanced.offering_le_carrying (a := a) tag t
    have flight := shared.flight tag t
    have share := shared.share tag t
    omega
  have accepted : a.marks.countP (Mark.accepts tag) =
      ∑ t ∈ Finset.range a.tickets, a.times (.accepted tag t) :=
    countP_eq_sum (fun _ _ same => by cases same; rfl) (fun _ => Mark.accepts_iff)
      fun t some => known t (Nat.add_pos_left some _)
  have concluded : a.marks.countP (Mark.concludes tag) =
      ∑ t ∈ Finset.range a.tickets, a.times (.concluded tag t) :=
    countP_eq_sum (fun _ _ same => by cases same; rfl) (fun _ => Mark.concludes_iff)
      fun t some => known t (Nat.add_pos_right _ some)
  have outstanding : (a.outstanding tag).card =
      ∑ t ∈ Finset.range a.tickets, if t ∈ a.outstanding tag then 1 else 0 := by
    rw [Finset.sum_boole, Nat.cast_id]
    refine congrArg Finset.card (Finset.ext fun t => ?_)
    rw [Finset.mem_filter, and_iff_right_of_imp]
    exact fun mem => (Finset.mem_filter.1 mem).1
  rw [outstanding, concluded, accepted, Admission.offerings, ← Finset.sum_add_distrib,
    ← Finset.sum_add_distrib]
  refine Finset.sum_congr rfl fun t _ => ?_
  have offers := balanced.offers tag t
  have once := balanced.offered_le_one tag t
  have flight := shared.flight tag t
  have share := shared.share tag t
  split <;> rename_i works <;> rw [mem_outstanding balanced] at works <;> omega

/-- Every end that a slot was told is announced. -/
def EndsTold (a : Admission) : Prop :=
  ∀ tag, a.marks.countP (Mark.finishes tag) = a.marks.countP (Mark.concludes tag)

theorem EndsTold.next (told : a.EndsTold) (marks : List Mark) (more : a'.marks = a.marks ++ marks)
    (same : ∀ tag, marks.countP (Mark.finishes tag) = marks.countP (Mark.concludes tag)) :
    a'.EndsTold := by
  intro tag
  rw [more, List.countP_append, List.countP_append, told tag, same tag]

theorem EndsTold.quiet (told : a.EndsTold) {marks : List Mark} (more : a'.marks = a.marks ++ marks)
    (quiet : ∀ m ∈ marks, m.ofEnd = false) : a'.EndsTold := by
  refine told.next marks more fun tag => ?_
  rw [List.countP_eq_zero.2, List.countP_eq_zero.2] <;> intro m mem <;>
    have silent := quiet m mem <;> cases m <;> simp_all [Mark.ofEnd, Mark.finishes, Mark.concludes]

theorem Places.endsTold (h : Places tag ticket purpose a a') (told : a.EndsTold) : a'.EndsTold := by
  cases h with
  | wait reached =>
      refine told.quiet rfl ?_
      cases (a.slot tag).pending <;> simp [Slot.Notice.marks, Mark.ofEnd]
  | offer room => exact told.quiet rfl (by simp [Mark.ofEnd])

theorem Enters.endsTold (h : Enters tag ticket purpose a a') (told : a.EndsTold) : a'.EndsTold := by
  cases h with
  | overflow exceeded => exact told.quiet rfl (by simp [Slot.Notice.marks, Mark.ofEnd])
  | place kept placed => exact placed.endsTold told

theorem Step.endsTold (h : Step .careful a a') (kept : a.Kept limit) (few : a.Countable limit)
    (told : a.EndsTold) : a'.EndsTold := by
  have exact := kept.counted few
  cases h with
  | submit may enters => exact enters.endsTold (told.quiet rfl (by simp [Mark.ofEnd]))
  | complete may ends => exact may.elim
  | overwrite may => exact may.elim
  | start may outside => exact told.quiet rfl (by simp [Mark.ofEnd])
  | refuse e may top => exact told.quiet rfl (by simp [Slot.Notice.marks, Mark.ofEnd])
  | accept top =>
      exact EndsTold.quiet (told.quiet rfl (by simp [Mark.ofEnd])) rfl (by simp [Slot.Notice.marks])
  | take prompt top =>
      exact EndsTold.quiet (told.quiet rfl (by simp [Mark.ofEnd])) rfl (by simp [Slot.Notice.marks])
  | pump next => exact told.quiet rfl (by simp [Mark.ofEnd])
  | @conclude tag ticket starter outcome inCall inFlight a' next ends =>
      cases ends with
      | underflow idle =>
          have was := outstanding_of_inFlight kept.balanced kept.shared next
          have idle : (a.slot tag).running.le 0 = true := idle
          rw [exact.running, Number.ofInt_le_zero] at idle
          exact absurd idle (Finset.card_ne_zero_of_mem was)
      | finish busy =>
          refine told.next [.concluded tag ticket, .finished tag] ?_ fun own => ?_
          · simp [Admission.finish, Slot.Notice.marks]
          · simp [Mark.finishes, Mark.concludes, List.countP_cons]
  | place top places =>
      exact absurd (exact.sound _ (top ▸ List.mem_cons_self ..)) (by simp [Pause.mends])
  | release top =>
      exact absurd (exact.sound _ (top ▸ List.mem_cons_self ..)) (by simp [Pause.mends])
  | handOver top waiting enters => exact enters.endsTold told
  | @rest tag purpose rest top free =>
      exact told.quiet rfl (by cases purpose <;> simp [Purpose.marks, Mark.ofEnd])
  | @answer tag purpose queued rest top =>
      exact told.quiet rfl (by cases purpose <;> simp [Purpose.marks, Mark.ofEnd])
  | number => exact told

/-- What careful surroundings keep, with all ends announced. -/
structure Accounted (limit : Nat) (a : Admission) : Prop extends a.Kept limit where
  endsTold : a.Countable limit → a.EndsTold

theorem Step.accounted (h : Step .careful a a') (held : a.Accounted limit) :
    a'.Accounted limit where
  toKept := h.kept held.toKept
  endsTold few := h.endsTold held.toKept (few.mono h.limit.2) (held.endsTold (few.mono h.limit.2))

theorem Accounted.at_start (limit : Nat) (logger : Option Logging.Threshold) :
    (initial limit logger).Accounted limit where
  toKept := .at_start limit logger
  endsTold _ _ := rfl

/-- In the marks, as long as works can be counted: the slot's count is the number of works that were
taken and have no end announced, and of those that are being offered. -/
theorem Accounted.running (held : a.Accounted limit) (few : a.Countable limit) (tag : Tag) :
    ∃ n : Nat, (a.slot tag).running = .ofInt n ∧ n ≤ limit ∧
      n + a.marks.countP (Mark.finishes tag) = a.marks.countP (Mark.accepts tag) + a.offerings tag := by
  have exact := held.counted few
  refine ⟨_, exact.running tag, exact.within tag, ?_⟩
  rw [held.endsTold few tag]
  exact card_outstanding held.balanced held.shared tag

end Admission

theorem History.accounted {s : System} (begins : s.Begins) {ms : List Move}
    (kept : Conduct.deferring.Keeps ⟨s, []⟩ ms) :
    ∃ limit : Nat, s.limiter.limit = some (.ofInt limit) ∧
      ∀ before, before <+: ms → ((⟨s, []⟩ : History).plays before).admission.Accounted limit := by
  obtain ⟨limit, logger, hs⟩ := begins.admission
  refine ⟨limit, congrArg (fun a : Admission => a.limiter.limit) hs, fun before earlier => ?_⟩
  obtain ⟨later, rfl⟩ := earlier
  exact plays_induction (P := fun a => a.Accounted limit)
    (fun _ _ held step => (step.mono fun _ _ => Conduct.deferring_careful).accounted held)
    kept.of_append (hs ▸ .at_start limit logger)

namespace LimiterEvent

/-- How many works of the tag run, by what was heard. -/
def runs (tag : Tag) (heard : List LimiterEvent) : Nat :=
  heard.countP (·.dispatches tag) - heard.countP (·.finishes tag)

/-- No more works of the tag have finished than were dispatched, and if the last event is of either
kind, it tells how many run by then: at least one after a dispatch, fewer than the limit after an
end. -/
structure Accounts (limit : Nat) (heard : List LimiterEvent) (tag : Tag) : Prop where
  within : heard.countP (·.finishes tag) ≤ heard.countP (·.dispatches tag)
  dispatched : ∀ running, heard.getLast? = some (.dispatched tag running) →
    running = .ofInt (runs tag heard) ∧ 1 ≤ runs tag heard ∧ runs tag heard ≤ limit
  finished : ∀ running, heard.getLast? = some (.finished tag running) →
    running = .ofInt (runs tag heard) ∧ runs tag heard < limit

variable {limit : Nat} {tag : Tag} {heard more : List LimiterEvent}

theorem accounts_nil (limit : Nat) (tag : Tag) : Accounts limit [] tag :=
  ⟨Nat.le_refl _, fun _ last => (by cases last), fun _ last => (by cases last)⟩

/-- Other events make no difference. -/
theorem Accounts.append (h : Accounts limit heard tag) (quiet : ∀ e ∈ more, e.running? = none) :
    Accounts limit (heard ++ more) tag := by
  rcases more.eq_nil_or_concat with rfl | ⟨first, last, rfl⟩
  · rwa [List.append_nil]
  have silent : last.running? = none := quiet last (by simp)
  refine ⟨?_, fun running same => ?_, fun running same => ?_⟩
  · have none {p : LimiterEvent → Bool} (uncounted : ∀ e ∈ first.concat last, p e = false) :
        (first.concat last).countP p = 0 :=
      List.countP_eq_zero.2 fun e mem => by simp [uncounted e mem]
    rw [List.countP_append, List.countP_append,
      none fun e mem => (not_dispatches (quiet e mem) tag).1,
      none fun e mem => (not_dispatches (quiet e mem) tag).2]
    exact h.within
  · rw [List.concat_eq_append, ← List.append_assoc, List.getLast?_concat] at same
    cases same
    cases silent
  · rw [List.concat_eq_append, ← List.append_assoc, List.getLast?_concat] at same
    cases same
    cases silent

end LimiterEvent

namespace Transcript
variable {x : Transcript} {start : System} {m : Move} {limit : Nat}

/-- All events that were told, in this order: what whoever hears each one first has heard. -/
def events (x : Transcript) : List LimiterEvent := x.signals.flatMap Signal.events

theorem plays_append (x : Transcript) (ms : List Move) (m : Move) :
    x.plays (ms ++ [m]) = (x.plays ms).play m :=
  List.foldl_concat ..

theorem toHistory_plays (x : Transcript) (ms : List Move) :
    (x.plays ms).toHistory = x.toHistory.plays ms := by
  induction ms generalizing x with
  | nil => rfl
  | cons m ms ih => exact ih (x.play m)

theorem events_play (x : Transcript) (m : Move) :
    (x.play m).events = x.events ++ (x.system.react m).signal.events := by
  simp [events, play]

/-- Events and marks agree, and no step of a slot is above a call that asks a runner outside. -/
structure Recounted (start : System) (x : Transcript) : Prop where
  dispatched : ∀ tag, x.events.countP (·.dispatches tag) = x.admission.marks.countP (Mark.accepts tag)
  finished : ∀ tag, x.events.countP (·.finishes tag) = x.admission.marks.countP (Mark.finishes tag)
  rests : ∀ f ∈ x.system.stack, f.restsUncounted
  asks : start.pool = none → x.system.pool = none ∧ x.system.AsksLast

theorem Recounted.play (h : x.Recounted start)
    (may : Conduct.deferring.Permits x.toHistory m) : (x.play m).Recounted start := by
  have told := x.system.react_recounts h.rests m
  have marks : (x.play m).admission.marks = x.admission.marks ++ (x.system.react m).marks :=
    List.flatMap_append
  refine ⟨fun tag => ?_, fun tag => ?_, told.rests h.rests, fun none => ?_⟩
  · rw [events_play, marks, List.countP_append, List.countP_append, h.dispatched, told.dispatched]
  · rw [events_play, marks, List.countP_append, List.countP_append, h.finished, told.finished]
  · obtain ⟨outside, last⟩ := h.asks none
    exact ⟨told.pool outside, System.react_asksLast last outside may⟩

theorem recounted (closed : start.stack = []) {ms : List Move}
    (kept : Conduct.deferring.Keeps ⟨start, []⟩ ms) :
    ((⟨⟨start, []⟩, []⟩ : Transcript).plays ms).Recounted start := by
  induction ms using List.reverseRecOn with
  | nil =>
      refine ⟨fun _ => rfl, fun _ => rfl, by simp [plays, closed], fun none => ⟨none, ?_⟩⟩
      simp [plays, System.AsksLast, closed]
  | append_singleton ms m ih =>
      have may := kept.rest.1
      rw [← toHistory_plays ⟨⟨start, []⟩, []⟩ ms] at may
      rw [plays_append]
      exact (ih kept.of_append).play may

/-- While a transition of a slot is told no runner is being asked. -/
theorem unasked_of_tells (begins : start.Begins) {ms : List Move}
    (recounted : ((⟨⟨start, []⟩, []⟩ : Transcript).plays ms).Recounted start)
    (frame : Frame) (below : List Frame) (tells : frame.tells = true)
    (top : ((⟨⟨start, []⟩, []⟩ : Transcript).plays ms).system.stack = frame :: below) :
    ((⟨⟨start, []⟩, []⟩ : Transcript).plays ms).admission.Unasked := by
  refine System.unasked_iff.2 fun f mem => ?_
  have apart : frame.asks = false ∧ frame.ofSlot = true := by
    cases frame <;> simp_all [Frame.tells, Frame.asks, Frame.ofSlot, Frame.pause?]
  cases hp : start.pool with
  | none =>
      have last := (recounted.asks hp).2
      rw [top] at mem
      rw [System.AsksLast, top, List.pairwise_cons] at last
      by_contra asks
      rcases List.mem_cons.1 mem with rfl | mem
      · exact asks apart.1
      · exact absurd (last.1 f mem (eq_true_of_ne_false asks)) (ne_false_of_eq_true apart.2)
  | some p =>
      obtain ⟨pool, -, lawful, -⟩ := History.lanes begins hp ms
      rw [← toHistory_plays (x := ⟨⟨start, []⟩, []⟩)] at lawful
      have none := List.countP_eq_zero.1 lawful.inside f mem
      cases f <;> simp_all [Frame.asks, Frame.asksOutside]

/-- The account is right when a transition that counts is told. -/
theorem accounts_of_told (recounted : x.Recounted start) (next : (x.play m).Recounted start)
    (before : x.admission.Accounted limit) (after : (x.play m).admission.Accounted limit)
    (few : x.admission.Countable limit) (few' : (x.play m).admission.Countable limit)
    (unasked : (x.play m).admission.Unasked) {e : LimiterEvent}
    (told : (x.system.react m).signal.events = [e])
    (running : ∀ own n, e.running? = some (own, n) → n = ((x.play m).admission.slot own).running)
    {tag : Tag} (within : x.events.countP (·.finishes tag) ≤ x.events.countP (·.dispatches tag)) :
    LimiterEvent.Accounts limit (x.events ++ [e]) tag := by
  have events : (x.play m).events = x.events ++ [e] := told ▸ x.events_play m
  obtain ⟨n, count, le, all⟩ := after.running few' tag
  obtain ⟨k, -, le', all'⟩ := before.running few tag
  rw [Admission.offerings_of_unasked unasked, ← next.dispatched, ← next.finished, events] at all
  rw [← recounted.dispatched, ← recounted.finished] at all'
  have runs : LimiterEvent.runs tag (x.events ++ [e]) = n := by
    rw [LimiterEvent.runs]
    omega
  refine ⟨by omega, fun r last => ?_, fun r last => ?_⟩
  · rw [List.getLast?_concat, Option.some.injEq] at last
    subst last
    have once : [LimiterEvent.dispatched tag r].countP (·.dispatches tag) = 1 := by
      simp [LimiterEvent.dispatches]
    have none : [LimiterEvent.dispatched tag r].countP (·.finishes tag) = 0 := rfl
    rw [List.countP_append, List.countP_append, once, none] at all
    rw [runs, running tag r rfl, count]
    exact ⟨rfl, by omega, le⟩
  · rw [List.getLast?_concat, Option.some.injEq] at last
    subst last
    have once : [LimiterEvent.finished tag r].countP (·.finishes tag) = 1 := by
      simp [LimiterEvent.finishes]
    have none : [LimiterEvent.finished tag r].countP (·.dispatches tag) = 0 := rfl
    rw [List.countP_append, List.countP_append, once, none] at all
    rw [runs, running tag r rfl, count]
    exact ⟨rfl, by omega⟩

/-- Whatever was heard by then, the account is right. -/
theorem accounts (begins : start.Begins) {ms : List Move}
    (kept : Conduct.deferring.Keeps ⟨start, []⟩ ms)
    (held : ∀ before, before <+: ms →
      ((⟨⟨start, []⟩, []⟩ : Transcript).plays before).admission.Accounted limit)
    (few : ((⟨⟨start, []⟩, []⟩ : Transcript).plays ms).admission.Countable limit)
    {heard : List LimiterEvent}
    (early : heard <+: ((⟨⟨start, []⟩, []⟩ : Transcript).plays ms).events) (tag : Tag) :
    LimiterEvent.Accounts limit heard tag := by
  have closed : start.stack = [] := by rw [begins.rest]
  induction ms using List.reverseRecOn generalizing heard with
  | nil =>
      rw [List.prefix_nil.1 early]
      exact LimiterEvent.accounts_nil limit tag
  | append_singleton ms m ih =>
      have after := held _ List.prefix_rfl
      have before := held ms (List.prefix_append ..)
      have next := recounted closed kept
      have recounted := recounted closed kept.of_append
      have apart := unasked_of_tells begins next
      rw [plays_append] at early next few after apart
      have fewer : ((⟨⟨start, []⟩, []⟩ : Transcript).plays ms).admission.Countable limit :=
        few.mono (History.tickets_le_plays _ [m])
      have earlier {heard : List LimiterEvent}
          (early : heard <+: ((⟨⟨start, []⟩, []⟩ : Transcript).plays ms).events) :
          LimiterEvent.Accounts limit heard tag :=
        ih kept.of_append (fun b sub => held b (sub.trans (List.prefix_append ..))) fewer early
      have told := ((⟨⟨start, []⟩, []⟩ : Transcript).plays ms).system.react_recounts recounted.rests m
      rw [events_play] at early
      obtain ⟨rest, split⟩ := early
      rcases List.append_eq_append_iff.1 split with ⟨more, all, -⟩ | ⟨more, rfl, signal⟩
      · exact earlier ⟨more, all.symm⟩
      rcases told.heard ⟨rest, signal.symm⟩ with quiet | ⟨e, rfl, alone, running, _, _, top, tells⟩
      · exact (earlier List.prefix_rfl).append quiet
      · exact accounts_of_told recounted next before after fewer few (apart _ _ tells top) alone
          running (earlier List.prefix_rfl).within

/-- The events are a faithful account of the running counts, as long as these can be counted exactly.
Of each tag, whatever was heard by then, no more works have finished than were dispatched; a dispatch
tells how many run by then, itself included, which is at least one and at most the limit; an end
tells how many are left, which is below the limit. -/
theorem events_account_for_running {s : System} (begins : s.Begins) {ms : List Move}
    (kept : Conduct.deferring.Keeps ⟨s, []⟩ ms) :
    let x := (⟨⟨s, []⟩, []⟩ : Transcript).plays ms
    ∃ limit : Nat, s.limiter.limit = some (.ofInt limit) ∧
      (limit ≤ Number.lastCount ∨ x.system.tickets ≤ Number.lastCount →
        ∀ heard, heard <+: x.events → ∀ tag, LimiterEvent.Accounts limit heard tag) := by
  intro x
  obtain ⟨limit, bound, accounted⟩ := History.accounted begins kept
  refine ⟨limit, bound, fun few heard early tag => ?_⟩
  refine accounts begins kept (fun before sub => ?_) few early tag
  rw [toHistory_plays]
  exact accounted before sub

/-- A listener of the first dispatch submits again, and so does one of its end, which takes the place
before the task that waits does. -/
def nestedSubmissions : List Move :=
  [.submit "t", .reply .accept, .submit "t", .reply (.heard none), .reply (.heard none),
    .start (.limited "t" 0), .reply (.task (.threw (.value .undefined))), .submit "t",
    .reply .accept, .reply (.heard none), .reply (.heard none), .reply (.heard none)]

theorem nested_submissions_are_told_in_order :
    let x := (⟨⟨.oneAtATime, []⟩, []⟩ : Transcript).plays nestedSubmissions
    x.events.filterMap LimiterEvent.running? = [("t", 1), ("t", 0), ("t", 1)] ∧
      ∀ heard, heard <+: x.events → LimiterEvent.Accounts 1 heard "t" := by
  intro x
  have deferring : Conduct.deferring.Keeps ⟨.oneAtATime, []⟩ nestedSubmissions := by decide +kernel
  obtain ⟨limit, bound, accounts⟩ := events_account_for_running System.oneAtATime_begins deferring
  obtain rfl : limit = 1 := by
    have same : Number.ofInt (1 : Nat) = .ofInt limit := Option.some.inj bound
    simpa using same.symm
  exact ⟨by decide +kernel, fun heard early => accounts (.inl (by decide)) heard early "t"⟩

end Transcript

end Turnstile
