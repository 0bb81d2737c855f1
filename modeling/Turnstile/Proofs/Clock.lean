import Turnstile.Proofs.Passages

/-!
What a reaction leaves as it is: the clock, the timers, and whether the pool has anything to do.

Most steps of the library are steady in all of that. Where a lane becomes free the pool may become
idle, and then its listeners are told so in the same step; nothing else makes a pool idle. Only moves
of the surroundings set timers or let time pass.
-/
namespace Turnstile

/-- The call of a task, or one that tells of a failed work. -/
def Frame.ofRun : Frame → Bool
  | .task _ | .taskError _ => true
  | _ => false

/-- There is a pool, and nothing runs or waits there. -/
def System.idle (s : System) : Bool := s.pool.any Pool.isIdle

namespace Reaction

/-- From `s` on no time has passed, the pool has not become idle, and nobody was told that it is or
that his time is up. -/
structure Steady (s : System) (r : Reaction) : Prop where
  clock : r.system.loop.now = s.loop.now
  timers : r.system.loop.timers = s.loop.timers
  busy : s.idle = false → r.system.idle = false
  silent : r.signal ≠ .call (.pool .idle)
  patient : ∀ waiter, .terminated waiter false ∉ r.notes

/-- From `s` on no time has passed and no timer was set, and the pool has become idle only if its
listeners are told. -/
structure Prompt (s : System) (r : Reaction) : Prop where
  clock : r.system.loop.now = s.loop.now
  timers : r.system.loop.timers ⊆ s.loop.timers
  told : r.signal = .call (.pool .idle) ∨ (s.idle = false → r.system.idle = false)
  patient : ∀ waiter, .terminated waiter false ∉ r.notes

variable {s t : System} {r : Reaction} {notes : List Note}

namespace Steady

theorem prompt (h : r.Steady s) : r.Prompt s where
  clock := h.clock
  timers := h.timers ▸ List.Subset.refl _
  told := .inr h.busy
  patient := h.patient

/-- A system that differs in other things serves as well. -/
theorem of_like (h : r.Steady t) (clock : t.loop.now = s.loop.now)
    (timers : t.loop.timers = s.loop.timers) (busy : s.idle = false → t.idle = false) :
    r.Steady s where
  clock := h.clock.trans clock
  timers := h.timers.trans timers
  busy working := h.busy (busy working)
  silent := h.silent
  patient := h.patient

theorem after (h : r.Steady s) (quiet : ∀ waiter, .terminated waiter false ∉ notes) :
    (r.after notes).Steady s :=
  { h with
    patient := fun waiter mem => (List.mem_append.1 mem).elim (quiet waiter) (h.patient waiter) }

theorem afterRecords {records : List Logging.Record} (h : r.Steady s) :
    (r.afterRecords records).Steady s :=
  h.after (by simp)

end Steady

namespace Prompt

theorem of_like (h : r.Prompt t) (clock : t.loop.now = s.loop.now)
    (timers : t.loop.timers = s.loop.timers) (busy : s.idle = false → t.idle = false) :
    r.Prompt s where
  clock := h.clock.trans clock
  timers := timers ▸ h.timers
  told := h.told.imp_right fun busier working => busier (busy working)
  patient := h.patient

theorem after (h : r.Prompt s) (quiet : ∀ waiter, .terminated waiter false ∉ notes) :
    (r.after notes).Prompt s :=
  { h with
    patient := fun waiter mem => (List.mem_append.1 mem).elim (quiet waiter) (h.patient waiter) }

theorem afterRecords {records : List Logging.Record} (h : r.Prompt s) :
    (r.afterRecords records).Prompt s :=
  h.after (by simp)

end Prompt
end Reaction

namespace System
variable (s : System) {pool : Pool}

theorem idle_of_pool {s : System} (hp : s.pool = some pool) : s.idle = pool.isIdle := by
  rw [idle, hp, Option.any_some]

theorem not_idle_of_active {s : System} (hp : s.pool = some pool) (active : 0 < pool.active) :
    s.idle = false := by
  rw [idle_of_pool hp, Pool.isIdle, beq_false_of_ne (Nat.ne_of_gt active), Bool.false_and]

theorem not_idle_of_backlog {s : System} (hp : s.pool = some pool) (left : pool.backlog ≠ []) :
    s.idle = false := by
  rw [idle_of_pool hp, Pool.isIdle, List.isEmpty_eq_false_iff.2 left, Bool.and_false]

theorem returned_steady : s.returned.Steady s where
  clock := rfl
  timers := rfl
  busy := id
  silent := by simp [returned]
  patient := by simp [returned]

theorem ignored_steady : s.ignored.Steady s where
  clock := rfl
  timers := rfl
  busy := id
  silent := by simp [ignored]
  patient := by simp [ignored]

theorem callOut_steady (frame : Frame) {call : Call} (other : call ≠ .pool .idle) :
    (s.callOut frame call).Steady s where
  clock := rfl
  timers := rfl
  busy := id
  silent := by simpa [callOut] using other
  patient := by simp [callOut]

theorem schedulePump_loop (pool : Pool) : (s.schedulePump pool).loop.now = s.loop.now ∧
    (s.schedulePump pool).loop.timers = s.loop.timers := by
  rw [schedulePump]
  split <;> exact ⟨rfl, rfl⟩

theorem pump_steady : s.pump.Steady s := by
  rw [pump]
  split
  · rename_i work later next
    obtain ⟨pool, -, found⟩ := Option.bind_eq_some_iff.1 next
    obtain ⟨-, rest, -, rfl⟩ := Pool.next?_eq_some found
    refine .after ((callOut_steady (s.setPool _) _ (by simp)).of_like rfl rfl fun _ => ?_) (by simp)
    exact not_idle_of_active rfl (Nat.succ_pos _)
  · exact s.returned_steady

theorem leave_steady (inPump : Bool) : (s.leave inPump).Steady s := by
  cases inPump with
  | true => exact s.pump_steady
  | false => exact s.returned_steady

theorem clear_timers_subset (l : EventLoop) (waiters : List Waiter) :
    (l.clear waiters).timers ⊆ l.timers :=
  List.filter_subset_self _

/-- A free lane makes the pool idle only where its listeners are told. -/
theorem freeLane_prompt (pool : Pool) (inPump : Bool) : (s.freeLane pool inPump).Prompt s := by
  rw [freeLane_eq]
  refine .afterRecords ?_
  split
  · rename_i left
    have busy : (s.schedulePump pool.free.1).idle = false :=
      not_idle_of_backlog (s.schedulePump_pool _) (by simpa using left)
    obtain ⟨clock, timers⟩ := s.schedulePump_loop pool.free.1
    exact (leave_steady _ inPump).prompt.of_like clock timers fun _ => busy
  · split
    · rename_i busy
      exact (leave_steady (s.setPool pool.free.1) inPump).prompt.of_like rfl rfl fun _ =>
        not_idle_of_active rfl busy
    · exact {
        clock := rfl
        timers := clear_timers_subset ..
        told := .inl rfl
        patient := by simp [becomeIdle, Reaction.after, callOut] }

theorem endLane_prompt {s : System} (hp : s.pool = some pool) (outcome : Outcome) (inPump : Bool) :
    (s.endLane pool outcome inPump).Prompt s := by
  cases outcome with
  | fulfilled => exact s.freeLane_prompt pool inPump
  | rejected e =>
      refine (Reaction.Steady.afterRecords ?_).prompt
      refine (callOut_steady (s.setPool (pool.fail e).1) _ (by simp)).of_like rfl rfl fun busy => ?_
      rwa [idle_of_pool hp] at busy

theorem goOn_prompt (run : Run) (outcome : Outcome) (inPump : Bool) :
    (s.goOn run outcome inPump).Prompt s := by
  rw [goOn]
  refine .after ?_ (by simp)
  split
  · rename_i pool _ hp
    exact endLane_prompt hp outcome inPump
  · exact s.returned_steady.prompt

section Slots
variable (tag : Tag) (ticket : Ticket) (purpose : Purpose)

theorem announce_steady (report : Slot.Report) : (s.announce tag purpose report).Steady s := by
  refine .afterRecords (.after ?_ (by simp))
  exact (callOut_steady ({ s with limiter := _ }) _ (by simp)).of_like rfl rfl id

theorem finishStep_steady (queued : Bool) : (s.finishStep tag purpose queued).Steady s := by
  cases purpose with
  | submit ticket =>
      exact {
        clock := rfl
        timers := rfl
        busy := id
        silent := by simp [finishStep]
        patient := by simp [finishStep] }
  | complete => exact s.returned_steady
  | conclude run outcome inCall =>
      exact .after ((leave_steady (s.pushJob _) _).of_like rfl rfl id) (by simp)

theorem accepted_steady : (s.accepted tag ticket purpose).Steady s :=
  .after (s.announce_steady tag purpose _) (by simp)

theorem offer_steady : (s.offer tag ticket purpose).Steady s := by
  rw [offer]
  refine .after ?_ (by simp)
  split
  · exact s.callOut_steady _ (by simp)
  · split
    · rename_i later taken
      obtain ⟨-, rfl⟩ := Pool.accept_eq_ok taken
      obtain ⟨clock, timers⟩ := s.schedulePump_loop _
      refine (accepted_steady _ tag ticket purpose).of_like clock timers fun _ => ?_
      exact not_idle_of_backlog (s.schedulePump_pool _) (by simp)
    · exact s.announce_steady tag purpose _

theorem follow_steady (p : Slot.Progress) : (s.follow tag purpose p).Steady s := by
  cases p with
  | report r => exact s.announce_steady tag purpose r
  | offer slot records ticket =>
      exact .afterRecords ((offer_steady (s.setSlot tag slot) tag ticket purpose).of_like rfl rfl id)
  | done slot records queued =>
      exact .afterRecords ((finishStep_steady (s.setSlot tag slot) tag purpose queued).of_like rfl
        rfl id)

theorem conclude_steady (starter : Starter) (outcome : Outcome) (inCall : Bool) :
    (s.conclude tag ticket starter outcome inCall).Steady s :=
  .after (s.announce_steady tag _ _) (by simp)

end Slots

theorem await_like (promise : Promise) (run : Run) :
    (s.await promise run).loop.now = s.loop.now ∧
      (s.await promise run).loop.timers = s.loop.timers ∧ (s.await promise run).pool = s.pool := by
  rw [await]
  split <;> exact ⟨rfl, rfl, rfl⟩

theorem settle_like (promise : Promise) (outcome : Outcome) :
    (s.settle promise outcome).loop.now = s.loop.now ∧
      (s.settle promise outcome).loop.timers = s.loop.timers ∧
      (s.settle promise outcome).pool = s.pool := by
  rw [settle]
  split <;> exact ⟨rfl, rfl, rfl⟩

theorem taskReturned_prompt (run : Run) (result : TaskReturn) :
    (s.taskReturned run result).Prompt s := by
  cases result with
  | settled outcome =>
      exact (leave_steady (s.pushJob _) _).prompt.of_like rfl rfl id
  | later promise =>
      obtain ⟨clock, timers, pool⟩ := s.await_like promise run
      refine (leave_steady _ _).prompt.of_like clock timers fun busy => ?_
      rwa [idle, pool]
  | threw e =>
      rw [taskReturned.eq_def]
      dsimp only
      split
      · exact (s.conclude_steady _ _ _ _ _).prompt
      · exact s.goOn_prompt _ _ _
      · exact (returned_steady (s.pushJob _)).prompt.of_like rfl rfl id

/-- Where no task comes back and no failed work was told, all stays as it is. -/
theorem goOnFrom_steady {s : System} {frame : Frame} {reply : Reply} {r : Reaction}
    (h : s.goOnFrom frame reply = some r) (other : frame.ofRun = false) : r.Steady s := by
  unfold goOnFrom at h
  split at h <;> cases h
  · exact .afterRecords (s.callOut_steady _ (by simp))
  · exact .afterRecords (s.follow_steady _ _ _)
  · exact s.accepted_steady _ _ _
  · exact s.announce_steady _ _ _
  · exact .after s.returned_steady (by simp)
  · exact {
      clock := rfl
      timers := rfl
      busy := id
      silent := by simp
      patient := by simp }
  · cases other
  · cases other
  · exact .afterRecords (s.leave_steady _)

theorem goOnFrom_prompt {s : System} {frame : Frame} {reply : Reply} {r : Reaction}
    (h : s.goOnFrom frame reply = some r) : r.Prompt s := by
  cases other : frame.ofRun with
  | false => exact (goOnFrom_steady h other).prompt
  | true =>
      unfold goOnFrom at h
      split at h <;> cases h <;> try cases other
      · exact s.taskReturned_prompt _ _
      · refine .afterRecords ?_
        split
        · exact s.freeLane_prompt _ _
        · exact s.returned_steady.prompt

theorem reply_prompt (reply : Reply) : (s.reply reply).Prompt s := by
  rw [System.reply]
  split
  · rename_i frame rest _
    cases hr : ({ s with stack := rest } : System).goOnFrom frame reply with
    | some r => exact (goOnFrom_prompt hr).of_like rfl rfl id
    | none => exact s.ignored_steady.prompt
  · exact s.ignored_steady.prompt

theorem runJob_prompt : s.runJob.Prompt s := by
  rw [runJob]
  split
  · rename_i job rest _ _
    cases job with
    | conclude tag ticket starter outcome =>
        exact (conclude_steady _ tag ticket starter outcome false).prompt.of_like rfl rfl id
    | goOn run outcome => exact (goOn_prompt _ run outcome false).of_like rfl rfl id
  · exact s.ignored_steady.prompt

theorem runImmediate_steady : s.runImmediate.Steady s := by
  rw [runImmediate]
  split
  · rename_i immediate rest _ hi
    split
    · refine (pump_steady _).of_like rfl rfl fun busy => ?_
      cases hp : s.pool <;> simp_all [idle, Pool.isIdle, Pool.pumpBegun]
    · exact (returned_steady _).of_like rfl rfl id
    · rename_i promise
      obtain ⟨clock, timers, pool⟩ := settle_like
        { s with loop := { s.loop with immediates := rest } } promise .fulfilled
      refine (returned_steady _).of_like clock timers fun busy => ?_
      rwa [idle, pool]
  · exact s.ignored_steady

theorem execute_steady : s.execute.Steady s := by
  rw [execute]
  refine .after ?_ (by simp)
  split
  · exact (callOut_steady _ _ (by simp)).of_like rfl rfl id
  · split
    · rename_i later taken
      obtain ⟨-, rfl⟩ := Pool.accept_eq_ok taken
      obtain ⟨clock, timers⟩ := schedulePump_loop { s with tickets := s.tickets + 1 } _
      refine (Reaction.Steady.after (returned_steady _) (by simp)).of_like clock timers fun _ => ?_
      exact not_idle_of_backlog (schedulePump_pool _ _) (by simp)
    · exact {
        clock := rfl
        timers := rfl
        busy := id
        silent := by simp
        patient := by simp }

theorem shutdown_steady : s.shutdown.Steady s := by
  rw [shutdown]
  split
  · rename_i pool hp
    have returned := returned_steady (s.setPool pool.shutdown.1)
    refine .afterRecords (returned.of_like rfl rfl fun busy => ?_)
    rwa [idle_of_pool rfl, Pool.shutdown_isIdle, ← idle_of_pool hp]
  · exact s.ignored_steady

theorem overwrite_steady (tag : Tag) (running : Number) : (s.overwrite tag running).Steady s := by
  rw [overwrite]
  split
  · exact (returned_steady (s.setSlot tag _)).of_like rfl rfl id
  · exact s.ignored_steady

theorem start_steady (work : Work) : (s.start work).Steady s := by
  rw [start]
  split
  · exact s.ignored_steady
  · exact .after (s.callOut_steady _ (by simp)) (by simp)

/-- The pool is as idle after a call that waits as before it. -/
theorem awaitTermination_idle (ms : Number) : (s.awaitTermination ms).system.idle = s.idle := by
  rw [awaitTermination]
  split
  · rfl
  · rename_i pool hp
    dsimp only
    split
    · rfl
    · rw [idle_of_pool hp]
      rfl

end System

/-- Whether a move sets a timer or lets time pass. -/
def Move.dates : Move → Bool
  | .awaitTermination _ | .delay .. | .timer | .elapse _ => true
  | _ => false

namespace System
variable (s : System)

/-- All moves but those that have to do with time leave the clock and the timers. -/
theorem react_prompt {m : Move} (undated : m.dates = false) : (s.react m).Prompt s := by
  cases m with
  | submit tag =>
      have entered : (s.submit tag).Steady s :=
        .after ((follow_steady _ _ _ _).of_like rfl rfl id) (by simp)
      exact entered.prompt
  | complete tag =>
      rw [react]
      split
      · exact (s.announce_steady _ _ _).prompt
      · exact s.ignored_steady.prompt
  | overwrite tag running => exact (s.overwrite_steady tag running).prompt
  | execute => exact s.execute_steady.prompt
  | start work => exact (s.start_steady work).prompt
  | shutdown => exact s.shutdown_steady.prompt
  | reply reply => exact s.reply_prompt reply
  | settle promise outcome =>
      obtain ⟨clock, timers, pool⟩ := s.settle_like promise outcome
      refine (returned_steady _).prompt.of_like clock timers fun busy => ?_
      rwa [idle, pool]
  | countdown promise immediates => exact (returned_steady _).prompt.of_like rfl rfl id
  | job => exact s.runJob_prompt
  | immediate => exact s.runImmediate_steady.prompt
  | awaitTermination | delay | timer | elapse => cases undated

/-- Moves that have to do with time make no pool idle. -/
theorem react_idle_of_dates {m : Move} (dated : m.dates = true) :
    (s.react m).system.idle = s.idle ∧ (s.react m).signal ≠ .call (.pool .idle) := by
  cases m with
  | awaitTermination ms =>
      refine ⟨s.awaitTermination_idle ms, ?_⟩
      rw [react, awaitTermination]
      split
      · simp [ignored]
      · dsimp only
        split <;> simp [returned, Reaction.after]
  | delay promise ms => exact ⟨rfl, by simp [react, returned]⟩
  | timer =>
      rw [react, runTimer]
      split
      · rename_i promise loop _ _
        obtain ⟨-, -, pool⟩ := settle_like { s with loop } promise .fulfilled
        exact ⟨by simp [returned, idle, pool], by simp [returned]⟩
      · refine ⟨?_, by simp [returned, Reaction.after]⟩
        cases hp : s.pool <;> simp [returned, Reaction.after, idle, hp, Pool.isIdle, Pool.giveUp]
      · exact ⟨rfl, by simp [ignored]⟩
  | elapse ms =>
      rw [react, elapse]
      split
      · exact ⟨rfl, by simp [returned]⟩
      · exact ⟨rfl, by simp [ignored]⟩
  | submit | complete | overwrite | execute | start | shutdown | reply | settle | countdown | job
  | immediate => cases dated

/-- A pool that had something to do is still busy after a move, or its listeners are told that it has
become idle. -/
theorem react_told (m : Move) : (s.react m).signal = .call (.pool .idle) ∨
    (s.idle = false → (s.react m).system.idle = false) := by
  cases dated : m.dates with
  | false => exact (s.react_prompt dated).told
  | true => exact .inr fun busy => (s.react_idle_of_dates dated).1.trans busy

/-- Who tells that the pool is idle has just freed a lane, for a run that was still there. -/
theorem busy_of_told {m : Move} (told : (s.react m).signal = .call (.pool .idle)) :
    0 < s.runs.card + s.stack.countP Frame.tellsFailure := by
  cases dated : m.dates with
  | true => exact absurd told (s.react_idle_of_dates dated).2
  | false =>
      cases m with
      | submit tag =>
          have entered : (s.submit tag).Steady s :=
            .after ((follow_steady _ _ _ _).of_like rfl rfl id) (by simp)
          exact absurd told entered.silent
      | complete tag =>
          rw [react] at told
          split at told
          · exact absurd told (s.announce_steady _ _ _).silent
          · exact absurd told s.ignored_steady.silent
      | overwrite tag running => exact absurd told (s.overwrite_steady tag running).silent
      | execute => exact absurd told s.execute_steady.silent
      | start work => exact absurd told (s.start_steady work).silent
      | shutdown => exact absurd told s.shutdown_steady.silent
      | reply reply =>
          rw [react, System.reply] at told
          split at told
          · rename_i frame rest hs
            cases hr : ({ s with stack := rest } : System).goOnFrom frame reply with
            | some r =>
                rw [hr] at told
                cases other : frame.ofRun with
                | false => exact absurd told (goOnFrom_steady hr other).silent
                | true =>
                    cases frame with
                    | task run => simp [runs, hs, Frame.run?]
                    | taskError inPump => simp [hs, Frame.tellsFailure]
                    | message | offer | hand | idle => cases other
            | none =>
                rw [hr] at told
                exact absurd told s.ignored_steady.silent
          · exact absurd told s.ignored_steady.silent
      | settle => simp [react, returned] at told
      | countdown => simp [react, returned] at told
      | job =>
          rw [react, runJob] at told
          split at told
          · rename_i job rest _ hj
            simp [runs, hj]
          · exact absurd told s.ignored_steady.silent
      | immediate => exact absurd told s.runImmediate_steady.silent
      | awaitTermination | delay | timer | elapse => cases dated

/-- The time of the call that waits is up: its timer is the next one to fire. -/
def timesOut (waiter : Waiter) : Prop :=
  s.quiet = true ∧ s.loop.fire?.map Prod.fst = some (.giveUp waiter)

instance (waiter : Waiter) : Decidable (s.timesOut waiter) :=
  inferInstanceAs (Decidable (_ ∧ _))

/-- A call is told that its time is up by its timer, and by nothing else. -/
theorem mem_notes_timesOut {m : Move} {waiter : Waiter} :
    .terminated waiter false ∈ (s.react m).notes ↔ m = .timer ∧ s.timesOut waiter := by
  constructor
  · intro mem
    cases dated : m.dates with
    | false => exact absurd mem ((s.react_prompt dated).patient waiter)
    | true =>
        cases m with
        | timer =>
            rw [react, runTimer] at mem
            split at mem
            · simp [returned] at mem
            · rename_i own loop quiet fired
              obtain rfl : waiter = own := by simpa [returned, Reaction.after] using mem
              exact ⟨rfl, quiet, by rw [fired, Option.map_some]⟩
            · simp [ignored] at mem
        | awaitTermination ms =>
            rw [react, awaitTermination] at mem
            split at mem
            · simp [ignored] at mem
            · dsimp only at mem
              split at mem <;> simp [returned, Reaction.after] at mem
        | delay promise ms => simp [react, returned] at mem
        | elapse ms =>
            rw [react, elapse] at mem
            split at mem <;> simp [returned, ignored] at mem
        | submit | complete | overwrite | execute | start | shutdown | reply | settle | countdown
        | job | immediate => cases dated
  · rintro ⟨rfl, quiet, up⟩
    obtain ⟨⟨alarm, loop⟩, fired, same⟩ := Option.map_eq_some_iff.1 up
    obtain rfl : alarm = .giveUp waiter := same
    simp [react, runTimer, quiet, fired, Reaction.after, returned]

/-- No timer is overdue. -/
def Punctual : Prop := ∀ timer ∈ s.loop.timers, s.loop.now ≤ timer.due

theorem eq_nil_of_first? {timers : List Timer} (h : EventLoop.first? timers = none) :
    timers = [] := by
  cases timers with
  | nil => rfl
  | cons head rest =>
      rw [EventLoop.first?] at h
      split at h
      · split at h <;> cases h
      · cases h

theorem first?_le {timers : List Timer} {timer other : Timer}
    (h : EventLoop.first? timers = some timer) (mem : other ∈ timers) : timer.due ≤ other.due := by
  induction timers generalizing timer other with
  | nil => cases mem
  | cons head rest ih =>
      rw [EventLoop.first?] at h
      cases hl : EventLoop.first? rest with
      | some later =>
          have least : timer.due ≤ head.due ∧ timer.due ≤ later.due := by
            simp only [hl] at h
            split at h <;> cases h <;> omega
          rcases List.mem_cons.1 mem with rfl | mem
          · exact least.1
          · exact least.2.trans (ih hl mem)
      | none =>
          simp only [hl, Option.some_inj] at h
          rw [eq_nil_of_first? hl, List.mem_singleton] at mem
          rw [← h, mem]

/-- The timer that fires is the one that is due first, and the clock comes to its time. -/
theorem fire?_eq_some {l later : EventLoop} {alarm : Alarm} (h : l.fire? = some (alarm, later)) :
    ∃ timer ∈ l.timers, timer.alarm = alarm ∧ later.now = max l.now timer.due ∧
      later.timers = l.timers.erase timer ∧ ∀ other ∈ l.timers, timer.due ≤ other.due := by
  obtain ⟨timer, first, fired⟩ := Option.map_eq_some_iff.1 h
  cases fired
  exact ⟨timer, mem_of_first? first, rfl, rfl, rfl, fun other mem => first?_le first mem⟩

theorem react_elapse (ms : Nat) : (s.react (.elapse ms)).system.loop.timers = s.loop.timers ∧
    (s.Punctual → (s.react (.elapse ms)).system.Punctual) := by
  rw [react, elapse]
  split
  · rename_i loop _ hl
    rw [EventLoop.elapse?] at hl
    split at hl <;> cases hl
    rename_i early
    rw [List.all_eq_true] at early
    refine ⟨rfl, fun _ timer mem => ?_⟩
    exact (of_decide_eq_true (early timer mem)).le
  · exact ⟨rfl, id⟩

/-- A call that waits sets its timer, which stands for no call that was there before. -/
theorem react_awaitTermination (ms : Number) :
    (s.react (.awaitTermination ms)).system.loop.now = s.loop.now ∧
      ∀ timer ∈ (s.react (.awaitTermination ms)).system.loop.timers,
        timer ∈ s.loop.timers ∨ timer = ⟨s.loop.now + EventLoop.delay ms, .giveUp s.waits⟩ := by
  rw [react, awaitTermination]
  split
  · exact ⟨rfl, fun timer mem => .inl mem⟩
  · dsimp only
    split
    · exact ⟨rfl, fun timer mem => .inl mem⟩
    · refine ⟨rfl, fun timer mem => ?_⟩
      simpa [returned, EventLoop.arm] using mem

theorem react_timer : (s.react .timer).system.loop.timers ⊆ s.loop.timers ∧
    (s.Punctual → (s.react .timer).system.Punctual) := by
  have fired {alarm : Alarm} {loop : EventLoop} (h : s.loop.fire? = some (alarm, loop)) :
      loop.timers ⊆ s.loop.timers ∧
        (s.Punctual → ∀ timer ∈ loop.timers, loop.now ≤ timer.due) := by
    obtain ⟨timer, -, -, now, rest, least⟩ := fire?_eq_some h
    have fewer : loop.timers ⊆ s.loop.timers := rest ▸ List.erase_subset
    refine ⟨fewer, fun punctual other mem => ?_⟩
    rw [now]
    exact max_le (punctual other (fewer mem)) (least other (fewer mem))
  rw [react, runTimer]
  split
  · rename_i promise loop _ hl
    obtain ⟨clock, timers, -⟩ := settle_like { s with loop } promise .fulfilled
    simp only [returned, Punctual, clock, timers]
    exact fired hl
  · rename_i hl
    exact fired hl
  · exact ⟨List.Subset.refl _, id⟩

/-- Timers are set by calls that wait and by tasks; one of a call that waits is set by that call. -/
theorem react_timers {m : Move} {timer : Timer}
    (mem : timer ∈ (s.react m).system.loop.timers) :
    timer ∈ s.loop.timers ∨ ∀ waiter < s.waits, timer.alarm ≠ .giveUp waiter := by
  cases dated : m.dates with
  | false => exact .inl ((s.react_prompt dated).timers mem)
  | true =>
      cases m with
      | awaitTermination ms =>
          refine ((s.react_awaitTermination ms).2 timer mem).imp_right ?_
          rintro rfl waiter before same
          cases same
          exact Nat.lt_irrefl _ before
      | delay promise ms =>
          have armed : timer ∈ s.loop.timers ∨ timer = ⟨s.loop.now + EventLoop.delay ms,
              .settle promise⟩ := by simpa [react, returned, EventLoop.arm] using mem
          refine armed.imp_right ?_
          rintro rfl waiter - same
          cases same
      | timer => exact .inl (s.react_timer.1 mem)
      | elapse ms => exact .inl ((s.react_elapse ms).1 ▸ mem)
      | submit | complete | overwrite | execute | start | shutdown | reply | settle | countdown
      | job | immediate => cases dated

theorem react_punctual {s : System} (punctual : s.Punctual) (m : Move) :
    (s.react m).system.Punctual := by
  cases dated : m.dates with
  | false =>
      intro timer mem
      rw [(s.react_prompt dated).clock]
      exact punctual timer ((s.react_prompt dated).timers mem)
  | true =>
      cases m with
      | awaitTermination ms =>
          obtain ⟨clock, timers⟩ := s.react_awaitTermination ms
          intro timer mem
          rw [clock]
          rcases timers timer mem with old | rfl
          · exact punctual timer old
          · exact Nat.le_add_right _ _
      | delay promise ms =>
          intro timer mem
          have armed : timer ∈ s.loop.timers ∨ timer = ⟨s.loop.now + EventLoop.delay ms,
              .settle promise⟩ := by simpa [react, returned, EventLoop.arm] using mem
          rcases armed with old | rfl
          · exact punctual timer old
          · exact Nat.le_add_right _ _
      | timer => exact s.react_timer.2 punctual
      | elapse ms => exact (s.react_elapse ms).2 punctual
      | submit | complete | overwrite | execute | start | shutdown | reply | settle | countdown
      | job | immediate => cases dated

end System
end Turnstile
