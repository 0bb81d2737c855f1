import Turnstile.Proofs.Reactions
import Turnstile.Proofs.Traffic

/-!
Every reaction of a system with a pool is a chain of steps of the pool's side, and whenever it tells
somebody that the pool is idle, the pool is so by its end. The theorems follow the functions that
make up a reaction, from the innermost one outwards.
-/
namespace Turnstile
open Traffic

namespace Traffic

/-- A pump goes on afterwards, or not. -/
@[simps]
def inPump (t : Traffic) (inPump : Bool) : Traffic :=
  { t with pumping := t.pumping + inPump.toNat }

/-- One more run is on the way. -/
@[simps]
def hold (t : Traffic) (run : Run) : Traffic := { t with runs := run ::ₘ t.runs }

/-- A step of a slot is on the way. -/
def inStep (t : Traffic) : Purpose → Traffic
  | .conclude run _ inCall => (t.hold run).inPump (inCall && run.starter == .lane)
  | _ => t

theorem inStep_eq (t : Traffic) (purpose : Purpose) :
    t.inStep purpose =
      { t with
        runs := ↑purpose.run?.toList + t.runs
        pumping := t.pumping + purpose.pumps.toNat } := by
  cases purpose with
  | conclude run outcome inCall =>
      simp [inStep, inPump, hold, Purpose.run?, Purpose.pumps, Multiset.singleton_add]
  | submit | complete => simp [inStep, Purpose.run?, Purpose.pumps]

theorem push_message (t : Traffic) (tag : Tag) (message : Message) (rest : List Message)
    (resume : Slot.Resume) (purpose : Purpose) :
    t.push (.message tag message rest resume purpose) = t.inStep purpose :=
  (t.inStep_eq purpose).symm

end Traffic

namespace Reaction
variable {t u : Traffic} {before : List Stamp} {r : Reaction} {notes : List Note}

def stamps (r : Reaction) : List Stamp := r.notes.flatMap Note.stamps

@[simp] theorem stamps_after (notes : List Note) (r : Reaction) :
    (r.after notes).stamps = notes.flatMap Note.stamps ++ r.stamps := by
  simp [stamps, after]

@[simp] theorem stamps_records (records : List Logging.Record) :
    (records.map Note.record).flatMap Note.stamps = [] := by
  simp [List.flatMap_map, Note.stamps]

/-- Listeners or callers that wait are told that the pool is idle. -/
def TellsIdle (r : Reaction) : Prop :=
  r.signal = .call (.pool .idle) ∨ ∃ waiter, .terminated waiter true ∈ r.stamps

/-- From `t` on the reaction is a chain of steps, if these stamps were there before it. -/
def Passes (t : Traffic) (before : List Stamp) (r : Reaction) : Prop :=
  ∃ pool, r.system.pool = some pool ∧
    Steps t (r.system.traffic pool (before ++ r.stamps)) ∧ (r.TellsIdle → pool.isIdle = true)

namespace Passes

theorem head (steps : Steps t u) (h : r.Passes u before) : r.Passes t before := by
  obtain ⟨pool, hp, later, told⟩ := h
  exact ⟨pool, hp, steps.trans later, told⟩

theorem after (h : r.Passes t (before ++ notes.flatMap Note.stamps))
    (quiet : ∀ waiter, .terminated waiter true ∉ notes.flatMap Note.stamps) :
    (r.after notes).Passes t before := by
  obtain ⟨pool, hp, steps, told⟩ := h
  refine ⟨pool, hp, by simpa using steps, fun tells => told (tells.imp_right ?_)⟩
  rintro ⟨waiter, mem⟩
  rw [stamps_after, List.mem_append] at mem
  exact ⟨waiter, mem.resolve_left (quiet waiter)⟩

/-- Notes without stamps make no difference. -/
theorem afterSilent (h : r.Passes t before) (silent : notes.flatMap Note.stamps = []) :
    (r.after notes).Passes t before :=
  after (by simpa [silent] using h) (by simp [silent])

theorem afterRecords {records : List Logging.Record} (h : r.Passes t before) :
    (r.afterRecords records).Passes t before :=
  h.afterSilent (by simp)

end Passes
end Reaction

namespace System
variable {s : System} {pool : Pool} (before : List Stamp)

theorem traffic_push (s : System) (pool : Pool) (stamps : List Stamp) (frame : Frame) :
    ({ s with stack := frame :: s.stack } : System).traffic pool stamps =
      (s.traffic pool stamps).push frame := by
  cases hr : frame.run? <;> cases hf : frame.tellsFailure <;> cases hp : frame.pumps <;>
    cases ho : frame.asksOutside <;>
      simp [traffic, Traffic.push, runs, hr, hf, hp, ho, ← Multiset.cons_coe]

/-- A reaction without notes that leaves the system as it is and tells nobody that it is idle. -/
theorem passes_of_pool {signal : Signal} (hp : s.pool = some pool)
    (quiet : signal ≠ .call (.pool .idle)) :
    ({ system := s, signal } : Reaction).Passes (s.traffic pool before) before := by
  refine ⟨pool, hp, .of_eq ?_, fun tells => ?_⟩
  · simp [Reaction.stamps]
  · rcases tells with told | ⟨waiter, mem⟩
    · exact absurd told quiet
    · simp [Reaction.stamps] at mem

theorem returned_passes (hp : s.pool = some pool) :
    s.returned.Passes (s.traffic pool before) before :=
  passes_of_pool _ hp (by simp)

theorem ignored_passes (hp : s.pool = some pool) :
    s.ignored.Passes (s.traffic pool before) before :=
  passes_of_pool _ hp (by simp)

theorem callOut_passes {frame : Frame} {call : Call} (hp : s.pool = some pool)
    (quiet : Signal.call call ≠ .call (.pool .idle)) :
    (s.callOut frame call).Passes ((s.traffic pool before).push frame) before := by
  rw [← traffic_push]
  exact passes_of_pool _ hp quiet

theorem traffic_pushJob (job : Job) :
    (s.pushJob job).traffic pool before = (s.traffic pool before).hold job.run := by
  simp [traffic, pushJob, EventLoop.pushJob, runs, hold, ← Multiset.coe_add, ← add_assoc,
    ← Multiset.singleton_add, add_comm]

theorem schedulePump_pool (s : System) (pool : Pool) :
    (s.schedulePump pool).pool = some { pool with pumpScheduled := true } := by
  unfold schedulePump
  split
  · rename_i scheduled
    rw [← scheduled]
    rfl
  · rfl

theorem traffic_schedulePump (s : System) (pool : Pool) (stamps : List Stamp) :
    (s.schedulePump pool).traffic { pool with pumpScheduled := true } stamps =
      (s.traffic pool stamps).schedule := by
  unfold schedulePump
  cases h : pool.pumpScheduled <;>
    simp [traffic, Traffic.schedule, runs, EventLoop.pushImmediate, setPool, h, Immediate.isPump]

theorem pump_passes (hp : s.pool = some pool) :
    s.pump.Passes ((s.traffic pool before).inPump true) before := by
  rw [pump, hp, Option.bind_some]
  cases next : pool.next? with
  | none => exact .head (.single (.stop rfl next)) (returned_passes _ hp)
  | some found =>
      obtain ⟨work, rest⟩ := found
      refine .after (.head (.single (.start (Nat.succ_pos _) next)) ?_) (by simp [Note.stamps])
      exact callOut_passes (s := s.setPool rest) _ rfl (by simp)

theorem leave_passes (hp : s.pool = some pool) (inPump : Bool) :
    (s.leave inPump).Passes ((s.traffic pool before).inPump inPump) before := by
  cases inPump with
  | true => exact pump_passes _ hp
  | false => exact returned_passes _ hp

/-- Clearing the timers of some who wait leaves those of the others. -/
theorem waiters_clear (l : EventLoop) (waiters : List Waiter) :
    ((l.clear waiters).timers.filterMap fun timer => timer.alarm.waiter?) =
      (l.timers.filterMap fun timer => timer.alarm.waiter?).filter (· ∉ waiters) := by
  simp only [EventLoop.clear]
  induction l.timers with
  | nil => rfl
  | cons timer rest ih =>
      obtain ⟨due, alarm⟩ := timer
      cases alarm with
      | settle promise => simpa [Alarm.waiter?] using ih
      | giveUp waiter =>
          have same : (waiters.any fun w => Alarm.giveUp waiter == .giveUp w) =
              decide (waiter ∈ waiters) := by
            rw [Bool.eq_iff_iff]
            simp
          rw [List.filter_cons, same]
          by_cases mem : waiter ∈ waiters <;> simpa [Alarm.waiter?, mem] using ih

theorem traffic_clear (s : System) (pool : Pool) :
    ({ s with pool := some { pool with waiters := [] }, loop := s.loop.clear pool.waiters } :
        System).traffic { pool with waiters := [] }
          (before ++ pool.waiters.map (Stamp.terminated · true)) =
      (s.traffic pool before).idle := by
  have alarms := congrArg Multiset.ofList (waiters_clear s.loop pool.waiters)
  simp only [traffic, Traffic.idle, alarms]
  rfl

theorem becomeIdle_passes (s : System) {pool : Pool} (inPump : Bool) (lanes : pool.active = 0)
    (queue : pool.backlog = []) :
    (s.becomeIdle pool inPump).Passes ((s.traffic pool before).inPump inPump).idle before := by
  let idle : System :=
    { s with pool := some { pool with waiters := [] }, loop := s.loop.clear pool.waiters }
  have told : (pool.waiters.map fun waiter => Note.terminated waiter true).flatMap Note.stamps =
      pool.waiters.map (Stamp.terminated · true) := by
    simp [List.flatMap_map, Note.stamps, ← List.map_eq_flatMap]
  have stamps : (s.becomeIdle pool inPump).stamps =
      pool.waiters.map (Stamp.terminated · true) := by
    rw [becomeIdle, Reaction.stamps_after, told]
    simp [callOut, Reaction.stamps]
  have opened : (s.becomeIdle pool inPump).system =
      { idle with stack := .idle inPump :: idle.stack } := rfl
  refine ⟨{ pool with waiters := [] }, rfl, .of_eq ?_, fun _ => ?_⟩
  · rw [opened, traffic_push, stamps, traffic_clear]
    rfl
  · simp [Pool.isIdle, lanes, queue]

theorem freeLane_eq (s : System) (pool : Pool) (inPump : Bool) :
    s.freeLane pool inPump = Reaction.afterRecords pool.free.2
      (if !pool.free.1.backlog.isEmpty then (s.schedulePump pool.free.1).leave inPump
      else if 0 < pool.free.1.active then (s.setPool pool.free.1).leave inPump
      else s.becomeIdle pool.free.1 inPump) := rfl

/-- Freeing a lane, from the pool in which it is still busy. -/
theorem freeLane_passes (s : System) (pool : Pool) (inPump : Bool) :
    (s.freeLane pool inPump).Passes ((s.traffic pool before).inPump inPump).free before := by
  have freed : ((s.traffic pool before).inPump inPump).free =
      ((s.traffic pool.free.1 before).inPump inPump).goOn := rfl
  have here : ((s.traffic pool.free.1 before).inPump inPump).pool = pool.free.1 := rfl
  rw [freed, Traffic.goOn, here, freeLane_eq]
  refine .afterRecords ?_
  split
  · have next := leave_passes before (s.schedulePump_pool pool.free.1) inPump
    rwa [traffic_schedulePump] at next
  · rename_i empty
    split
    · exact leave_passes (s := s.setPool pool.free.1) _ rfl inPump
    · rename_i free
      exact becomeIdle_passes _ s inPump (Nat.eq_zero_of_not_pos free) (by simpa using empty)

/-- Whoever started a run on a lane sees its end. -/
theorem goOn_passes {run : Run} (hp : s.pool = some pool) (lane : run.starter = .lane)
    (outcome : Outcome) (inPump : Bool) :
    (s.goOn run outcome inPump).Passes (((s.traffic pool before).hold run).inPump inPump)
      before := by
  have next : (((s.traffic pool before).hold run).inPump inPump).runs = run ::ₘ s.runs := rfl
  rw [goOn, lane, hp]
  refine .after ?_ (by simp [Note.stamps])
  cases outcome with
  | fulfilled =>
      exact .head (.single (.fulfilled lane next)) (freeLane_passes _ s pool inPump)
  | rejected e =>
      refine .head (.single (.rejected e lane next)) (.afterRecords ?_)
      exact callOut_passes (s := s.setPool (pool.fail e).1) _ rfl (by simp)

section Slots
variable (tag : Tag) (ticket : Ticket) (purpose : Purpose)

theorem announce_passes (hp : s.pool = some pool) (report : Slot.Report) :
    (s.announce tag purpose report).Passes ((s.traffic pool before).inStep purpose) before := by
  rw [← push_message _ tag (.event (.queued tag)) [] report.resume]
  refine .afterRecords (.afterSilent ?_ rfl)
  exact callOut_passes (s := { s with limiter := _ }) _ hp (by simp)

theorem finishStep_passes (hp : s.pool = some pool) (queued : Bool) :
    (s.finishStep tag purpose queued).Passes ((s.traffic pool before).inStep purpose) before := by
  cases purpose with
  | submit ticket =>
      have answered : ({ system := s, signal := .answer queued } : Reaction).Passes
          (s.traffic pool before) before := passes_of_pool before hp (by simp)
      have noted : (Reaction.after [.answered tag ticket queued] _).Passes _ before :=
        answered.afterSilent rfl
      exact noted
  | complete => exact returned_passes _ hp
  | conclude run outcome inCall =>
      have left := leave_passes (s := s.pushJob (.goOn run outcome)) before hp
        (inCall && run.starter == .lane)
      rw [traffic_pushJob] at left
      exact left.afterSilent rfl

/-- The runner took the task, and its backlog is longer already. -/
theorem accepted_passes (hp : s.pool = some pool) :
    (s.accepted tag ticket purpose).Passes
      ((s.traffic pool (before ++ [.accepted (.limited tag ticket)])).inStep purpose) before :=
  .after (announce_passes _ tag purpose hp _) (by simp [Note.stamps])

theorem refused_passes (hp : s.pool = some pool) (e : Thrown) :
    (s.refused tag ticket e purpose).Passes ((s.traffic pool before).inStep purpose) before :=
  announce_passes _ tag purpose hp _

theorem inStep_schedule (t : Traffic) :
    t.schedule.inStep purpose = (t.inStep purpose).schedule := by
  cases purpose <;> rfl

theorem offer_passes (hp : s.pool = some pool) :
    (s.offer tag ticket purpose).Passes ((s.traffic pool before).inStep purpose) before := by
  rw [offer, hp]
  refine .afterSilent ?_ rfl
  dsimp only
  cases taken : pool.accept (.limited tag ticket) with
  | error f => exact refused_passes _ tag ticket purpose hp (.fault f)
  | ok later =>
      have here : ((s.traffic pool before).inStep purpose).pool.accept (.limited tag ticket) =
          .ok later := by
        cases purpose <;> exact taken
      have next := accepted_passes before tag ticket purpose
        (s.schedulePump_pool later)
      rw [traffic_schedulePump, inStep_schedule] at next
      refine .head ((Step.accept here (Nat.le_refl _) (by simp)).steps ?_) next
      cases purpose <;> rfl

theorem follow_passes (hp : s.pool = some pool) (p : Slot.Progress) :
    (s.follow tag purpose p).Passes ((s.traffic pool before).inStep purpose) before := by
  cases p with
  | report r => exact announce_passes _ tag purpose hp r
  | offer slot records ticket =>
      exact .afterRecords (offer_passes (s := s.setSlot tag slot) _ tag ticket purpose hp)
  | done slot records queued =>
      exact .afterRecords (finishStep_passes (s := s.setSlot tag slot) _ tag purpose hp queued)

end Slots

theorem conclude_passes (hp : s.pool = some pool) (tag : Tag) (ticket : Ticket)
    (starter : Starter) (outcome : Outcome) (inCall : Bool) :
    (s.conclude tag ticket starter outcome inCall).Passes
      (((s.traffic pool before).hold { work := .limited tag ticket, starter }).inPump
        (inCall && starter == .lane)) before := by
  exact .afterSilent (announce_passes _ tag
    (.conclude { work := .limited tag ticket, starter } outcome inCall) hp _) rfl

theorem run_ofRun (run : Run) (outcome : Outcome) : (Job.ofRun run outcome).run = run := by
  obtain ⟨work, starter⟩ := run
  cases work <;> rfl

/-- Waking the runs that waited for a promise only moves them to the jobs. -/
theorem traffic_settle (promise : Promise) (outcome : Outcome) :
    (s.settle promise outcome).traffic pool before = s.traffic pool before := by
  let waits (entry : Promise × Run) : Bool := entry.1 == promise
  have woken : ((s.awaiting.filter waits).map fun entry =>
      Job.ofRun entry.2 outcome).map Job.run = (s.awaiting.filter waits).map Prod.snd := by
    simp [run_ofRun]
  have both : (s.awaiting.map Prod.snd : Multiset Run) =
      ((s.awaiting.filter waits).map Prod.snd : List Run) +
        ((s.awaiting.filter fun entry => !waits entry).map Prod.snd : List Run) := by
    rw [Multiset.coe_add, ← List.map_append]
    exact Multiset.coe_eq_coe.2 ((List.filter_append_perm waits _).map _).symm
  rw [settle]
  split
  · rfl
  · simp only [traffic, runs, EventLoop.pushJobs, List.partition_eq_filter_filter,
      List.map_append, ← Multiset.coe_add]
    congr 1
    rw [both, woken]
    simp only [waits, Function.comp_def]
    abel

theorem settle_pool (promise : Promise) (outcome : Outcome) :
    (s.settle promise outcome).pool = s.pool := by
  rw [settle]
  split <;> rfl

theorem traffic_await (promise : Promise) (run : Run) :
    (s.await promise run).traffic pool before = (s.traffic pool before).hold run := by
  rw [await]
  split
  · rw [traffic_pushJob, run_ofRun]
  · simp only [traffic, hold, runs, List.map_append, ← Multiset.coe_add, List.map_singleton,
      Multiset.coe_singleton, ← Multiset.singleton_add]
    congr 1
    abel

theorem await_pool (promise : Promise) (run : Run) : (s.await promise run).pool = s.pool := by
  rw [await]
  split <;> rfl

theorem taskReturned_passes (hp : s.pool = some pool) {run : Run} (lane : run.starter = .lane)
    (result : TaskReturn) :
    (s.taskReturned run result).Passes (((s.traffic pool before).hold run).inPump true)
      before := by
  have inPump : (run.starter == .lane) = true := by simp [lane]
  cases result with
  | settled outcome =>
      have left := leave_passes (s := s.pushJob (.ofRun run outcome)) before hp
        (run.starter == .lane)
      rw [traffic_pushJob, run_ofRun] at left
      exact inPump ▸ left
  | later promise =>
      have left := leave_passes before ((await_pool promise run).trans hp)
        (run.starter == .lane)
      rw [traffic_await] at left
      exact inPump ▸ left
  | threw e =>
      obtain ⟨work, starter⟩ := run
      cases lane
      cases work with
      | limited tag ticket => exact conclude_passes _ hp tag ticket .lane (.rejected e) true
      | plain ticket => exact goOn_passes _ hp rfl (.rejected e) true

theorem resumeStep_passes (hp : s.pool = some pool) (tag : Tag) (resume : Slot.Resume)
    (purpose : Purpose) :
    (s.resumeStep tag resume purpose).Passes ((s.traffic pool before).inStep purpose) before :=
  follow_passes _ tag purpose hp _

theorem push_task (t : Traffic) {run : Run} (lane : run.starter = .lane) :
    t.push (.task run) = (t.hold run).inPump true := by
  simp [Traffic.push, hold, Traffic.inPump, Frame.run?, Frame.tellsFailure, Frame.pumps,
    Frame.asksOutside, lane, Multiset.singleton_add]

theorem push_taskError (t : Traffic) (inPump : Bool) :
    t.push (.taskError inPump) = { t.inPump inPump with failing := t.failing + 1 } := by
  simp [Traffic.push, Traffic.inPump, Frame.run?, Frame.tellsFailure, Frame.pumps,
    Frame.asksOutside]

theorem push_idle (t : Traffic) (inPump : Bool) : t.push (.idle inPump) = t.inPump inPump := by
  simp [Traffic.push, Traffic.inPump, Frame.run?, Frame.tellsFailure, Frame.pumps,
    Frame.asksOutside]

/-- The last call has returned; it asked no runner outside, and its task was on a lane. -/
theorem goOnFrom_passes (hp : s.pool = some pool) {frame : Frame} {reply : Reply} {r : Reaction}
    (inside : frame.asksOutside = false) (lane : ∀ run, frame = .task run → run.starter = .lane)
    (h : s.goOnFrom frame reply = some r) :
    r.Passes ((s.traffic pool before).push frame) before := by
  unfold goOnFrom at h
  split at h <;> cases h
  · exact .afterRecords (callOut_passes _ hp (by simp))
  · rw [push_message]
    exact .afterRecords (resumeStep_passes _ hp _ _ _)
  · simp [Frame.asksOutside] at inside
  · simp [Frame.asksOutside] at inside
  · simp [Frame.asksOutside] at inside
  · simp [Frame.asksOutside] at inside
  · rename_i run result
    rw [push_task _ (lane run rfl)]
    exact taskReturned_passes _ hp (lane run rfl) result
  · rename_i inPump thrown
    rw [push_taskError]
    refine .head (.single (.heard rfl)) (.afterRecords ?_)
    rw [hp]
    exact freeLane_passes _ s pool inPump
  · rw [push_idle]
    exact .afterRecords (leave_passes _ hp _)

theorem reply_passes (hp : s.pool = some pool) (lawful : (s.traffic pool before).Lawful)
    (reply : Reply) : (s.reply reply).Passes (s.traffic pool before) before := by
  rw [System.reply]
  split
  · rename_i frame rest hs
    let inner : System := { s with stack := rest }
    have opened : s.traffic pool before = (inner.traffic pool before).push frame := by
      rw [← traffic_push, ← hs]
    rw [opened] at lawful ⊢
    have inside : frame.asksOutside = false := by
      have none := lawful.inside
      cases asks : frame.asksOutside <;> simp_all [Traffic.push]
    have lane (run : Run) (task : frame = .task run) : run.starter = .lane :=
      lawful.lanes run (by simp [task, Traffic.push, Frame.run?])
    cases hr : inner.goOnFrom frame reply with
    | some r => exact goOnFrom_passes (s := inner) _ hp inside lane hr
    | none =>
        have ignored := ignored_passes (s := s) before hp
        rwa [opened] at ignored
  · exact ignored_passes _ hp

theorem runJob_passes (hp : s.pool = some pool) (lawful : (s.traffic pool before).Lawful) :
    s.runJob.Passes (s.traffic pool before) before := by
  rw [runJob]
  split
  · rename_i job rest _ hj
    let taken : System := { s with loop := { s.loop with jobs := rest } }
    have opened : s.traffic pool before = (taken.traffic pool before).hold job.run := by
      simp [traffic, hold, runs, taken, hj, ← Multiset.cons_coe]
    have lane : job.run.starter = .lane := lawful.lanes _ (by simp [opened])
    rw [opened]
    cases job with
    | conclude tag ticket starter outcome =>
        exact conclude_passes (s := taken) _ hp tag ticket starter outcome false
    | goOn run outcome => exact goOn_passes (s := taken) _ hp lane outcome false
  · exact ignored_passes _ hp

theorem runImmediate_passes (hp : s.pool = some pool) :
    s.runImmediate.Passes (s.traffic pool before) before := by
  rw [runImmediate]
  split
  · rename_i immediate rest _ hi
    let taken : System := { s with loop := { s.loop with immediates := rest } }
    split
    · have next : (s.traffic pool before).pumps = (taken.traffic pool before).pumps + 1 := by
        simp [traffic, taken, hi, List.countP_cons, Immediate.isPump]
      rw [hp]
      exact .head (.single (.pump next))
        (pump_passes (s := { taken with pool := some pool.pumpBegun }) _ rfl)
    · rename_i promise more
      have same : s.traffic pool before =
          ({ taken with loop := taken.loop.pushImmediate (.countdown promise more) } :
            System).traffic pool before := by
        simp [traffic, taken, hi, Immediate.isPump, EventLoop.pushImmediate, runs]
      rw [same]
      exact returned_passes _ hp
    · rename_i promise
      have same : s.traffic pool before =
          (taken.settle promise .fulfilled).traffic pool before := by
        rw [traffic_settle]
        simp [traffic, taken, hi, Immediate.isPump, runs]
      rw [same]
      exact returned_passes _ ((settle_pool promise .fulfilled).trans hp)
  · exact ignored_passes _ hp

theorem mem_of_first? {timers : List Timer} {timer : Timer}
    (h : EventLoop.first? timers = some timer) : timer ∈ timers := by
  induction timers generalizing timer with
  | nil => cases h
  | cons head rest ih =>
      rw [EventLoop.first?] at h
      split at h
      · rename_i later hl
        split at h <;> cases h
        · exact List.mem_cons_of_mem _ (ih hl)
        · exact List.mem_cons_self
      · cases h
        exact List.mem_cons_self

/-- The timer that fires is one of those that were armed. -/
theorem traffic_fire? {loop : EventLoop} {alarm : Alarm} (h : s.loop.fire? = some (alarm, loop)) :
    s.traffic pool before =
      let rest := ({ s with loop } : System).traffic pool before
      { rest with alarms := ↑alarm.waiter?.toList + rest.alarms } := by
  obtain ⟨timer, first, fired⟩ := Option.map_eq_some_iff.1 h
  cases fired
  have armed : (s.loop.timers : Multiset Timer) = ↑(timer :: s.loop.timers.erase timer) :=
    Multiset.coe_eq_coe.2 (List.perm_cons_erase (mem_of_first? first))
  have alarms := congrArg (Multiset.filterMap fun timer => timer.alarm.waiter?) armed
  rw [Multiset.filterMap_coe, Multiset.filterMap_coe] at alarms
  simp only [traffic, alarms, Multiset.coe_add]
  cases hw : timer.alarm.waiter? <;> simp [hw, runs]

theorem runTimer_passes (hp : s.pool = some pool) :
    s.runTimer.Passes (s.traffic pool before) before := by
  rw [runTimer]
  split
  · rename_i promise loop _ hl
    have same : s.traffic pool before =
        (System.settle { s with loop } promise .fulfilled).traffic pool before := by
      rw [traffic_fire? before hl, traffic_settle]
      simp [Alarm.waiter?]
    rw [same]
    exact returned_passes _ ((settle_pool promise .fulfilled).trans hp)
  · rename_i waiter loop _ hl
    have next : (s.traffic pool before).alarms =
        waiter ::ₘ (({ s with loop } : System).traffic pool before).alarms := by
      rw [traffic_fire? before hl]
      rfl
    rw [hp]
    refine .after (.head ((Step.giveUp next).steps ?_)
      (returned_passes (s := { s with loop, pool := some (pool.giveUp waiter) }) _ rfl))
      (by simp [Note.stamps])
    rw [traffic_fire? before hl]
    rfl
  · exact ignored_passes _ hp

theorem elapse_passes (hp : s.pool = some pool) (ms : Nat) :
    (s.elapse ms).Passes (s.traffic pool before) before := by
  rw [elapse]
  split
  · rename_i loop _ hl
    rw [EventLoop.elapse?] at hl
    split at hl <;> cases hl
    exact returned_passes (s := { s with loop := { s.loop with now := _ } }) _ hp
  · exact ignored_passes _ hp

theorem execute_passes (hp : s.pool = some pool) :
    s.execute.Passes (s.traffic pool before) before := by
  let taken : System := { s with tickets := s.tickets + 1 }
  have numbered : Step (s.traffic pool before) (taken.traffic pool before) := .number
  rw [execute, hp]
  refine .afterSilent ?_ rfl
  dsimp only
  split
  · rename_i later accepted
    have back := returned_passes (before ++ [.accepted (.plain s.tickets)])
      (taken.schedulePump_pool later)
    rw [traffic_schedulePump] at back
    have here : (s.traffic pool before).pool.accept (.plain s.tickets) = .ok later := accepted
    have fresh (ticket : Ticket) (plain : Work.plain s.tickets = .plain ticket) :
        s.tickets ≤ ticket ∧ ticket < s.tickets + 1 := by
      cases plain
      exact ⟨Nat.le_refl _, Nat.lt_succ_self _⟩
    refine .after (.head (.single (.accept here (Nat.le_succ _) fresh)) ?_) (by simp [Note.stamps])
    rwa [← hp]
  · rename_i f _
    exact .head (.single numbered) (passes_of_pool (s := { taken with pool := some pool }) _ rfl
      (by simp))

theorem start_passes (hp : s.pool = some pool) (work : Work) :
    (s.start work).Passes (s.traffic pool before) before := by
  rw [start, if_pos (by simp [hp])]
  exact ignored_passes _ hp

theorem shutdown_passes (hp : s.pool = some pool) :
    s.shutdown.Passes (s.traffic pool before) before := by
  rw [shutdown, hp]
  exact .head (.single .shutdown)
    (.afterRecords (returned_passes (s := s.setPool pool.shutdown.1) _ rfl))

theorem awaitTermination_passes (hp : s.pool = some pool) (ms : Number) :
    (s.awaitTermination ms).Passes (s.traffic pool before) before := by
  rw [awaitTermination, hp]
  dsimp only
  split
  · rename_i idle
    exact ⟨pool, rfl, .single (.pass idle), fun _ => idle⟩
  · rename_i busy
    refine .head ((Step.wait (eq_false_of_ne_true busy)).steps ?_) (returned_passes _ rfl)
    simp [traffic, runs, EventLoop.arm, Alarm.waiter?]

theorem overwrite_passes (hp : s.pool = some pool) (tag : Tag) (running : Number) :
    (s.overwrite tag running).Passes (s.traffic pool before) before := by
  rw [overwrite]
  split
  · exact returned_passes (s := s.setSlot tag _) _ hp
  · exact ignored_passes _ hp

/-- Every reaction is a chain of steps. -/
theorem react_passes (hp : s.pool = some pool) (lawful : (s.traffic pool before).Lawful)
    (m : Move) : (s.react m).Passes (s.traffic pool before) before := by
  cases m with
  | submit tag =>
      exact .head (.single .number) (.afterSilent (follow_passes
        (s := { s with tickets := s.tickets + 1 }) _ tag (.submit s.tickets) hp _) rfl)
  | complete tag =>
      simp only [react]
      split
      · exact announce_passes _ tag .complete hp _
      · exact ignored_passes _ hp
  | overwrite tag running => exact overwrite_passes _ hp tag running
  | execute => exact execute_passes _ hp
  | start work => exact start_passes _ hp work
  | shutdown => exact shutdown_passes _ hp
  | awaitTermination ms => exact awaitTermination_passes _ hp ms
  | reply reply => exact reply_passes _ hp lawful reply
  | settle promise outcome =>
      rw [← traffic_settle before promise outcome]
      exact returned_passes _ ((settle_pool promise outcome).trans hp)
  | delay promise ms =>
      have same : s.traffic pool before =
          ({ s with loop := s.loop.arm ms (.settle promise) } : System).traffic pool before := by
        simp [traffic, runs, EventLoop.arm, Alarm.waiter?]
      rw [same]
      exact returned_passes _ hp
  | countdown promise immediates =>
      have same : s.traffic pool before = ({ s with
          loop := s.loop.pushImmediate (.countdown promise (immediates - 1)) } :
            System).traffic pool before := by
        simp [traffic, runs, EventLoop.pushImmediate, Immediate.isPump]
      rw [same]
      exact returned_passes _ hp
  | job => exact runJob_passes _ hp lawful
  | immediate => exact runImmediate_passes _ hp
  | timer => exact runTimer_passes _ hp
  | elapse ms => exact elapse_passes _ hp ms

end System

namespace History
variable {h : History} {pool : Pool}

theorem play_passes (hp : h.system.pool = some pool) (lawful : (h.traffic pool).Lawful)
    (m : Move) :
    ∃ later, (h.play m).system.pool = some later ∧
      Traffic.Steps (h.traffic pool) ((h.play m).traffic later) ∧
        ((h.system.react m).TellsIdle → later.isIdle = true) := by
  obtain ⟨later, hl, steps, told⟩ := System.react_passes h.stamps hp lawful m
  have stamps : (h.play m).stamps = h.stamps ++ (h.system.react m).stamps := by
    simp [History.stamps, Reaction.stamps, play]
  exact ⟨later, hl, by rwa [traffic, traffic, stamps], told⟩

/-- What every step of the pool's side keeps holds after every run of a system with a pool. -/
theorem passes_induction {P : Traffic → Prop}
    (keep : ∀ t t', t.Lawful → P t → Traffic.Step t t' → P t') (ms : List Move)
    (hp : h.system.pool = some pool) (lawful : (h.traffic pool).Lawful)
    (start : P (h.traffic pool)) :
    ∃ later, (h.plays ms).system.pool = some later ∧ ((h.plays ms).traffic later).Lawful ∧
      P ((h.plays ms).traffic later) := by
  induction ms generalizing h pool with
  | nil => exact ⟨pool, hp, lawful, start⟩
  | cons m ms ih =>
      obtain ⟨later, hl, steps, -⟩ := play_passes hp lawful m
      obtain ⟨lawful', held⟩ := steps.keep (P := fun t => t.Lawful ∧ P t)
        (fun t t' held step => ⟨step.lawful held.1, keep t t' held.1 held.2 step⟩)
        ⟨lawful, start⟩
      exact ih hl lawful' held

end History

/-- The pool's side at the beginning: a pool that has done nothing, and nothing else. -/
theorem System.Begins.traffic {s : System} {pool : Pool} (begins : s.Begins)
    (hp : s.pool = some pool) :
    ∃ concurrency logger, pool = { concurrency, logger } ∧
      (History.mk s []).traffic pool = ⟨pool, 0, 0, 0, 0, 0, 0, 0, 0, []⟩ := by
  obtain ⟨value, logger, created⟩ := begins.pool pool hp
  obtain ⟨concurrency, rfl⟩ := Pool.create_eq_ok created
  refine ⟨concurrency, logger, rfl, ?_⟩
  rw [begins.rest]
  rfl

end Turnstile
