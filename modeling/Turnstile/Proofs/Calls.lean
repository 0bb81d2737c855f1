import Turnstile.Proofs.Passages

/-!
Open calls. A reaction leaves the calls below the last one as they are: it opens at most one more, or
the last one is over and at most one takes its place. So whoever called finds, when his call is over,
all calls open that were open before it, and every call that was opened since has been replied to.

A pump goes on as long as a call of it is open, and is over only where it finds nothing to start.
-/
namespace Turnstile

/-- From `s` on at most one call is opened. A pump goes on after it just if one went on before
(`inPump`); without one, a pool starts nothing. -/
structure Reaction.Leaves (s : System) (inPump : Bool) (r : Reaction) : Prop where
  stack : (∃ frame, r.system.stack = frame :: s.stack ∧ frame.pumps = inPump) ∨
    r.system.stack = s.stack ∧ (inPump = true → r.system.pool.bind Pool.next? = none)
  starts : inPump = false → s.pool.isSome = true → ∀ run, .started run ∉ r.notes

namespace Reaction.Leaves
variable {s t : System} {inPump : Bool} {r : Reaction} {notes : List Note}

/-- A system that differs in other things serves as well. -/
theorem of_like (h : r.Leaves t inPump) (stack : t.stack = s.stack)
    (pool : s.pool.isSome = true → t.pool.isSome = true) : r.Leaves s inPump where
  stack := stack ▸ h.stack
  starts calm own := h.starts calm (pool own)

theorem after (h : r.Leaves s inPump) (quiet : ∀ run, .started run ∉ notes) :
    (r.after notes).Leaves s inPump where
  stack := h.stack
  starts calm own run mem :=
    (List.mem_append.1 mem).elim (quiet run) (h.starts calm own run)

theorem afterRecords {records : List Logging.Record} (h : r.Leaves s inPump) :
    (r.afterRecords records).Leaves s inPump :=
  h.after (by simp)

end Reaction.Leaves

/-- A step of a slot has stopped at the call. -/
def Frame.isStep (frame : Frame) : Bool := frame.pause?.isSome

namespace System
variable (s : System) (tag : Tag) (ticket : Ticket) (purpose : Purpose)

theorem returned_leaves : s.returned.Leaves s false where
  stack := .inr ⟨rfl, by simp⟩
  starts _ _ _ mem := absurd mem List.not_mem_nil

theorem ignored_leaves : s.ignored.Leaves s false where
  stack := .inr ⟨rfl, by simp⟩
  starts _ _ _ mem := absurd mem List.not_mem_nil

theorem callOut_leaves (frame : Frame) (call : Call) :
    (s.callOut frame call).Leaves s frame.pumps where
  stack := .inl ⟨frame, rfl, rfl⟩
  starts _ _ _ mem := absurd mem List.not_mem_nil

theorem schedulePump_stack (pool : Pool) : (s.schedulePump pool).stack = s.stack := by
  rw [schedulePump]
  split <;> rfl

theorem pump_leaves : s.pump.Leaves s true := by
  refine ⟨?_, by simp⟩
  rw [pump]
  split
  · exact .inl ⟨_, rfl, rfl⟩
  · rename_i none
    exact .inr ⟨rfl, fun _ => none⟩

theorem leave_leaves (inPump : Bool) : (s.leave inPump).Leaves s inPump := by
  cases inPump with
  | true => exact s.pump_leaves
  | false => exact s.returned_leaves

theorem becomeIdle_leaves (pool : Pool) (inPump : Bool) :
    (s.becomeIdle pool inPump).Leaves s inPump := by
  refine .after (.of_like (callOut_leaves _ (.idle inPump) _) rfl fun _ => rfl) ?_
  simp

theorem freeLane_leaves (pool : Pool) (inPump : Bool) :
    (s.freeLane pool inPump).Leaves s inPump := by
  simp only [freeLane]
  refine .afterRecords ?_
  split
  · refine (leave_leaves _ inPump).of_like (s.schedulePump_stack _) fun _ => ?_
    rw [schedulePump_pool, Option.isSome_some]
  · split
    · exact (leave_leaves _ inPump).of_like rfl fun _ => rfl
    · exact s.becomeIdle_leaves _ inPump

theorem goOn_leaves (run : Run) (outcome : Outcome) {inPump : Bool}
    (lane : inPump = true → run.starter = .lane) :
    (s.goOn run outcome inPump).Leaves s inPump := by
  refine .after ?_ (by simp)
  split
  · rename_i pool _ _
    cases outcome with
    | fulfilled => exact s.freeLane_leaves pool inPump
    | rejected e =>
        have told := callOut_leaves (s.setPool (pool.fail e).1) (.taskError inPump)
          (.pool (.taskError e))
        exact .afterRecords (told.of_like rfl fun _ => rfl)
  · rename_i elsewhere
    cases inPump with
    | false => exact s.returned_leaves
    | true =>
        refine ⟨.inr ⟨rfl, fun _ => ?_⟩, by simp⟩
        cases hp : s.pool with
        | none => simp [returned, hp]
        | some pool => exact (elsewhere pool (lane rfl) hp).elim

theorem announce_leaves (report : Slot.Report) :
    (s.announce tag purpose report).Leaves s purpose.pumps := by
  refine .afterRecords (.after (.of_like (callOut_leaves _ (.message ..) _) rfl id) ?_)
  simp

theorem finishStep_leaves (queued : Bool) :
    (s.finishStep tag purpose queued).Leaves s purpose.pumps := by
  cases purpose with
  | submit ticket =>
      exact ⟨.inr ⟨rfl, by simp [Purpose.pumps]⟩, fun _ _ run mem => by simp [finishStep] at mem⟩
  | complete => exact s.returned_leaves
  | conclude run outcome inCall => exact .after (.of_like (leave_leaves _ _) rfl id) (by simp)

theorem accepted_leaves : (s.accepted tag ticket purpose).Leaves s purpose.pumps :=
  .after (s.announce_leaves tag purpose _) (by simp)

theorem offer_leaves : (s.offer tag ticket purpose).Leaves s purpose.pumps := by
  refine .after ?_ (by simp)
  split
  · exact s.callOut_leaves (.offer tag ticket purpose) _
  · split
    · refine (accepted_leaves _ tag ticket purpose).of_like (s.schedulePump_stack _) fun _ => ?_
      rw [schedulePump_pool, Option.isSome_some]
    · exact s.announce_leaves tag purpose _

theorem follow_leaves (p : Slot.Progress) : (s.follow tag purpose p).Leaves s purpose.pumps := by
  cases p with
  | report report => exact s.announce_leaves tag purpose report
  | offer slot records ticket =>
      exact .afterRecords (.of_like (offer_leaves (s.setSlot tag slot) tag ticket purpose) rfl id)
  | done slot records queued =>
      exact .afterRecords (.of_like (finishStep_leaves (s.setSlot tag slot) tag purpose queued) rfl id)

theorem conclude_leaves (starter : Starter) (outcome : Outcome) (inCall : Bool) :
    (s.conclude tag ticket starter outcome inCall).Leaves s (inCall && starter == .lane) :=
  .after (s.announce_leaves tag (.conclude ⟨.limited tag ticket, starter⟩ outcome inCall) _) (by simp)

theorem settle_stack (promise : Promise) (outcome : Outcome) :
    (s.settle promise outcome).stack = s.stack := by
  rw [settle]
  split <;> rfl

theorem await_stack (promise : Promise) (run : Run) : (s.await promise run).stack = s.stack := by
  rw [await]
  split <;> rfl

theorem taskReturned_leaves (run : Run) (result : TaskReturn) :
    (s.taskReturned run result).Leaves s (run.starter == .lane) := by
  cases result with
  | settled outcome => exact (leave_leaves _ _).of_like rfl id
  | later promise =>
      exact (leave_leaves _ _).of_like (s.await_stack promise run) fun own => by rwa [await_pool]
  | threw e =>
      obtain ⟨work, starter⟩ := run
      cases work with
      | limited tag ticket => exact s.conclude_leaves tag ticket starter (.rejected e) true
      | plain ticket =>
          cases starter with
          | lane => exact s.goOn_leaves ⟨.plain ticket, .lane⟩ (.rejected e) fun _ => rfl
          | caller => exact (returned_leaves _).of_like rfl id

/-- The last call has returned. -/
theorem goOnFrom_leaves {frame : Frame} {reply : Reply} {r : Reaction}
    (h : s.goOnFrom frame reply = some r) : r.Leaves s frame.pumps := by
  unfold goOnFrom at h
  split at h <;> cases h
  · rename_i tag current next rest resume purpose thrown
    exact .afterRecords (s.callOut_leaves (.message tag next rest resume purpose) _)
  · exact .afterRecords (s.follow_leaves _ _ _)
  · exact s.accepted_leaves _ _ _
  · exact s.announce_leaves _ _ _
  · exact .after s.returned_leaves (by simp)
  · exact ⟨.inr ⟨rfl, by simp [Frame.pumps]⟩, fun _ _ _ mem => absurd mem List.not_mem_nil⟩
  · exact s.taskReturned_leaves _ _
  · rename_i inPump thrown
    refine .afterRecords ?_
    split
    · exact s.freeLane_leaves _ inPump
    · rename_i none
      refine ⟨.inr ⟨rfl, fun _ => by simp [returned, none]⟩, fun _ _ _ mem => absurd mem List.not_mem_nil⟩
  · exact .afterRecords (s.leave_leaves _)

theorem react_heard_next {s : System} {tag : Tag} {purpose : Purpose} {current next : Message}
    {rest : List Message} {resume : Slot.Resume} {below : List Frame} (thrown : Option Thrown)
    (top : s.stack = .message tag current (next :: rest) resume purpose :: below) :
    (s.react (.reply (.heard thrown))).system =
      { s with stack := .message tag next rest resume purpose :: below } := by
  rw [react, System.reply, top]
  rfl

theorem react_heard {s : System} {tag : Tag} {purpose : Purpose} {current : Message}
    {resume : Slot.Resume} {below : List Frame} (thrown : Option Thrown)
    (top : s.stack = .message tag current [] resume purpose :: below) :
    s.react (.reply (.heard thrown)) =
      (({ s with stack := below } : System).resumeStep tag resume purpose).afterRecords
        (({ s with stack := below } : System).unheard current thrown) := by
  rw [react, System.reply, top]
  rfl

/-- The turn of a pump begins with the move. -/
def beginsPump (s : System) : Move → Bool
  | .immediate => s.quiet && (s.loop.immediates.head?.any Immediate.isPump)
  | _ => false

/-- A reply closes the last call, if it is one to that call. -/
theorem reply_cases (reply : Reply) :
    s.reply reply = s.ignored ∨ ∃ frame rest, s.stack = frame :: rest ∧
      ({ s with stack := rest } : System).goOnFrom frame reply = some (s.reply reply) := by
  rw [System.reply]
  split
  · rename_i frame rest hs
    cases hr : ({ s with stack := rest } : System).goOnFrom frame reply with
    | none => exact .inl rfl
    | some r => exact .inr ⟨frame, rest, hs, hr⟩
  · exact .inl rfl

theorem runJob_leaves : s.runJob.Leaves s false := by
  rw [runJob]
  split
  · rename_i job rest _ _
    cases job with
    | conclude tag ticket starter outcome =>
        exact (conclude_leaves _ tag ticket starter outcome false).of_like rfl id
    | goOn run outcome => exact (goOn_leaves _ run outcome (by simp)).of_like rfl id
  · exact s.ignored_leaves

theorem runImmediate_leaves : s.runImmediate.Leaves s (s.beginsPump .immediate) := by
  rw [runImmediate]
  split
  · rename_i immediate rest quiet queue
    have begins : s.beginsPump .immediate = immediate.isPump := by
      simp [beginsPump, quiet, queue]
    rw [begins]
    split
    · exact (pump_leaves _).of_like rfl (by simp)
    · exact (returned_leaves _).of_like rfl id
    · exact (returned_leaves _).of_like (settle_stack _ _ _) fun own => by rwa [settle_pool]
  · rename_i other
    have begins : s.beginsPump .immediate = false := by
      simp only [beginsPump]
      cases quiet : s.quiet with
      | false => rfl
      | true =>
          cases queue : s.loop.immediates with
          | nil => rfl
          | cons immediate rest => exact (other immediate rest quiet queue).elim
    exact begins ▸ s.ignored_leaves

theorem runTimer_leaves : s.runTimer.Leaves s false := by
  rw [runTimer]
  split
  · exact (returned_leaves _).of_like (settle_stack _ _ _) fun own => by rwa [settle_pool]
  · exact .after ((returned_leaves _).of_like rfl (by simp)) (by simp)
  · exact s.ignored_leaves

theorem execute_leaves : s.execute.Leaves s false := by
  refine .after ?_ (by simp)
  split
  · exact .of_like (callOut_leaves _ (.hand s.tickets) _) rfl id
  · split
    · refine .after ((returned_leaves _).of_like (schedulePump_stack _ _) fun _ => ?_) (by simp)
      rw [schedulePump_pool, Option.isSome_some]
    · exact ⟨.inr ⟨rfl, by simp⟩, fun _ _ _ mem => absurd mem List.not_mem_nil⟩

theorem start_leaves (work : Work) : (s.start work).Leaves s false := by
  rw [start]
  split
  · exact s.ignored_leaves
  · rename_i outside
    exact ⟨.inl ⟨.task { work, starter := .caller }, rfl, rfl⟩, fun _ own => absurd own outside⟩

/-- What a move leaves of the open calls: all of them, or, if it replies to the last one, all others. -/
theorem react_leaves (m : Move) :
    (s.react m).Leaves s (s.beginsPump m) ∨
      ∃ reply frame rest, m = .reply reply ∧ s.stack = frame :: rest ∧
        ({ s with stack := rest } : System).goOnFrom frame reply = some (s.react m) := by
  cases m with
  | submit tag =>
      have leaves := follow_leaves { s with tickets := s.tickets + 1 } tag (.submit s.tickets)
        (Slot.submit (s.limiter.setting tag) (s.limiter.slot tag) s.tickets)
      exact .inl (.after (leaves.of_like rfl id) (by simp))
  | complete tag =>
      left
      rw [react]
      split
      · exact s.announce_leaves tag .complete _
      · exact s.ignored_leaves
  | overwrite tag running =>
      left
      rw [react, overwrite]
      split
      · exact (returned_leaves _).of_like rfl id
      · exact s.ignored_leaves
  | execute => exact .inl s.execute_leaves
  | start work => exact .inl (s.start_leaves work)
  | shutdown =>
      left
      rw [react, shutdown]
      split
      · exact .afterRecords ((returned_leaves _).of_like rfl fun _ => rfl)
      · exact s.ignored_leaves
  | awaitTermination ms =>
      left
      rw [react, awaitTermination]
      split
      · exact s.ignored_leaves
      · dsimp only
        split
        · exact .after ((returned_leaves _).of_like rfl id) (by simp)
        · exact (returned_leaves _).of_like rfl fun _ => rfl
  | reply reply =>
      rcases s.reply_cases reply with ignored | ⟨frame, rest, hs, answered⟩
      · left
        rw [react, ignored]
        exact s.ignored_leaves
      · exact .inr ⟨reply, frame, rest, rfl, hs, answered⟩
  | settle promise outcome =>
      refine .inl ((returned_leaves _).of_like (s.settle_stack promise outcome) fun own => ?_)
      rwa [settle_pool]
  | delay promise ms => exact .inl ((returned_leaves _).of_like rfl id)
  | countdown promise immediates => exact .inl ((returned_leaves _).of_like rfl id)
  | job => exact .inl s.runJob_leaves
  | immediate => exact .inl s.runImmediate_leaves
  | timer => exact .inl s.runTimer_leaves
  | elapse ms =>
      left
      rw [react, elapse]
      split
      · exact (returned_leaves _).of_like rfl id
      · exact s.ignored_leaves

/-- While a call is open above them, the calls below stay. -/
theorem stack_react {upper base : List Frame} (above : s.stack = upper ++ base) (some : upper ≠ [])
    (m : Move) : ∃ upper', (s.react m).system.stack = upper' ++ base := by
  rcases s.react_leaves m with leaves | ⟨reply, frame, rest, -, hs, answered⟩
  · rcases leaves.stack with ⟨more, stack, -⟩ | ⟨stack, -⟩
    · exact ⟨more :: upper, by rw [stack, above, List.cons_append]⟩
    · exact ⟨upper, stack.trans above⟩
  · obtain ⟨top, upper, rfl⟩ := List.exists_cons_of_ne_nil some
    obtain ⟨-, rfl⟩ := List.cons.inj (hs.symm.trans above)
    rcases (goOnFrom_leaves _ answered).stack with ⟨more, stack, -⟩ | ⟨stack, -⟩
    · exact ⟨more :: upper, stack⟩
    · exact ⟨upper, stack⟩

/-- How many steps of slots have stopped at a call. -/
def openSteps (s : System) : Nat := s.stack.countP Frame.isStep

end System

namespace History
variable {h : History} {n : Nat} {base : List Frame}

/-- With the last of the moves no more than `n` steps of slots are open, and with none before it. -/
def Unwinds (n : Nat) : History → List Move → Prop
  | h, [] => h.system.openSteps ≤ n
  | h, m :: more => n < h.system.openSteps ∧ Unwinds n (h.play m) more

instance decidableUnwinds (n : Nat) : ∀ h more, Decidable (Unwinds n h more)
  | h, [] => inferInstanceAs (Decidable (h.system.openSteps ≤ n))
  | h, m :: more =>
    have := decidableUnwinds n (h.play m) more
    inferInstanceAs (Decidable (n < h.system.openSteps ∧ Unwinds n (h.play m) more))

/-- Whoever called finds all calls open that were open when he did. -/
theorem Unwinds.stack {more : List Move} (unwinds : h.Unwinds n more) {upper : List Frame}
    (above : h.system.stack = upper ++ base)
    (few : base.countP Frame.isStep = n) :
    ∃ upper', (h.plays more).system.stack = upper' ++ base ∧
      ∀ frame ∈ upper', frame.isStep = false := by
  induction more generalizing h upper with
  | nil =>
      refine ⟨upper, above, fun frame mem => ?_⟩
      have all : h.system.openSteps ≤ n := unwinds
      rw [System.openSteps, above, List.countP_append, few] at all
      have none : upper.countP Frame.isStep = 0 := by omega
      simpa using List.countP_eq_zero.1 none frame mem
  | cons m more ih =>
      have some : upper ≠ [] := by
        rintro rfl
        have all := unwinds.1
        rw [System.openSteps, above, List.nil_append, few] at all
        exact Nat.lt_irrefl n all
      obtain ⟨upper', stack⟩ := h.system.stack_react above some m
      exact ih unwinds.2 stack

/-- A step that is open is gone on with before it is over. -/
theorem Unwinds.answered {more : List Move} (unwinds : h.Unwinds n more) {upper : List Frame}
    {frame : Frame} (above : h.system.stack = upper ++ frame :: base)
    (step : frame.isStep = true)
    (few : base.countP Frame.isStep = n) :
    ∃ heard reply rest, more = heard ++ .reply reply :: rest ∧
      (h.plays heard).system.stack = frame :: base ∧
      ({ (h.plays heard).system with stack := base } : System).goOnFrom frame reply =
        some ((h.plays heard).system.react (.reply reply)) ∧
      ((h.plays heard).play (.reply reply)).Unwinds n rest := by
  induction more generalizing h upper with
  | nil =>
      have all : h.system.openSteps ≤ n := unwinds
      rw [System.openSteps, above, List.countP_append, List.countP_cons, few,
        if_pos step] at all
      omega
  | cons m more ih =>
      have later (upper' : List Frame) (stack : (h.play m).system.stack = upper' ++ frame :: base) :
          ∃ heard reply rest, m :: more = heard ++ .reply reply :: rest ∧
            (h.plays heard).system.stack = frame :: base ∧
            ({ (h.plays heard).system with stack := base } : System).goOnFrom frame reply =
              some ((h.plays heard).system.react (.reply reply)) ∧
            ((h.plays heard).play (.reply reply)).Unwinds n rest := by
        obtain ⟨heard, reply, rest, split, rest'⟩ := ih unwinds.2 stack
        exact ⟨m :: heard, reply, rest, congrArg (m :: ·) split, rest'⟩
      rcases h.system.react_leaves m with leaves | ⟨reply, last, rest, rfl, hs, answered⟩
      · rcases leaves.stack with ⟨new, stack, -⟩ | ⟨stack, -⟩
        · exact later (new :: upper) (by rw [play, stack, above, List.cons_append])
        · exact later _ (stack.trans above)
      · cases upper with
        | nil =>
            obtain ⟨rfl, rfl⟩ := List.cons.inj (hs.symm.trans above)
            exact ⟨[], reply, more, rfl, above, answered, unwinds.2⟩
        | cons top upper =>
            obtain ⟨-, rfl⟩ := List.cons.inj (hs.symm.trans above)
            rcases (System.goOnFrom_leaves _ answered).stack with ⟨new, stack, -⟩ | ⟨stack, -⟩
            · exact later (new :: upper) stack
            · exact later _ stack

end History
end Turnstile
