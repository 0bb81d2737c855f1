import Turnstile.Emitter
import Turnstile.Proofs.Calls
import Turnstile.Proofs.Outcomes

/-!
Listeners that do not call back make no difference. Whatever the listeners of a limiter and of its
pool do when they hear of an event, and whichever of them throw, a run goes on as one that nobody
listens to: only the failures of listeners are recorded besides.

Listeners are called in the middle of a slot's step, or while a lane becomes free. `Frame.toHear`
bounds how often they are called before control is back with whoever called, so each move comes to an
end; and a slot's step that has begun always goes on to its end, or up to a runner outside that it
asks to take work.
-/
namespace Turnstile

/-- What a listener does when it is called, after all that has been signalled: it may throw. One that
listens only once does nothing later. -/
abbrev Ear := List Signal → Option Thrown

structure Ears where
  limiter : Emitter Ear := {}
  pool : Emitter Ear := {}

/-- Listeners are called in their order, up to the first one that throws. -/
def Emitter.emit (e : Emitter Ear) (event : String) (past : List Signal) : Option Thrown :=
  (e.listeners event).findSome? fun listener => listener.body past

/-- How a call to those who hear comes back. An observer of slots never fails. -/
def Ears.hear (ears : Ears) (past : List Signal) : Frame → Option (Option Thrown)
  | .message _ (.event event) .. => some (ears.limiter.emit event.name past)
  | .message _ (.notice ..) .. => some none
  | .taskError _ => some (ears.pool.emit "taskError" past)
  | .idle _ => some (ears.pool.emit "idle" past)
  | .offer .. | .hand _ | .task _ => none

def Slot.Resume.toHear : Slot.Resume → Nat
  | .answer _ => 0
  | .place _ => 2
  | .handOver => 3
  | .release => 4

/-- A bound on the calls to those who hear, up to the return to whoever called before. -/
def Frame.toHear : Frame → Nat
  | .message _ _ rest resume _ => 1 + rest.length + resume.toHear
  | .taskError _ => 2
  | .idle _ => 1
  | .offer .. | .hand _ | .task _ => 0

def System.toHear (s : System) : Nat := (s.stack.head?.map Frame.toHear).getD 0

theorem Ears.hear_isSome (ears : Ears) (past : List Signal) (frame : Frame) :
    (ears.hear past frame).isSome = true ↔ 0 < frame.toHear := by
  cases frame with
  | message tag current rest resume purpose =>
      cases current <;> simp [hear, Frame.toHear]
  | _ => simp [hear, Frame.toHear]

namespace Transcript

/-- Those who are being called hear, if anybody is. -/
def hearOne (ears : Ears) (x : Transcript) : Transcript :=
  match x.system.stack.head?.bind (ears.hear x.signals) with
  | some thrown => x.play (.reply (.heard thrown))
  | none => x

/-- All hear that are to hear until control is back with the surroundings. -/
def listen (ears : Ears) (x : Transcript) : Transcript := (hearOne ears)^[x.system.toHear] x

def perform (ears : Ears) (x : Transcript) (m : Move) : Transcript := (x.play m).listen ears

/-- A run of moves of the surroundings, with listeners that hear of what comes of each. -/
def performs (ears : Ears) (x : Transcript) (ms : List Move) : Transcript := ms.foldl (perform ears) x

end Transcript

/-- What is recorded of listeners that fail. -/
def Logging.failureReports : List String :=
  (LimiterEvent.names ++ PoolEvent.names).map fun name => "Error emitting " ++ name ++ " event"

def Note.reports : Note → Bool
  | .record r => r.message ∈ Logging.failureReports
  | _ => false

/-- The reaction without the records of listeners that failed. -/
def Reaction.unreported (r : Reaction) : Reaction :=
  { r with notes := r.notes.filter fun note => !note.reports }

/-- Two transcripts that differ only in which failures of listeners are recorded. -/
structure Transcript.Alike (x y : Transcript) : Prop where
  system : x.system = y.system
  notes : x.notes.filter (fun note => !note.reports) = y.notes.filter fun note => !note.reports
  signals : x.signals = y.signals

namespace System
variable (s : System)

theorem unreported_of_reports {records : List Logging.Record} (r : Reaction)
    (reports : ∀ record ∈ records, record.message ∈ Logging.failureReports) :
    (r.afterRecords records).unreported = r.unreported := by
  have nothing : (records.map Note.record).filter (fun note => !note.reports) = [] := by
    rw [List.filter_eq_nil_iff]
    intro note mem
    obtain ⟨record, written, rfl⟩ := List.mem_map.1 mem
    simp [Note.reports, reports record written]
  rw [Reaction.unreported, Reaction.afterRecords, Reaction.after, List.filter_append, nothing]
  rfl

theorem unheard_reports (message : Message) (thrown : Option Thrown) :
    ∀ r ∈ s.unheard message thrown, r.message ∈ Logging.failureReports := by
  intro r mem
  rw [unheard.eq_def] at mem
  split at mem
  · rename_i event e
    rw [eq_of_mem_write mem]
    refine List.mem_map.2 ⟨event.name, List.mem_append_left _ ?_, rfl⟩
    cases event <;> simp [LimiterEvent.name, LimiterEvent.names]
  · cases mem

theorem unheardByPool_reports {event : String} (own : event ∈ PoolEvent.names)
    (thrown : Option Thrown) :
    ∀ r ∈ s.unheardByPool event thrown, r.message ∈ Logging.failureReports := by
  intro r mem
  rw [unheardByPool.eq_def] at mem
  split at mem
  · rw [eq_of_mem_write mem]
    exact List.mem_map.2 ⟨event, List.mem_append_right _ own, rfl⟩
  · cases mem

/-- Whether listeners throw makes no difference but that it is recorded. -/
theorem goOnFrom_heard (frame : Frame) (thrown : Option Thrown) :
    (s.goOnFrom frame (.heard thrown)).map Reaction.unreported =
      (s.goOnFrom frame (.heard none)).map Reaction.unreported := by
  have same (r : Reaction) {records records' : List Logging.Record}
      (reports : ∀ r ∈ records, r.message ∈ Logging.failureReports)
      (reports' : ∀ r ∈ records', r.message ∈ Logging.failureReports) :
      some (r.afterRecords records).unreported = some (r.afterRecords records').unreported := by
    rw [unreported_of_reports r reports, unreported_of_reports r reports']
  cases frame with
  | message tag current rest resume purpose =>
      cases rest <;> exact same _ (s.unheard_reports current _) (s.unheard_reports current _)
  | taskError inPump =>
      exact same _ (s.unheardByPool_reports (by decide) _) (s.unheardByPool_reports (by decide) _)
  | idle inPump =>
      exact same _ (s.unheardByPool_reports (by decide) _) (s.unheardByPool_reports (by decide) _)
  | offer | hand | task => rfl

theorem react_heard_unreported (thrown thrown' : Option Thrown) :
    (s.react (.reply (.heard thrown))).unreported =
      (s.react (.reply (.heard thrown'))).unreported := by
  have quiet (thrown : Option Thrown) : (s.react (.reply (.heard thrown))).unreported =
      (s.react (.reply (.heard none))).unreported := by
    rw [react, react, System.reply, System.reply]
    cases s.stack with
    | nil => rfl
    | cons frame rest =>
        have went := goOnFrom_heard { s with stack := rest } frame thrown
        dsimp only
        cases here : ({ s with stack := rest } : System).goOnFrom frame (.heard thrown) <;>
          cases there : ({ s with stack := rest } : System).goOnFrom frame (.heard none) <;>
          simp_all
  rw [quiet, quiet thrown']

end System

namespace Transcript
variable {x y : Transcript}

theorem Alike.play (h : x.Alike y) {m m' : Move}
    (moved : (x.system.react m).unreported = (x.system.react m').unreported) :
    (x.play m).Alike (y.play m') := by
  rw [h.system] at moved
  obtain ⟨system, notes, signal⟩ := Reaction.mk.inj moved
  constructor
  · simp only [Transcript.play, History.play, h.system, system]
  · simp only [Transcript.play, History.play, List.filter_append, h.system, h.notes, notes]
  · simp only [Transcript.play, h.system, h.signals, signal]

theorem Alike.hearOne (h : x.Alike y) (ears ears' : Ears) :
    (x.hearOne ears).Alike (y.hearOne ears') := by
  rw [Transcript.hearOne, Transcript.hearOne, ← h.system]
  cases x.system.stack.head? with
  | none => exact h
  | some frame =>
      have both := (ears.hear_isSome x.signals frame).trans (ears'.hear_isSome y.signals frame).symm
      simp only [Option.bind_some]
      cases here : ears.hear x.signals frame <;> cases there : ears'.hear y.signals frame
      · exact h
      · simp [here, there] at both
      · simp [here, there] at both
      · exact h.play (x.system.react_heard_unreported _ _)

theorem Alike.listen (h : x.Alike y) (ears ears' : Ears) :
    (x.listen ears).Alike (y.listen ears') := by
  rw [Transcript.listen, Transcript.listen, ← h.system]
  induction x.system.toHear generalizing x y with
  | zero => exact h
  | succ n ih => exact ih (h.hearOne ears ears')

theorem Alike.performs (h : x.Alike y) (ears ears' : Ears) (ms : List Move) :
    (x.performs ears ms).Alike (y.performs ears' ms) := by
  induction ms generalizing x y with
  | nil => exact h
  | cons m ms ih => exact ih ((h.play rfl).listen ears ears')

end Transcript

namespace Slot

def Notice.toHear : Notice → Nat
  | .queued _ (some _) => 2
  | _ => 1

def Report.toHear (r : Report) : Nat := r.notice.toHear + r.resume.toHear

def Progress.toHear : Progress → Nat
  | .report r => r.toHear
  | .offer .. => 1
  | .done .. => 0

variable (setting : Setting) (slot : Slot) (ticket : Ticket)

theorem after_toHear (p : Progress) (records : List Logging.Record) :
    (p.after records).toHear = p.toHear := by
  cases p <;> rfl

theorem place_toHear : (place setting slot ticket).toHear ≤ 2 := by
  rw [place]
  split
  · cases h : slot.pending <;>
      simp [Progress.toHear, Report.toHear, Notice.toHear, Resume.toHear]
  · simp [Progress.toHear]

theorem submit_toHear : (submit setting slot ticket).toHear ≤ 3 := by
  simp only [submit]
  split
  · exact Nat.le_refl 3
  · rw [after_toHear]
    exact Nat.le_succ_of_le (place_toHear setting slot ticket)

theorem handOver_toHear : (handOver setting slot).toHear ≤ 3 := by
  rw [handOver]
  split
  · rw [after_toHear]
    exact submit_toHear setting _ _
  · exact Nat.zero_le 3

theorem resume_toHear (r : Resume) : (resume setting slot r).toHear ≤ r.toHear := by
  cases r with
  | place ticket => exact place_toHear setting _ ticket
  | release => exact Nat.le_refl 4
  | handOver => exact handOver_toHear setting slot
  | answer queued => exact Nat.le_refl 0

end Slot

/-- A step of a slot, begun above the calls `below`, has come to a runner outside, or it is over: it
has answered its submission, returned to whoever told the slot, or settled the work that has ended. -/
inductive System.Proceeded (tag : Tag) (purpose : Purpose) (below : List Frame) :
    System → Signal → Prop
  | asked {s : System} (ticket : Ticket) (stack : s.stack = .offer tag ticket purpose :: below) :
      Proceeded tag purpose below s (.call (.offer (.limited tag ticket)))
  | ended (s : System) (queued : Bool) (stack : s.stack = below) :
      Proceeded tag purpose below (s.finishStep tag purpose queued).system
        (s.finishStep tag purpose queued).signal

/-- A step of a slot has proceeded, but for fewer than so many calls to those who hear. -/
def Reaction.Proceeds (tag : Tag) (purpose : Purpose) (below : List Frame) (most : Nat)
    (r : Reaction) : Prop :=
  r.system.Proceeded tag purpose below r.signal ∨
    ∃ current rest resume, r.system.stack = .message tag current rest resume purpose :: below ∧
      1 + rest.length + resume.toHear ≤ most

/-- At most one call is open above those below, and it is not followed by more than so many others. -/
def System.Tells (s : System) (below : List Frame) (most : Nat) : Prop :=
  s.stack = below ∨ ∃ frame, s.stack = frame :: below ∧ frame.toHear ≤ most

theorem System.Tells.mono {s : System} {below : List Frame} {most more : Nat}
    (h : s.Tells below most) (le : most ≤ more) : s.Tells below more := by
  rcases h with left | ⟨frame, stack, few⟩
  · exact .inl left
  · exact .inr ⟨frame, stack, few.trans le⟩

namespace System
variable (s : System) (tag : Tag) (ticket : Ticket) (purpose : Purpose)

theorem pump_tells : s.pump.system.Tells s.stack 0 := by
  rw [pump]
  split
  · exact .inr ⟨_, rfl, Nat.le_refl 0⟩
  · exact .inl rfl

theorem leave_tells (inPump : Bool) : (s.leave inPump).system.Tells s.stack 0 := by
  cases inPump with
  | true => exact s.pump_tells
  | false => exact .inl rfl

theorem freeLane_tells (pool : Pool) (inPump : Bool) : (s.freeLane pool inPump).system.Tells s.stack 1 := by
  have left (t : System) (below : t.stack = s.stack) : (t.leave inPump).system.Tells s.stack 1 := by
    rw [← below]
    exact (t.leave_tells inPump).mono (Nat.zero_le 1)
  rw [freeLane_eq]
  change System.Tells (Reaction.system (if _ then _ else _)) s.stack 1
  split
  · exact left _ (s.schedulePump_stack _)
  · split
    · exact left _ rfl
    · exact .inr ⟨_, rfl, Nat.le_refl 1⟩

theorem finishStep_tells (queued : Bool) : (s.finishStep tag purpose queued).system.Tells s.stack 0 := by
  cases purpose with
  | submit ticket => exact .inl rfl
  | complete => exact .inl rfl
  | conclude run outcome inCall =>
      exact leave_tells (s.pushJob (.goOn run outcome)) (inCall && run.starter == .lane)

theorem messages_toHear (notice : Slot.Notice) :
    1 + (s.messages tag notice).2.length ≤ notice.toHear := by
  rw [messages]
  cases notice with
  | queued ticket replaced =>
      cases s.audience <;> cases replaced <;> simp [LimiterEvent.ofNotice, Slot.Notice.toHear]
  | _ => cases s.audience <;> simp [LimiterEvent.ofNotice, Slot.Notice.toHear]

theorem announce_proceeds (report : Slot.Report) :
    (s.announce tag purpose report).Proceeds tag purpose s.stack report.toHear :=
  .inr ⟨_, _, _, rfl, Nat.add_le_add_right (s.messages_toHear tag report.notice) _⟩

theorem accepted_proceeds : (s.accepted tag ticket purpose).Proceeds tag purpose s.stack 1 :=
  s.announce_proceeds tag purpose _

theorem refused_proceeds (e : Thrown) :
    (s.refused tag ticket e purpose).Proceeds tag purpose s.stack 1 :=
  s.announce_proceeds tag purpose _

theorem offer_proceeds : (s.offer tag ticket purpose).Proceeds tag purpose s.stack 1 := by
  rw [offer]
  cases s.pool with
  | none => exact .inl (.asked ticket rfl)
  | some pool =>
      dsimp only
      cases pool.accept (.limited tag ticket) with
      | ok later =>
          rw [← s.schedulePump_stack later]
          exact accepted_proceeds _ tag ticket purpose
      | error f => exact s.refused_proceeds tag ticket purpose (.fault f)

theorem follow_proceeds (p : Slot.Progress) :
    (s.follow tag purpose p).Proceeds tag purpose s.stack p.toHear := by
  cases p with
  | report report => exact s.announce_proceeds tag purpose report
  | offer slot records ticket => exact offer_proceeds (s.setSlot tag slot) tag ticket purpose
  | done slot records queued => exact .inl (.ended (s.setSlot tag slot) queued rfl)

theorem Proceeded.tells {s : System} {tag : Tag} {purpose : Purpose} {below : List Frame}
    {signal : Signal} (h : s.Proceeded tag purpose below signal) : s.Tells below 0 := by
  cases h with
  | asked ticket stack => exact .inr ⟨_, stack, Nat.le_refl 0⟩
  | ended s queued stack => exact stack ▸ s.finishStep_tells tag purpose queued

end System

namespace Reaction
variable {tag : Tag} {purpose : Purpose} {below : List Frame} {most more : Nat} {r : Reaction}

theorem Proceeds.mono (h : r.Proceeds tag purpose below most) (le : most ≤ more) :
    r.Proceeds tag purpose below more := by
  rcases h with proceeded | ⟨current, rest, resume, stack, few⟩
  · exact .inl proceeded
  · exact .inr ⟨current, rest, resume, stack, few.trans le⟩

theorem Proceeds.tells (h : r.Proceeds tag purpose below most) : r.system.Tells below most := by
  rcases h with proceeded | ⟨current, rest, resume, stack, few⟩
  · exact proceeded.tells.mono (Nat.zero_le most)
  · exact .inr ⟨_, stack, few⟩

end Reaction

namespace System
variable {s : System} {below : List Frame}

theorem toHear_eq {frame : Frame} (top : s.stack = frame :: below) : s.toHear = frame.toHear := by
  rw [toHear, top]
  rfl

/-- A step of a slot goes on when the audience has heard. -/
theorem heard_proceeds {tag : Tag} {purpose : Purpose} {current : Message} {rest : List Message}
    {resume : Slot.Resume} (top : s.stack = .message tag current rest resume purpose :: below)
    (thrown : Option Thrown) :
    (s.react (.reply (.heard thrown))).Proceeds tag purpose below (rest.length + resume.toHear) := by
  cases rest with
  | nil =>
      rw [react_heard thrown top]
      have went := follow_proceeds { s with stack := below } tag purpose
        (Slot.resume (s.limiter.setting tag) (s.limiter.slot tag) resume)
      exact went.mono (by simpa using Slot.resume_toHear (s.limiter.setting tag) _ resume)
  | cons next rest =>
      refine .inr ⟨next, rest, resume, ?_, ?_⟩
      · rw [react_heard_next thrown top]
      · simp [Nat.add_comm]

/-- After a call to those who hear fewer are left. -/
theorem heard_tells {frame : Frame} (top : s.stack = frame :: below) (hears : 0 < frame.toHear)
    (thrown : Option Thrown) :
    ∃ most < frame.toHear, (s.react (.reply (.heard thrown))).system.Tells below most := by
  cases frame with
  | message tag current rest resume purpose =>
      refine ⟨rest.length + resume.toHear, ?_, (heard_proceeds top thrown).tells⟩
      simp only [Frame.toHear]
      omega
  | taskError inPump =>
      refine ⟨1, Nat.lt_succ_self 1, ?_⟩
      rw [react, System.reply, top]
      simp only [goOnFrom]
      cases s.pool with
      | none => exact .inl rfl
      | some pool => exact freeLane_tells { s with stack := below } pool inPump
  | idle inPump =>
      refine ⟨0, Nat.lt_succ_self 0, ?_⟩
      rw [react, System.reply, top]
      exact leave_tells { s with stack := below } inPump
  | offer | hand | task => exact absurd hears (Nat.lt_irrefl 0)

/-- A move begins a step of a slot, above the calls below, or goes on with one when a runner outside
has replied. -/
inductive MovesSlot (s : System) : Move → Tag → Purpose → List Frame → Prop
  | submit (tag : Tag) : MovesSlot s (.submit tag) tag (.submit s.tickets) s.stack
  | complete {tag : Tag} (known : (s.limiter.slot? tag).isSome = true) :
      MovesSlot s (.complete tag) tag .complete s.stack
  | accept {tag : Tag} {ticket : Ticket} {purpose : Purpose} {below : List Frame}
      (asked : s.stack = .offer tag ticket purpose :: below) :
      MovesSlot s (.reply .accept) tag purpose below
  | refuse {tag : Tag} {ticket : Ticket} {purpose : Purpose} {below : List Frame}
      (asked : s.stack = .offer tag ticket purpose :: below) (e : Thrown) :
      MovesSlot s (.reply (.refuse e)) tag purpose below
  | threw {tag : Tag} {ticket : Ticket} {starter : Starter} {below : List Frame}
      (called : s.stack = .task ⟨.limited tag ticket, starter⟩ :: below) (e : Thrown) :
      MovesSlot s (.reply (.task (.threw e))) tag
        (.conclude ⟨.limited tag ticket, starter⟩ (.rejected e) true) below
  | job {tag : Tag} {ticket : Ticket} {starter : Starter} {outcome : Outcome} {jobs : List Job}
      (closed : s.stack = []) (next : s.loop.jobs = .conclude tag ticket starter outcome :: jobs) :
      MovesSlot s .job tag (.conclude ⟨.limited tag ticket, starter⟩ outcome false) []

theorem MovesSlot.below_subset {m : Move} {tag : Tag} {purpose : Purpose}
    (moves : s.MovesSlot m tag purpose below) : below ⊆ s.stack := by
  cases moves with
  | submit | complete => exact List.Subset.refl _
  | accept asked | refuse asked | threw asked =>
      rw [asked]
      exact List.subset_cons_self ..
  | job => exact List.nil_subset _

theorem react_proceeds {m : Move} {tag : Tag} {purpose : Purpose}
    (moves : s.MovesSlot m tag purpose below) :
    ∃ most, (s.react m).Proceeds tag purpose below most := by
  cases moves with
  | submit =>
      exact ⟨_, follow_proceeds { s with tickets := s.tickets + 1 } tag (.submit s.tickets)
        (Slot.submit (s.limiter.setting tag) (s.limiter.slot tag) s.tickets)⟩
  | complete known =>
      rw [react, if_pos known]
      exact ⟨_, s.announce_proceeds tag .complete _⟩
  | accept asked =>
      rw [react, System.reply, asked]
      exact ⟨_, accepted_proceeds { s with stack := below } tag _ purpose⟩
  | refuse asked e =>
      rw [react, System.reply, asked]
      exact ⟨_, refused_proceeds { s with stack := below } tag _ purpose e⟩
  | threw called e =>
      rw [react, System.reply, called]
      exact ⟨_, announce_proceeds { s with stack := below } tag _ _⟩
  | job closed next =>
      rw [react, runJob, closed, next]
      exact ⟨_, announce_proceeds { s with loop := { s.loop with jobs := _ }, stack := [] } tag _ _⟩

end System

namespace Transcript
variable {x : Transcript} {ears : Ears} {below : List Frame}

/-- None of the calls is one to those who hear. -/
def Quiet (frames : List Frame) : Prop := ∀ frame ∈ frames, frame.toHear = 0

theorem hearOne_of_quiet (none : x.system.toHear = 0) : x.hearOne ears = x := by
  rw [hearOne]
  cases top : x.system.stack.head? with
  | none => rfl
  | some frame =>
      have quiet : frame.toHear = 0 := by simpa [System.toHear, top] using none
      have unheard : ears.hear x.signals frame = Option.none := by
        rw [← Option.not_isSome_iff_eq_none, ears.hear_isSome]
        omega
      rw [Option.bind_some, unheard]

theorem hearOne_of_toHear (ears : Ears) (some : 0 < x.system.toHear) :
    ∃ thrown, x.hearOne ears = x.play (.reply (.heard thrown)) := by
  rw [hearOne]
  cases top : x.system.stack.head? with
  | none => simp [System.toHear, top] at some
  | some frame =>
      have hears : 0 < frame.toHear := by simpa [System.toHear, top] using some
      obtain ⟨thrown, heard⟩ :=
        Option.isSome_iff_exists.1 ((ears.hear_isSome x.signals frame).2 hears)
      exact ⟨thrown, by rw [Option.bind_some, heard]⟩

/-- What each call to those who hear keeps is so when all have heard. -/
theorem listen_induction (ears : Ears) {P : Transcript → Prop}
    (hear : ∀ x thrown, P x → 0 < x.system.toHear →
      P (x.play (.reply (.heard thrown))) ∧
        (x.play (.reply (.heard thrown))).system.toHear < x.system.toHear)
    (holds : P x) : P (x.listen ears) ∧ (x.listen ears).system.toHear = 0 := by
  have all (n : Nat) : ∀ x : Transcript, P x → x.system.toHear ≤ n →
      P ((hearOne ears)^[n] x) ∧ ((hearOne ears)^[n] x).system.toHear = 0 := by
    induction n with
    | zero => exact fun x holds few => ⟨holds, Nat.le_zero.1 few⟩
    | succ n ih =>
        intro x holds few
        rw [Function.iterate_succ_apply]
        rcases Nat.eq_zero_or_pos x.system.toHear with none | some
        · rw [hearOne_of_quiet none]
          exact ih x holds (by omega)
        · obtain ⟨thrown, heard⟩ := hearOne_of_toHear ears some
          obtain ⟨kept, fewer⟩ := hear x thrown holds some
          rw [heard]
          exact ih _ kept (by omega)
  exact all _ x holds (Nat.le_refl _)

theorem toHear_of_tells {s : System} {most : Nat} (quiet : Quiet below) (tells : s.Tells below most) :
    s.toHear ≤ most ∧ Quiet s.stack.tail := by
  rcases tells with rfl | ⟨frame, top, few⟩
  · refine ⟨?_, fun frame mem => quiet frame (List.mem_of_mem_tail mem)⟩
    cases top : s.stack with
    | nil => simp [System.toHear, top]
    | cons frame rest =>
        rw [System.toHear_eq top, quiet frame (by simp [top])]
        exact Nat.zero_le most
  · rw [System.toHear_eq top, top]
    exact ⟨few, quiet⟩

theorem quiet_of_toHear {s : System} (none : s.toHear = 0) (quiet : Quiet s.stack.tail) :
    Quiet s.stack := by
  cases top : s.stack with
  | nil => simp [Quiet]
  | cons frame rest =>
      rw [System.toHear_eq top] at none
      rw [top] at quiet
      intro f mem
      rcases List.mem_cons.1 mem with rfl | mem
      · exact none
      · exact quiet f mem

theorem exists_cons_of_toHear {s : System} (some : 0 < s.toHear) :
    ∃ frame below, s.stack = frame :: below ∧ 0 < frame.toHear := by
  cases top : s.stack with
  | nil => simp [System.toHear, top] at some
  | cons frame below => exact ⟨frame, below, rfl, System.toHear_eq top ▸ some⟩

/-- Once all have heard, control is with the surroundings. -/
theorem listen_quiet (quiet : Quiet x.system.stack.tail) : Quiet (x.listen ears).system.stack := by
  obtain ⟨kept, none⟩ := listen_induction ears (P := fun x => Quiet x.system.stack.tail)
    (fun x thrown quiet some => by
      obtain ⟨frame, below, top, hears⟩ := exists_cons_of_toHear some
      rw [top] at quiet
      obtain ⟨most, fewer, tells⟩ := System.heard_tells top hears thrown
      obtain ⟨few, hushed⟩ := toHear_of_tells quiet tells
      exact ⟨hushed, (few.trans_lt fewer).trans_eq (System.toHear_eq top).symm⟩) quiet
  exact quiet_of_toHear none kept

theorem perform_quiet (quiet : Quiet x.system.stack) (m : Move) :
    Quiet (x.perform ears m).system.stack := by
  refine listen_quiet ?_
  have tail {rest : List Frame} {r : Reaction} {inPump : Bool} (quiet : Quiet rest)
      (stack : (∃ frame, r.system.stack = frame :: rest ∧ frame.pumps = inPump) ∨
        r.system.stack = rest ∧ (inPump = true → r.system.pool.bind Pool.next? = none)) :
      Quiet r.system.stack.tail := by
    rcases stack with ⟨frame, opened, -⟩ | ⟨left, -⟩
    · rwa [opened]
    · exact fun frame mem => quiet frame (List.mem_of_mem_tail (left ▸ mem))
  rcases x.system.react_leaves m with leaves | ⟨reply, frame, rest, -, top, answered⟩
  · exact tail quiet leaves.stack
  · rw [top] at quiet
    exact tail (fun f mem => quiet f (List.mem_cons_of_mem _ mem))
      (System.goOnFrom_leaves _ answered).stack

theorem performs_quiet (quiet : Quiet x.system.stack) (ms : List Move) :
    Quiet (x.performs ears ms).system.stack := by
  induction ms generalizing x with
  | nil => exact quiet
  | cons m ms ih => exact ih (perform_quiet quiet m)

/-- With its last signal, a step of a slot has proceeded. -/
def Proceeded (x : Transcript) (tag : Tag) (purpose : Purpose) (below : List Frame) : Prop :=
  ∃ signal, x.signals.getLast? = some signal ∧ x.system.Proceeded tag purpose below signal

theorem perform_proceeded (quiet : Quiet x.system.stack) {m : Move} {tag : Tag} {purpose : Purpose}
    (moves : x.system.MovesSlot m tag purpose below) :
    (x.perform ears m).Proceeded tag purpose below := by
  have quiet : Quiet below := fun frame mem => quiet frame (moves.below_subset mem)
  -- While those who hear are called, the step is the last that was signalled.
  let P (y : Transcript) : Prop := ∃ (r : Reaction) (most : Nat), y.system = r.system ∧
    y.signals.getLast? = some r.signal ∧ r.Proceeds tag purpose below most
  have begun : P (x.play m) := by
    obtain ⟨most, proceeds⟩ := System.react_proceeds moves
    exact ⟨_, most, rfl, List.getLast?_concat, proceeds⟩
  obtain ⟨⟨r, most, system, last, proceeds⟩, none⟩ := listen_induction ears (P := P)
    (fun y thrown kept some => by
      obtain ⟨r, most, system, -, proceeded | ⟨current, rest, resume, stack, -⟩⟩ := kept
      · have none := (toHear_of_tells quiet proceeded.tells).1
        rw [system] at some
        omega
      · rw [← system] at stack
        have heard := System.heard_proceeds stack thrown
        refine ⟨⟨_, _, rfl, List.getLast?_concat, heard⟩, ?_⟩
        refine (toHear_of_tells quiet heard.tells).1.trans_lt ?_
        rw [System.toHear_eq stack, Frame.toHear]
        omega) begun
  rcases proceeds with proceeded | ⟨current, rest, resume, stack, -⟩
  · exact ⟨r.signal, last, system ▸ proceeded⟩
  · rw [← system] at stack
    rw [System.toHear_eq stack, Frame.toHear] at none
    omega

/-- Listeners of a limiter and of its pool, whatever they do but call back, make no difference to a
run: it comes to the same signals (answers to submissions, works offered to the runner, calls of
tasks and of listeners), to the same system (slots, counters, clock), and to the same notes (starts
and ends of works, what calls that wait for the pool are told), apart from the records that report
failures of listeners. After each move all have heard, and control is with the surroundings. No step
of a slot is broken off: each answers its submission, returns to its caller or settles its work, if
it does not stop at a runner outside, from which it goes on in the same way. -/
theorem listeners_make_no_difference {s : System} (closed : s.stack = []) (ears : Ears)
    (ms : List Move) :
    let x := (⟨⟨s, []⟩, []⟩ : Transcript).performs ears ms
    let y := (⟨⟨s, []⟩, []⟩ : Transcript).performs {} ms
    x.signals = y.signals ∧ x.system = y.system ∧
      x.notes.filter (fun note => !note.reports) = y.notes.filter (fun note => !note.reports) ∧
      (∀ frame ∈ x.system.stack, ears.hear x.signals frame = none) ∧
      ∀ m tag purpose below, x.system.MovesSlot m tag purpose below →
        (x.perform ears m).Proceeded tag purpose below := by
  intro x y
  have alike : x.Alike y := .performs ⟨rfl, rfl, rfl⟩ ears {} ms
  have quiet : Quiet x.system.stack := performs_quiet (by simp [Quiet, closed]) ms
  refine ⟨alike.signals, alike.system, alike.notes, fun frame mem => ?_,
    fun m tag purpose below moves => perform_proceeded quiet moves⟩
  rw [← Option.not_isSome_iff_eq_none, ears.hear_isSome, quiet frame mem]
  exact Nat.lt_irrefl 0

/-- A listener throws at both dispatches of a run, which is recorded and makes no other difference. -/
theorem failures_are_only_recorded :
    let s : System := { limiter := { limit := some (.ofInt 1), logger := some (.atLeast .error) } }
    let throws : Listener Ear := { body := fun _ => some (.value .undefined), once := false }
    let ears : Ears := { limiter := Emitter.add {} "dispatched" throws }
    let ms : List Move := [.submit "t", .reply .accept, .complete "t", .submit "t", .reply .accept]
    let x := (⟨⟨s, []⟩, []⟩ : Transcript).performs ears ms
    let y := (⟨⟨s, []⟩, []⟩ : Transcript).performs {} ms
    x.signals = y.signals ∧ x.system = y.system ∧ x.notes.countP Note.reports = 2 ∧
      y.notes.countP Note.reports = 0 ∧ x.system.limiter.tally.dispatched = 2 := by
  intro s throws ears ms
  obtain ⟨signals, system, -⟩ := listeners_make_no_difference (s := s) rfl ears ms
  refine ⟨signals, system, ?_, ?_, ?_⟩
  · decide +kernel
  · decide +kernel
  · decide +kernel

end Transcript

end Turnstile
