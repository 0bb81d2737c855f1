import Turnstile.Proofs.Reactions

/-!
A limiter in service: requests come one after another, and whatever the limiter asks meanwhile is
answered at once. The runner is outside and takes or refuses works as a switch tells it. A single
slot with its observer is in service in the same way.

What an announced transition or a handed task leads to then depends on the slot alone. `Slot.Course`
says what a whole step of a slot comes to, and every request comes to such a course.
-/
namespace Turnstile

/-- Tasks are named by the callers. -/
abbrev TaskName := Nat

inductive Request where
  | submit (tag : Tag) (task : TaskName)
  /-- The runner begins one of the works of a tag that it holds, and its task ends; `inCall` if one
  that fails throws while it is called. -/
  | settle (tag : Tag) (index : Nat) (outcome : Outcome) (inCall : Bool)
  /-- From now on the runner refuses all works with an error, or takes them. -/
  | switch (refusal : Option Thrown)

namespace Request

def tag? : Request → Option Tag
  | .submit tag _ | .settle tag _ _ _ => some tag
  | .switch _ => none

/-- Whether a request has to do with a tag; the runner has to do with all of them. -/
def concerns (tag : Tag) (r : Request) : Bool := r.tag?.all (· == tag)

/-- The tag and the task that are submitted. -/
def submission? : Request → Option (Tag × TaskName)
  | .submit tag task => some (tag, task)
  | .settle .. | .switch _ => none

/-- The tasks that are submitted, in this order. -/
def tasks (requests : List Request) : List TaskName :=
  (requests.filterMap submission?).map Prod.snd

/-- The task of the submission with this number. -/
def taskOf (requests : List Request) (ticket : Ticket) : TaskName := (tasks requests).getD ticket 0

/-- The tags that are submitted to. -/
def tags (requests : List Request) : List Tag := (requests.filterMap submission?).map Prod.fst

/-- What the runner refuses works with afterwards, if it does. -/
def refusal (before : Option Thrown) : Request → Option Thrown
  | .switch refusal => refusal
  | .submit .. | .settle .. => before

end Request

/-- How a task with this outcome comes back. -/
def Outcome.back (inCall : Bool) : Outcome → TaskReturn
  | .fulfilled => .settled .fulfilled
  | .rejected e => if inCall then .threw e else .settled (.rejected e)

/-- What is told of one transition of a slot, as events. -/
def LimiterEvent.all (tag : Tag) (notice : Slot.Notice) : List LimiterEvent :=
  (ofNotice tag notice).1 :: (ofNotice tag notice).2

namespace Slot

/-- What a step of a slot comes to: the slot by then, what was announced, and the task that the
runner was asked to take, which it may have taken. -/
structure Course where
  slot : Slot
  notices : List Notice := []
  handed : Option Ticket := none
  taken : Option Ticket := none
  queued : Bool := false

namespace Course

/-- The same course after one more transition. -/
def announcing (c : Course) (notice : Notice) : Course := { c with notices := notice :: c.notices }

end Course

section Course
variable (limit : Limit) (refusal : Option Thrown)

/-- A task is placed: it waits, or the runner takes or refuses it. -/
def placed (slot : Slot) (ticket : Ticket) : Course :=
  if limit.isReached slot.running then
    { slot := { slot with pending := some ticket }
      notices := [.queued ticket slot.pending]
      queued := true }
  else
    let running := slot.running.plus 1
    match refusal with
    | none =>
      { slot := { slot with running }
        notices := [.dispatched ticket running]
        handed := some ticket
        taken := some ticket }
    | some e =>
      { slot := { slot with running := running.plus (-1) }
        notices := [.rejected ticket e]
        handed := some ticket
        queued := true }

def submitted (slot : Slot) (ticket : Ticket) : Course :=
  if limit.isExceeded slot.running then
    (placed limit refusal { slot with running := limit.clamp slot.running } ticket).announcing
      (.anomaly .overflow slot.running)
  else placed limit refusal slot ticket

def handedOver (slot : Slot) : Course :=
  match slot.pending with
  | some ticket => submitted limit refusal { slot with pending := none } ticket
  | none => { slot }

def finished (slot : Slot) : Course :=
  let freed := { slot with running := slot.running.plus (-1) }
  (handedOver limit refusal freed).announcing (.finished freed.running)

def completed (slot : Slot) : Course :=
  if slot.running.le 0 then
    (finished limit refusal { slot with running := 1 }).announcing (.anomaly .underflow slot.running)
  else finished limit refusal slot

end Course
end Slot

/-- What a reaction says of the answer to a submission. -/
def Note.answer? : Note → Option (Tag × Bool)
  | .answered tag _ queued => some (tag, queued)
  | _ => none

def Note.offer? : Note → Option (Tag × Ticket)
  | .offered (.limited tag ticket) => some (tag, ticket)
  | _ => none

/-- The events that a signal tells of, to listeners or to an observer. -/
def Signal.events : Signal → List LimiterEvent
  | .call (.message (.event event)) => [event]
  | .call (.message (.notice tag notice)) => LimiterEvent.all tag notice
  | _ => []

/-- A system in service, and what was seen of it so far. -/
structure Service where
  system : System
  listeners : Message → Option Thrown := fun _ => none
  refusal : Option Thrown := none
  /-- Works of each tag that the runner took and has not begun. -/
  held : Tag → List Ticket := fun _ => []
  answers : List (Tag × Bool) := []
  events : List LimiterEvent := []
  /-- Works that the runner was asked to take. -/
  handed : List (Tag × Ticket) := []

namespace Service

def react (v : Service) (r : Reaction) : Service :=
  { v with
    system := r.system
    answers := v.answers ++ r.notes.filterMap Note.answer?
    events := v.events ++ r.signal.events
    handed := v.handed ++ r.notes.filterMap Note.offer? }

def hold (v : Service) (tag : Tag) (tickets : List Ticket) : Service :=
  { v with held := Function.update v.held tag tickets }

/-- Answers the call that is open, if it is one to listeners or to the runner. -/
def answerCall (v : Service) : Service :=
  match v.system.stack with
  | .message _ current _ _ _ :: _ => v.react (v.system.reply (.heard (v.listeners current)))
  | .offer tag ticket _ :: _ =>
    match v.refusal with
    | none => (v.hold tag (v.held tag ++ [ticket])).react (v.system.reply .accept)
    | some e => v.react (v.system.reply (.refuse e))
  | _ => v

/-- No request leads to more calls one after another: at most, a slot tells that no task was running
and that one has finished, finds too many running, and then tells of two tasks, or asks the runner and
tells what came of it. -/
def mostCalls : Nat := 5

/-- Makes a move and answers all that comes of it. -/
def move (v : Service) (m : Move) : Service :=
  answerCall^[mostCalls] (v.react (v.system.react m))

/-- The runner begins a work that it holds; its task comes back, and all jobs are run. -/
def begin (v : Service) (tag : Tag) (index : Nat) (result : TaskReturn) : Service :=
  match (v.held tag)[index]? with
  | some ticket =>
    let begun := (v.hold tag ((v.held tag).eraseIdx index)).move (.start (.limited tag ticket))
    ((begun.move (.reply (.task result))).move .job).move .job
  | none => v

def serve (v : Service) : Request → Service
  | .submit tag _ => v.move (.submit tag)
  | .settle tag index outcome inCall => v.begin tag index (outcome.back inCall)
  | .switch refusal => { v with refusal }

def serves (v : Service) (rs : List Request) : Service := rs.foldl serve v

@[simp] theorem react_after (v : Service) (notes : List Note) (r : Reaction) :
    v.react (r.after notes) =
      { v with
        answers := v.answers ++ notes.filterMap Note.answer?
        handed := v.handed ++ notes.filterMap Note.offer? }.react r := by
  simp [react, Reaction.after]

@[simp] theorem react_afterRecords (v : Service) (records : List Logging.Record) (r : Reaction) :
    v.react (r.afterRecords records) = v.react r := by
  simp [Reaction.afterRecords, List.filterMap_map, Function.comp_def, Note.answer?, Note.offer?]

/-- After so many calls at most one gets there. -/
def Comes (v : Service) (calls : Nat) (w : Service) : Prop := ∃ n ≤ calls, answerCall^[n] v = w

variable {v w x : Service}

theorem Comes.refl (v : Service) (calls : Nat) : v.Comes calls v := ⟨0, Nat.zero_le _, rfl⟩

theorem Comes.trans {m n : Nat} (first : v.Comes m w) (second : w.Comes n x) : v.Comes (m + n) x := by
  obtain ⟨k, hk, rfl⟩ := first
  obtain ⟨l, hl, rfl⟩ := second
  exact ⟨l + k, by omega, Function.iterate_add_apply ..⟩

theorem Comes.head {n : Nat} (h : v.answerCall.Comes n w) : v.Comes (n + 1) w := by
  obtain ⟨k, hk, rfl⟩ := h
  exact ⟨k + 1, by omega, rfl⟩

theorem Comes.mono {m n : Nat} (h : v.Comes m w) (le : m ≤ n) : v.Comes n w := by
  obtain ⟨k, hk, same⟩ := h
  exact ⟨k, hk.trans le, same⟩

/-- Where no call is left to answer, all of them have been answered. -/
theorem Comes.eq {n : Nat} (h : v.Comes n w) (rest : w.answerCall = w) : answerCall^[n] v = w := by
  obtain ⟨k, hk, rfl⟩ := h
  obtain ⟨l, rfl⟩ := Nat.exists_eq_add_of_le' hk
  rw [Function.iterate_add_apply, Function.iterate_fixed rest]

/-- A note that is neither an answer nor an offer makes no difference. -/
theorem react_silent {note : Note} (v : Service) (r : Reaction) (unanswered : note.answer? = none)
    (unoffered : note.offer? = none) : v.react (r.after [note]) = v.react r := by
  simp [unanswered, unoffered]

@[simp] theorem react_returned (v : Service) (s : System) :
    v.react s.returned = { v with system := s } := by
  simp [react, System.returned, Signal.events]

theorem react_callOut (v : Service) (s : System) (frame : Frame) (call : Call) :
    v.react (s.callOut frame call) =
      { v with
        system := { s with stack := frame :: s.stack }
        events := v.events ++ (Signal.call call).events } := by
  simp [react, System.callOut]

/-- These events were told. -/
def tell (v : Service) (events : List LimiterEvent) : Service :=
  { v with events := v.events ++ events }

/-- The messages that are left are heard, and the slot goes on. -/
theorem message_comes {tag : Tag} {current : Message} {rest : List LimiterEvent}
    {resume : Slot.Resume} {purpose : Purpose} {stack : List Frame}
    (top : v.system.stack = .message tag current (rest.map .event) resume purpose :: stack) :
    v.Comes (rest.length + 1)
      ((v.tell rest).react (({ v.system with stack } : System).resumeStep tag resume purpose)) := by
  induction rest generalizing v current with
  | nil =>
      refine .head ?_
      have last : v.answerCall = (v.tell []).react
          (({ v.system with stack } : System).resumeStep tag resume purpose) := by
        simp only [answerCall, top, System.reply, System.goOnFrom, List.map_nil, Option.getD_some,
          react_afterRecords, tell, List.append_nil]
      rw [last]
      exact .refl _ _
  | cons next rest ih =>
      refine .head ?_
      have more : v.answerCall = { v.tell [next] with
          system := { v.system with
            stack := .message tag (.event next) (rest.map .event) resume purpose :: stack } } := by
        simp only [answerCall, top, System.reply, System.goOnFrom, List.map_cons, Option.getD_some,
          react_afterRecords, react_callOut, tell]
        rfl
      have left : v.answerCall.system.stack =
          .message tag (.event next) (rest.map .event) resume purpose :: stack := by rw [more]
      have later := ih left
      rw [more] at later ⊢
      simp only [tell, List.append_assoc, List.singleton_append] at later ⊢
      exact later

/-- The slot has changed like this, and it was told. -/
def hear (v : Service) (tag : Tag) (slot : Slot) (notice : Slot.Notice) : Service :=
  { v with
    system := { v.system with limiter := (v.system.limiter.setSlot tag slot).count notice }
    events := v.events ++ LimiterEvent.all tag notice }

/-- Either audience is told of the same events. -/
theorem messages_eq (s : System) (tag : Tag) (notice : Slot.Notice) :
    ∃ message rest, s.messages tag notice = (message, rest.map .event) ∧
      (Signal.call (.message message)).events ++ rest = LimiterEvent.all tag notice ∧
      rest.length < (LimiterEvent.all tag notice).length := by
  cases ha : s.audience with
  | observer =>
      refine ⟨.notice tag notice, [], ?_, List.append_nil _, Nat.succ_pos _⟩
      simp [System.messages, ha]
  | listeners =>
      refine ⟨.event (LimiterEvent.ofNotice tag notice).1, (LimiterEvent.ofNotice tag notice).2, ?_,
        rfl, Nat.lt_succ_self _⟩
      simp [System.messages, ha]

/-- Goes on with a slot after what its audience has heard. -/
theorem announce_comes (v : Service) (tag : Tag) (purpose : Purpose) (report : Slot.Report) :
    (v.react (v.system.announce tag purpose report)).Comes (LimiterEvent.all tag report.notice).length
      ((v.hear tag report.slot report.notice).react
        ((v.hear tag report.slot report.notice).system.resumeStep tag report.resume purpose)) := by
  obtain ⟨message, rest, messages, all, calls⟩ := messages_eq v.system tag report.notice
  refine .mono ?_ calls
  have later := message_comes (v := { v with
    system := { v.system with
      limiter := (v.system.limiter.setSlot tag report.slot).count report.notice
      stack := .message tag message (rest.map .event) report.resume purpose :: v.system.stack }
    events := v.events ++ (Signal.call (.message message)).events }) rfl
  simp only [tell, List.append_assoc, all] at later
  have quiet : [Note.noticed tag report.notice].filterMap Note.answer? = [] ∧
      [Note.noticed tag report.notice].filterMap Note.offer? = [] := ⟨rfl, rfl⟩
  simp only [System.announce, messages, react_afterRecords, react_after, react_callOut, quiet,
    List.append_nil]
  exact later

/-- What a course makes of a slot, and what is seen of it. -/
def course (v : Service) (tag : Tag) (c : Slot.Course) : Service :=
  { v with
    system := { v.system with
      limiter := c.notices.foldl Limiter.count (v.system.limiter.setSlot tag c.slot) }
    held := Function.update v.held tag (v.held tag ++ c.taken.toList)
    events := v.events ++ c.notices.flatMap (LimiterEvent.all tag)
    handed := v.handed ++ c.handed.toList.map (tag, ·) }

/-- A course to its end, which is that of the purpose. -/
def close (v : Service) (tag : Tag) (purpose : Purpose) (c : Slot.Course) : Service :=
  (v.course tag c).react ((v.course tag c).system.finishStep tag purpose c.queued)

section Courses
variable (tag : Tag) (purpose : Purpose)

theorem setSlot_count (l : Limiter) (slot : Slot) (notice : Slot.Notice) :
    (l.count notice).setSlot tag slot = (l.setSlot tag slot).count notice := rfl

/-- After its last notice a step is at its end. -/
theorem resumeStep_answer (v : Service) (slot : Slot) (notice : Slot.Notice) (queued : Bool) :
    (v.hear tag slot notice).system.resumeStep tag (.answer queued) purpose =
      (v.hear tag slot notice).system.finishStep tag purpose queued := by
  have same : (v.hear tag slot notice).system.setSlot tag
      ((v.hear tag slot notice).system.limiter.slot tag) = (v.hear tag slot notice).system := by
    simp [hear, System.setSlot, setSlot_count]
  simp only [System.resumeStep, Slot.resume, System.follow, same]
  rfl

/-- The last notice of a step is heard. -/
theorem last_comes (v : Service) (report : Slot.Report) (queued : Bool)
    (last : report.resume = .answer queued) :
    (v.react (v.system.announce tag purpose report)).Comes (LimiterEvent.all tag report.notice).length
      (v.close tag purpose { slot := report.slot, notices := [report.notice], queued }) := by
  have heard := v.announce_comes tag purpose report
  rw [last, resumeStep_answer] at heard
  simpa [close, course, hear] using heard

/-- The runner outside has been asked to take a task. -/
def asked (v : Service) (slot : Slot) (ticket : Ticket) : Service :=
  { v with
    system := { v.system.setSlot tag slot with stack := .offer tag ticket purpose :: v.system.stack }
    handed := v.handed ++ [(tag, ticket)] }

theorem react_offer {v : Service} (outside : v.system.pool = none) (slot : Slot) (ticket : Ticket) :
    v.react (v.system.follow tag purpose (.offer slot [] ticket)) =
      v.asked tag purpose slot ticket := by
  have free : (v.system.setSlot tag slot).pool = none := outside
  simp only [System.follow, react_afterRecords, System.offer, free, react_after, react_callOut, asked]
  simp [Note.answer?, Note.offer?, Signal.events, System.setSlot]

theorem taken_comes {v : Service} (accepts : v.refusal = none) (slot : Slot) (ticket : Ticket) :
    (v.asked tag purpose slot ticket).answerCall.Comes 1
      (v.close tag purpose
        { slot, notices := [.dispatched ticket slot.running], handed := some ticket
          taken := some ticket }) := by
  let placed : System := v.system.setSlot tag slot
  let w : Service := { v.hold tag (v.held tag ++ [ticket]) with
    system := placed
    handed := v.handed ++ [(tag, ticket)] }
  have taken : (v.asked tag purpose slot ticket).answerCall = w.react (placed.announce tag purpose
      (Slot.accepted (placed.limiter.setting tag) slot ticket)) := by
    simp only [answerCall, asked, accepts, System.reply, System.goOnFrom, Option.getD_some,
      System.accepted, react_after]
    simp [hold, w, placed, System.setSlot, Note.answer?, Note.offer?, react, accepts]
  have same : w.close tag purpose { slot, notices := [.dispatched ticket slot.running] } =
      v.close tag purpose { slot, notices := [.dispatched ticket slot.running],
                            handed := some ticket, taken := some ticket } := by
    simp [close, course, w, hold, placed, System.setSlot]
  rw [taken, ← same]
  exact w.last_comes tag purpose
    (Slot.accepted (placed.limiter.setting tag) slot ticket) false rfl

theorem refused_comes {v : Service} {e : Thrown} (refuses : v.refusal = some e) (slot : Slot)
    (ticket : Ticket) :
    (v.asked tag purpose slot ticket).answerCall.Comes 1
      (v.close tag purpose
        { slot := { slot with running := slot.running.plus (-1) }
          notices := [.rejected ticket e]
          handed := some ticket
          queued := true }) := by
  let placed : System := v.system.setSlot tag slot
  let freed : Slot := { slot with running := slot.running.plus (-1) }
  let w : Service := { v with system := placed, handed := v.handed ++ [(tag, ticket)] }
  have given : (v.asked tag purpose slot ticket).answerCall = w.react (placed.announce tag purpose
      (Slot.refused (placed.limiter.setting tag) slot ticket e)) := by
    simp only [answerCall, asked, refuses, System.reply, System.goOnFrom, Option.getD_some,
      System.refused]
    simp [w, placed, System.setSlot, react, refuses]
  have same : w.close tag purpose { slot := freed, notices := [.rejected ticket e],
                                    queued := true } =
      v.close tag purpose { slot := freed, notices := [.rejected ticket e],
                            handed := some ticket, queued := true } := by
    simp [close, course, w, placed, System.setSlot]
  rw [given, ← same]
  exact w.last_comes tag purpose
    (Slot.refused (placed.limiter.setting tag) slot ticket e) true rfl

/-- The runner outside takes or refuses a task as it is told, and the slot tells of it. -/
theorem offer_comes {v : Service} (outside : v.system.pool = none) (slot : Slot) (ticket : Ticket) :
    (v.react (v.system.follow tag purpose (.offer slot [] ticket))).Comes 2
      (v.close tag purpose <|
        match v.refusal with
        | none =>
          { slot, notices := [.dispatched ticket slot.running], handed := some ticket
            taken := some ticket }
        | some e =>
          { slot := { slot with running := slot.running.plus (-1) }
            notices := [.rejected ticket e]
            handed := some ticket
            queued := true }) := by
  rw [react_offer tag purpose outside]
  refine .head ?_
  cases refusal : v.refusal with
  | none => exact taken_comes tag purpose refusal slot ticket
  | some e => exact refused_comes tag purpose refusal slot ticket

theorem place_comes {v : Service} (outside : v.system.pool = none) (setting : Slot.Setting)
    (slot : Slot) (ticket : Ticket) :
    (v.react (v.system.follow tag purpose (Slot.place setting slot ticket))).Comes 2
      (v.close tag purpose (Slot.placed setting.limit v.refusal slot ticket)) := by
  rw [Slot.place, Slot.placed]
  split
  · refine (v.last_comes tag purpose _ true rfl).mono ?_
    cases slot.pending <;> exact Nat.le_of_ble_eq_true rfl
  · exact offer_comes tag purpose outside _ ticket

theorem react_follow_after (v : Service) (s : System) (records : List Logging.Record)
    (p : Slot.Progress) :
    v.react (s.follow tag purpose (p.after records)) = v.react (s.follow tag purpose p) := by
  cases p <;> simp [System.follow, Slot.Progress.after, System.announce]

/-- A course that begins with a notice goes on once that was heard. -/
theorem close_announcing (v : Service) (slot : Slot) (notice : Slot.Notice) (c : Slot.Course) :
    (v.hear tag slot notice).close tag purpose c = v.close tag purpose (c.announcing notice) := by
  simp [close, course, hear, setSlot_count, Slot.Course.announcing]

/-- After a notice that is not the last one the slot goes on from what it was told with. -/
theorem next_comes {v : Service} (report : Slot.Report) {c : Slot.Course} {calls : Nat}
    (one : (LimiterEvent.all tag report.notice).length = 1)
    (next : ((v.hear tag report.slot report.notice).react
      ((v.hear tag report.slot report.notice).system.follow tag purpose
        (Slot.resume (v.system.limiter.setting tag) report.slot report.resume))).Comes calls
      ((v.hear tag report.slot report.notice).close tag purpose c)) :
    (v.react (v.system.announce tag purpose report)).Comes (calls + 1)
      (v.close tag purpose (c.announcing report.notice)) := by
  have heard := v.announce_comes tag purpose report
  have here : (v.hear tag report.slot report.notice).system.limiter.slot tag = report.slot := by
    simp [hear]
  rw [System.resumeStep, here, one] at heard
  rw [← close_announcing, add_comm]
  exact heard.trans next

variable {v : Service} (outside : v.system.pool = none)
include outside

theorem submit_comes (slot : Slot) (ticket : Ticket) :
    (v.react (v.system.follow tag purpose
      (Slot.submit (v.system.limiter.setting tag) slot ticket))).Comes 3
      (v.close tag purpose (Slot.submitted v.system.limiter.limit v.refusal slot ticket)) := by
  have same : (v.system.limiter.setting tag).limit = v.system.limiter.limit := rfl
  rw [Slot.submit, Slot.submitted, same]
  split
  · refine next_comes tag purpose _ ?_ ?_
    · rfl
    · exact place_comes (v := v.hear tag _ _) tag purpose outside _ _ ticket
  · rw [react_follow_after]
    exact (place_comes tag purpose outside _ slot ticket).mono (Nat.le_succ _)

theorem handOver_comes (slot : Slot) :
    (v.react (v.system.follow tag purpose
      (Slot.handOver (v.system.limiter.setting tag) slot))).Comes 3
      (v.close tag purpose (Slot.handedOver v.system.limiter.limit v.refusal slot)) := by
  rw [Slot.handOver, Slot.handedOver]
  cases slot.pending with
  | some ticket =>
      rw [react_follow_after]
      exact submit_comes tag purpose outside _ ticket
  | none =>
      have done : v.react (v.system.follow tag purpose (.done slot [] false)) =
          v.close tag purpose { slot } := by
        simp only [System.follow, react_afterRecords, close, course]
        simp [System.setSlot, react]
      rw [done]
      exact .refl _ _

theorem finish_comes (slot : Slot) :
    (v.react (v.system.announce tag purpose
      (Slot.finish (v.system.limiter.setting tag) slot))).Comes 4
      (v.close tag purpose (Slot.finished v.system.limiter.limit v.refusal slot)) := by
  refine next_comes tag purpose (Slot.finish (v.system.limiter.setting tag) slot) rfl ?_
  exact handOver_comes (v := v.hear tag _ _) tag purpose outside _

theorem complete_comes (slot : Slot) :
    (v.react (v.system.announce tag purpose
      (Slot.complete (v.system.limiter.setting tag) slot))).Comes 5
      (v.close tag purpose (Slot.completed v.system.limiter.limit v.refusal slot)) := by
  rw [Slot.complete, Slot.completed]
  split
  · refine next_comes tag purpose _ ?_ ?_
    · rfl
    · exact finish_comes (v := v.hear tag _ _) tag purpose outside _
  · exact (finish_comes tag purpose outside slot).mono (Nat.le_succ _)

end Courses

/-- Nothing is under way, and there is no pool. -/
def Resting (v : Service) : Prop :=
  v.system = { limiter := v.system.limiter, audience := v.system.audience,
               tickets := v.system.tickets }

theorem answerCall_of_closed (closed : v.system.stack = []) : v.answerCall = v := by
  rw [answerCall, closed]

/-- A move that comes to rest within so many calls. -/
theorem move_eq {m : Move} {n : Nat} (h : (v.react (v.system.react m)).Comes n w)
    (few : n ≤ mostCalls) (closed : w.system.stack = []) : v.move m = w :=
  (h.mono few).eq (answerCall_of_closed closed)

/-- A submission comes to the course of its slot, which it is answered with. -/
theorem serve_submit (rest : v.Resting) (tag : Tag) (task : TaskName) :
    let c := Slot.submitted v.system.limiter.limit v.refusal (v.system.limiter.slot tag)
      v.system.tickets
    v.serve (.submit tag task) =
      { v.course tag c with
        system := { (v.course tag c).system with tickets := v.system.tickets + 1 }
        answers := v.answers ++ [(tag, c.queued)] } := by
  intro c
  let w : Service := { v with system := { v.system with tickets := v.system.tickets + 1 } }
  have outside : w.system.pool = none := congrArg System.pool rest
  have closed : w.system.stack = [] := congrArg System.stack rest
  have entered : v.react (v.system.submit tag) = w.react (w.system.follow tag
      (.submit v.system.tickets) (Slot.submit (w.system.limiter.setting tag)
        (v.system.limiter.slot tag) v.system.tickets)) := by
    simp only [System.submit, react_after]
    simp [w, react, Note.answer?, Note.offer?]
  have comes := submit_comes tag (.submit v.system.tickets) outside (v.system.limiter.slot tag)
    v.system.tickets
  rw [← entered] at comes
  rw [serve, move_eq comes (by decide) (by exact closed)]
  simp [close, course, react, System.finishStep, w, c, Note.answer?, Note.offer?, Signal.events]

theorem leave_false (s : System) : s.leave false = s.returned := rfl

/-- A work is under way, and its task is being called. -/
def calling (v : Service) (run : Run) : Service :=
  { v with system := { v.system with stack := [.task run] } }

/-- What the slot of a tag comes to when one of its tasks has ended. -/
def afterEnd (v : Service) (tag : Tag) : Service :=
  v.course tag (Slot.completed v.system.limiter.limit v.refusal (v.system.limiter.slot tag))

/-- The slot knows that a task has ended, and whoever began the work is still to see it. -/
def unseen (v : Service) (tag : Tag) (ticket : Ticket) (outcome : Outcome) : Service :=
  { v.afterEnd tag with
    system := (v.afterEnd tag).system.pushJob (.goOn ⟨.limited tag ticket, .caller⟩ outcome) }

section Ends
variable {v : Service} (outside : v.system.pool = none) (closed : v.system.stack = [])
  (jobs : v.system.loop.jobs = [])

include outside closed in
theorem move_start (work : Work) : v.move (.start work) = v.calling ⟨work, .caller⟩ := by
  have called : v.react (v.system.start work) = v.calling ⟨work, .caller⟩ := by
    rw [System.start, outside]
    simp [react_callOut, calling, Note.answer?, Note.offer?, Signal.events, closed]
  exact Comes.eq (called ▸ .refl _ _) rfl

include closed in
theorem move_reply_settled (work : Work) (outcome : Outcome) :
    (v.calling ⟨work, .caller⟩).move (.reply (.task (.settled outcome))) =
      { v with system := v.system.pushJob (.ofRun ⟨work, .caller⟩ outcome) } := by
  refine move_eq (n := 0) ⟨0, le_rfl, ?_⟩ (Nat.zero_le _) closed
  refine (react_returned v _).trans ?_
  rw [← closed]
  rfl

include outside in
/-- A work of the runner that ends tells its slot, and is settled after that. -/
theorem conclude_comes (tag : Tag) (ticket : Ticket) (outcome : Outcome) (inCall : Bool) :
    (v.react (v.system.conclude tag ticket .caller outcome inCall)).Comes 5
      (v.unseen tag ticket outcome) := by
  have comes := complete_comes tag (.conclude ⟨.limited tag ticket, .caller⟩ outcome inCall) outside
    (v.system.limiter.slot tag)
  have outsider : (inCall && Starter.caller == .lane) = false := Bool.and_false _
  rw [close, System.finishStep, outsider, react_silent _ _ rfl rfl, leave_false, react_returned]
    at comes
  rw [System.conclude, System.complete, react_silent _ _ rfl rfl]
  exact comes

include outside closed in
theorem move_reply_threw (tag : Tag) (ticket : Ticket) (e : Thrown) :
    (v.calling ⟨.limited tag ticket, .caller⟩).move (.reply (.task (.threw e))) =
      v.unseen tag ticket (.rejected e) := by
  refine move_eq (n := 5) ?_ le_rfl closed
  have ended : (v.calling ⟨.limited tag ticket, .caller⟩).system.react
      (.reply (.task (.threw e))) =
        v.system.conclude tag ticket .caller (.rejected e) true := by
    simp only [System.react, System.reply, System.goOnFrom, System.taskReturned,
      Option.getD_some, calling]
    rw [← closed]
  rw [ended]
  exact conclude_comes outside tag ticket (.rejected e) true

include outside closed jobs in
theorem move_conclude (tag : Tag) (ticket : Ticket) (outcome : Outcome) :
    ({ v with system := v.system.pushJob (.conclude tag ticket .caller outcome) } : Service).move
      .job = v.unseen tag ticket outcome := by
  refine move_eq (n := 5) ?_ le_rfl closed
  have taken : (v.system.pushJob (.conclude tag ticket .caller outcome)).react .job =
      v.system.conclude tag ticket .caller outcome false := by
    simp only [System.react, System.runJob, System.pushJob, EventLoop.pushJob, closed, jobs,
      List.nil_append]
    rw [← jobs, ← closed]
  rw [taken]
  exact conclude_comes outside tag ticket outcome false

include closed jobs in
/-- The last job of a work that a caller began is to see its end. -/
theorem move_goOn (tag : Tag) (ticket : Ticket) (outcome : Outcome) :
    (v.unseen tag ticket outcome).move .job = v.afterEnd tag := by
  have queue : (v.unseen tag ticket outcome).system.loop.jobs =
      [.goOn ⟨.limited tag ticket, .caller⟩ outcome] := by
    simp [unseen, afterEnd, course, System.pushJob, EventLoop.pushJob, jobs]
  have still : (v.unseen tag ticket outcome).system.stack = [] := closed
  refine move_eq (n := 0) ⟨0, le_rfl, ?_⟩ (Nat.zero_le _) closed
  simp only [System.react, System.runJob, still, queue, System.goOn]
  refine (react_silent _ _ rfl rfl).trans ((react_returned _ _).trans ?_)
  simp [unseen, afterEnd, course, System.pushJob, EventLoop.pushJob, ← jobs, ← closed]

include closed jobs in
theorem move_job_of_none : v.move .job = v := by
  refine move_eq (n := 0) ⟨0, le_rfl, ?_⟩ (Nat.zero_le _) closed
  simp [System.react, System.runJob, closed, jobs, react, System.ignored, Signal.events]

end Ends

/-- However a task ends, its slot comes to the course of an end. -/
theorem begin_eq (rest : v.Resting) {tag : Tag} {index : Nat} {ticket : Ticket}
    (held : (v.held tag)[index]? = some ticket) {result : TaskReturn}
    (ended : ∀ promise, result ≠ .later promise) :
    v.begin tag index result = (v.hold tag ((v.held tag).eraseIdx index)).afterEnd tag := by
  let h := v.hold tag ((v.held tag).eraseIdx index)
  have outside : h.system.pool = none := congrArg System.pool rest
  have closed : h.system.stack = [] := congrArg System.stack rest
  have jobs : h.system.loop.jobs = [] := congrArg (EventLoop.jobs ∘ System.loop) rest
  rw [begin, held]
  change (((h.move _).move _).move _).move _ = _
  rw [move_start outside closed]
  cases result with
  | settled outcome =>
      rw [move_reply_settled closed]
      exact (congrArg (move · .job) (move_conclude outside closed jobs tag ticket outcome)).trans
        (move_goOn closed jobs tag ticket outcome)
  | threw e =>
      rw [move_reply_threw outside closed, move_goOn closed jobs]
      exact move_job_of_none closed jobs
  | later promise => exact absurd rfl (ended promise)

/-- All that a request comes to. -/
inductive Served (v : Service) : Request → Service → Prop
  | submit (tag : Tag) (task : TaskName) {c : Slot.Course}
      (course : c = Slot.submitted v.system.limiter.limit v.refusal (v.system.limiter.slot tag)
        v.system.tickets) :
      Served v (.submit tag task)
        { v.course tag c with
          system := { (v.course tag c).system with tickets := v.system.tickets + 1 }
          answers := v.answers ++ [(tag, c.queued)] }
  | settle {tag : Tag} {index : Nat} {ticket : Ticket} (outcome : Outcome) (inCall : Bool)
      (held : (v.held tag)[index]? = some ticket) :
      Served v (.settle tag index outcome inCall)
        ((v.hold tag ((v.held tag).eraseIdx index)).course tag
          (Slot.completed v.system.limiter.limit v.refusal (v.system.limiter.slot tag)))
  | nothing {tag : Tag} {index : Nat} (outcome : Outcome) (inCall : Bool)
      (none : (v.held tag)[index]? = none) : Served v (.settle tag index outcome inCall) v
  | switch (refusal : Option Thrown) : Served v (.switch refusal) { v with refusal }

theorem serve_served (rest : v.Resting) (r : Request) : v.Served r (v.serve r) := by
  cases r with
  | submit tag task =>
      rw [serve_submit rest]
      exact .submit tag task rfl
  | settle tag index outcome inCall =>
      cases held : (v.held tag)[index]? with
      | none =>
          rw [serve, begin, held]
          exact .nothing outcome inCall held
      | some ticket =>
          rw [serve, begin_eq rest held]
          · exact .settle outcome inCall held
          · intro promise
            cases outcome with
            | fulfilled => simp [Outcome.back]
            | rejected e => cases inCall <;> simp [Outcome.back]
  | switch refusal => exact .switch refusal

end Service
end Turnstile
