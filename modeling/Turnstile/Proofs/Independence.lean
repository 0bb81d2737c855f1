import Turnstile.Proofs.Service

/-!
Tags have nothing to do with one another. What is seen of one tag of a limiter in service is what is
seen of a single slot that gets only the requests that concern the tag, and the tallies of the
limiter are the sums of what the single slots tell of.

What a slot does with a task does not depend on its number, so tasks go by the names of their
submissions.
-/
namespace Turnstile

namespace Slot
variable (name : Ticket → TaskName)

def rename (slot : Slot) : Slot := { slot with pending := slot.pending.map name }

def Notice.rename : Notice → Notice
  | .dispatched ticket running => .dispatched (name ticket) running
  | .queued ticket replaced => .queued (name ticket) (replaced.map name)
  | .finished running => .finished running
  | .rejected ticket e => .rejected (name ticket) e
  | .anomaly kind observed => .anomaly kind observed

def Course.rename (c : Course) : Course where
  slot := c.slot.rename name
  notices := c.notices.map (Notice.rename name)
  handed := c.handed.map name
  taken := c.taken.map name
  queued := c.queued

theorem Course.announcing_rename (c : Course) (notice : Notice) :
    (c.announcing notice).rename name = (c.rename name).announcing (notice.rename name) := rfl

section Courses
variable (limit : Limit) (refusal : Option Thrown) (slot : Slot)

theorem placed_rename (ticket : Ticket) :
    (placed limit refusal slot ticket).rename name =
      placed limit refusal (slot.rename name) (name ticket) := by
  rw [placed, placed]
  have same : (slot.rename name).running = slot.running := rfl
  rw [same]
  split
  · rfl
  · cases refusal <;> rfl

theorem submitted_rename (ticket : Ticket) :
    (submitted limit refusal slot ticket).rename name =
      submitted limit refusal (slot.rename name) (name ticket) := by
  rw [submitted, submitted]
  have same : (slot.rename name).running = slot.running := rfl
  rw [same]
  split
  · rw [Course.announcing_rename, placed_rename]
    rfl
  · exact placed_rename name limit refusal slot ticket

theorem handedOver_rename :
    (handedOver limit refusal slot).rename name = handedOver limit refusal (slot.rename name) := by
  obtain ⟨running, pending⟩ := slot
  cases pending with
  | some ticket => exact submitted_rename name limit refusal _ ticket
  | none => rfl

theorem finished_rename :
    (finished limit refusal slot).rename name = finished limit refusal (slot.rename name) := by
  rw [finished, finished, Course.announcing_rename, handedOver_rename]
  rfl

theorem completed_rename :
    (completed limit refusal slot).rename name = completed limit refusal (slot.rename name) := by
  rw [completed, completed]
  have same : (slot.rename name).running = slot.running := rfl
  rw [same]
  split
  · rw [Course.announcing_rename, finished_rename]
    rfl
  · exact finished_rename name limit refusal slot

end Courses

theorem snapshot_rename (setting : Setting) (slot : Slot) :
    snapshot setting (slot.rename name) = snapshot setting slot := by
  simp [snapshot, rename]

end Slot

namespace LimiterEvent

/-- Events do not tell of numbers. -/
theorem all_rename (tag : Tag) (name : Ticket → TaskName) (notice : Slot.Notice) :
    all tag (notice.rename name) = all tag notice := by
  cases notice with
  | queued ticket replaced => cases replaced <;> rfl
  | _ => rfl

theorem tag_of_all {tag : Tag} {notice : Slot.Notice} {e : LimiterEvent} (mem : e ∈ all tag notice) :
    e.tag = tag := by
  cases notice with
  | queued ticket replaced =>
      cases replaced with
      | none => rw [List.mem_singleton.1 mem]; rfl
      | some old =>
          rcases List.mem_cons.1 mem with rfl | mem
          · rfl
          · rw [List.mem_singleton.1 mem]; rfl
  | _ => rw [List.mem_singleton.1 mem]; rfl

end LimiterEvent

namespace Tally

instance : Zero Tally := ⟨{}⟩

instance : Add Tally where
  add t u := {
    dispatched := t.dispatched + u.dispatched
    queued := t.queued + u.queued
    dropped := t.dropped + u.dropped
    finished := t.finished + u.finished
    rejected := t.rejected + u.rejected
    anomalies := t.anomalies + u.anomalies }

theorem add_def (t u : Tally) : t + u = {
    dispatched := t.dispatched + u.dispatched
    queued := t.queued + u.queued
    dropped := t.dropped + u.dropped
    finished := t.finished + u.finished
    rejected := t.rejected + u.rejected
    anomalies := t.anomalies + u.anomalies } := rfl

instance : AddCommMonoid Tally where
  add_assoc t u w := by simp only [add_def, Nat.add_assoc]
  zero_add t := by simp only [add_def, show (0 : Tally) = {} from rfl, Nat.zero_add]
  add_zero t := by simp only [add_def, show (0 : Tally) = {} from rfl, Nat.add_zero]
  add_comm t u := by simp only [add_def, Nat.add_comm]
  nsmul := nsmulRec

/-- How many events there are of each kind. -/
def ofEvents (events : List LimiterEvent) : Tally where
  dispatched := events.countP (·.name == "dispatched")
  queued := events.countP (·.name == "queued")
  dropped := events.countP (·.name == "dropped")
  finished := events.countP (·.name == "finished")
  rejected := events.countP (·.name == "rejected")
  anomalies := events.countP (·.name == "anomaly")

theorem ofEvents_append (first second : List LimiterEvent) :
    ofEvents (first ++ second) = ofEvents first + ofEvents second := by
  simp only [ofEvents, List.countP_append, add_def]

theorem count_eq (t : Tally) (tag : Tag) (notice : Slot.Notice) :
    t.count notice = t + ofEvents (LimiterEvent.all tag notice) := by
  cases notice with
  | queued ticket replaced =>
      cases replaced <;>
        simp [count, ofEvents, LimiterEvent.all, LimiterEvent.ofNotice, LimiterEvent.name, add_def]
  | _ => simp [count, ofEvents, LimiterEvent.all, LimiterEvent.ofNotice, LimiterEvent.name, add_def]

theorem foldl_count (t : Tally) (tag : Tag) (notices : List Slot.Notice) :
    notices.foldl count t = t + ofEvents (notices.flatMap (LimiterEvent.all tag)) := by
  induction notices generalizing t with
  | nil => exact (add_zero t).symm
  | cons notice rest ih =>
      rw [List.foldl_cons, ih, count_eq t tag, List.flatMap_cons, ofEvents_append, add_assoc]

end Tally

namespace Service

/-- The answers to the submissions to a tag. -/
def answersTo (v : Service) (tag : Tag) : List Bool :=
  v.answers.filterMap fun answer => if answer.1 = tag then some answer.2 else none

/-- The events that carry a tag. -/
def eventsOf (v : Service) (tag : Tag) : List LimiterEvent := v.events.filter (·.tag = tag)

/-- The submissions to a tag that the runner was asked to take, in this order. -/
def handedOf (v : Service) (tag : Tag) : List Ticket :=
  v.handed.filterMap fun work => if work.1 = tag then some work.2 else none

end Service

/-- All that is seen of one tag, and what the runner holds of it. -/
@[ext]
structure Standing where
  slot : Slot
  held : List TaskName
  answers : List Bool
  events : List LimiterEvent
  handed : List TaskName

namespace Standing

/-- The slot comes to a course. -/
def take (x : Standing) (tag : Tag) (c : Slot.Course) : Standing where
  slot := c.slot
  held := x.held ++ c.taken.toList
  answers := x.answers
  events := x.events ++ c.notices.flatMap (LimiterEvent.all tag)
  handed := x.handed ++ c.handed.toList

/-- The runner begins a work that it holds, and its task ends. -/
def finish (x : Standing) (tag : Tag) (limit : Limit) (refusal : Option Thrown) (index : Nat) :
    Standing :=
  match x.held[index]? with
  | some _ =>
    { x with held := x.held.eraseIdx index }.take tag (Slot.completed limit refusal x.slot)
  | none => x

/-- What a request makes of the tag that it concerns. -/
def serve (x : Standing) (tag : Tag) (limit : Limit) (refusal : Option Thrown) : Request → Standing
  | .submit _ task =>
    let c := Slot.submitted limit refusal x.slot task
    { x.take tag c with answers := x.answers ++ [c.queued] }
  | .settle _ index _ _ => x.finish tag limit refusal index
  | .switch _ => x

end Standing

namespace Service
variable {v w : Service} {tag own : Tag} {name : Ticket → TaskName} {c : Slot.Course}

def standing (v : Service) (name : Ticket → TaskName) (tag : Tag) : Standing where
  slot := (v.system.limiter.slot tag).rename name
  held := (v.held tag).map name
  answers := v.answersTo tag
  events := v.eventsOf tag
  handed := (v.handedOf tag).map name

theorem foldl_count (l : Limiter) (notices : List Slot.Notice) :
    notices.foldl Limiter.count l = { l with tally := notices.foldl Tally.count l.tally } := by
  induction notices generalizing l with
  | nil => rfl
  | cons notice rest ih => rw [List.foldl_cons, ih]; rfl

theorem course_slot? (v : Service) (own tag : Tag) (c : Slot.Course) :
    (v.course own c).system.limiter.slot? tag =
      if tag = own then some c.slot else v.system.limiter.slot? tag := by
  rw [course, foldl_count]
  exact Limiter.lookup_putSlot ..

theorem standing_course (v : Service) (name : Ticket → TaskName) (tag : Tag) (c : Slot.Course) :
    (v.course tag c).standing name tag = (v.standing name tag).take tag (c.rename name) := by
  have told : (c.notices.flatMap (LimiterEvent.all tag)).filter (·.tag = tag) =
      (c.notices.map (Slot.Notice.rename name)).flatMap (LimiterEvent.all tag) := by
    rw [List.flatMap_map, List.filter_eq_self.2]
    · exact List.flatMap_congr fun notice _ => (LimiterEvent.all_rename tag name notice).symm
    · intro e mem
      obtain ⟨notice, -, told⟩ := List.mem_flatMap.1 mem
      exact decide_eq_true (LimiterEvent.tag_of_all told)
  ext1
  · simp [standing, Limiter.slot, course_slot?, Standing.take, Slot.Course.rename]
  · cases taken : c.taken <;> simp [standing, course, Standing.take, Slot.Course.rename, taken]
  · rfl
  · change (v.events ++ _).filter _ = _
    rw [List.filter_append, told]
    rfl
  · cases handed : c.handed <;>
      simp [standing, handedOf, course, Standing.take, Slot.Course.rename, handed]

theorem standing_course_other (v : Service) (name : Ticket → TaskName) (c : Slot.Course)
    (other : own ≠ tag) : (v.course own c).standing name tag = v.standing name tag := by
  have silent : (c.notices.flatMap (LimiterEvent.all own)).filter (·.tag = tag) = [] := by
    rw [List.filter_eq_nil_iff]
    intro e mem
    obtain ⟨notice, -, told⟩ := List.mem_flatMap.1 mem
    simpa [LimiterEvent.tag_of_all told] using other
  ext1
  · simp [standing, Limiter.slot, course_slot?, other.symm]
  · simp [standing, course, other.symm]
  · rfl
  · change (v.events ++ _).filter _ = _
    rw [List.filter_append, silent, List.append_nil]
    rfl
  · cases handed : c.handed <;> simp [standing, handedOf, course, handed, other]

/-- One more submission has been answered. -/
theorem standing_answered (v : Service) (name : Ticket → TaskName) (tag own : Tag)
    (tickets : Ticket) (queued : Bool) :
    ({ v with
        system := { v.system with tickets }
        answers := v.answers ++ [(own, queued)] } : Service).standing name tag =
      { v.standing name tag with
        answers := (v.standing name tag).answers ++ if own = tag then [queued] else [] } := by
  ext1
  case answers => split <;> simp_all [standing, answersTo]
  all_goals rfl

theorem limit_course (v : Service) (tag : Tag) (c : Slot.Course) :
    (v.course tag c).system.limiter.limit = v.system.limiter.limit := by
  rw [course, foldl_count]
  rfl

namespace Served
variable {r : Request}

/-- Where a request concerns a tag, what it makes of the tag depends on nothing else. -/
theorem standing (h : v.Served r w) (concerned : r.concerns tag = true)
    (named : ∀ own task, r.submission? = some (own, task) → name v.system.tickets = task) :
    w.standing name tag = (v.standing name tag).serve tag v.system.limiter.limit v.refusal r := by
  have own {other : Tag} (same : r.tag? = some other) : other = tag := by
    simpa [Request.concerns, same] using concerned
  cases h with
  | submit other task course =>
      obtain rfl := own rfl
      have same := Slot.submitted_rename name v.system.limiter.limit v.refusal
        (v.system.limiter.slot other) v.system.tickets
      rw [named other task rfl, ← course] at same
      have queued := congrArg Slot.Course.queued same
      refine (standing_answered (v.course other _) name other other _ _).trans ?_
      rw [if_pos rfl, standing_course, same]
      exact congrArg (fun answer => { (v.standing name other).take other _ with
        answers := v.answersTo other ++ [answer] }) queued
  | @settle other index ticket outcome inCall held =>
      obtain rfl := own rfl
      have less : (v.hold other ((v.held other).eraseIdx index)).standing name other =
          { v.standing name other with held := (v.standing name other).held.eraseIdx index } := by
        simp [Service.standing, hold, answersTo, eventsOf, handedOf, List.eraseIdx_map]
      have found : (v.standing name other).held[index]? = some (name ticket) := by
        simp [Service.standing, held]
      rw [standing_course, Slot.completed_rename, less, Standing.serve, Standing.finish, found]
      rfl
  | @nothing other index outcome inCall none =>
      obtain rfl := own rfl
      have missing : (v.standing name other).held[index]? = Option.none := by
        simp [Service.standing, none]
      rw [Standing.serve, Standing.finish, missing]
  | switch refusal => rfl

theorem standing_other (h : v.Served r w) (other : r.concerns tag = false) :
    w.standing name tag = v.standing name tag := by
  have apart {own : Tag} (same : r.tag? = some own) : own ≠ tag := by
    simpa [Request.concerns, same] using other
  cases h with
  | submit own task course =>
      refine (standing_answered (v.course own _) name tag own _ _).trans ?_
      rw [if_neg (apart rfl), List.append_nil]
      exact standing_course_other v name _ (apart rfl)
  | @settle own index ticket outcome inCall held =>
      have elsewhere : tag ≠ own := (apart rfl).symm
      rw [standing_course_other _ _ _ (apart rfl)]
      simp [Service.standing, hold, elsewhere, answersTo, eventsOf, handedOf]
  | nothing => rfl
  | switch refusal => cases other

/-- A request leaves the limiter and its runner at rest, with the same limit. -/
theorem keeps (h : v.Served r w) (rest : v.Resting) :
    w.Resting ∧ w.system.limiter.limit = v.system.limiter.limit ∧
      w.system.tickets = v.system.tickets + r.submission?.toList.length ∧
      w.refusal = r.refusal v.refusal := by
  have course {u : Service} (rest : u.Resting) (own : Tag) (c : Slot.Course) (tickets : Ticket) :
      { (u.course own c).system with tickets } =
        ({ limiter := (u.course own c).system.limiter, audience := u.system.audience, tickets } :
          System) := by
    have system : (u.course own c).system = { u.system with
      limiter := (u.course own c).system.limiter } := rfl
    rw [system, rest]
  cases h with
  | submit own task => exact ⟨course rest own _ _, limit_course v own _, rfl, rfl⟩
  | @settle own index =>
      have held : (v.hold own ((v.held own).eraseIdx index)).Resting := rest
      exact ⟨course held own _ _, limit_course _ own _, rfl, rfl⟩
  | nothing => exact ⟨rest, rfl, rfl, rfl⟩
  | switch => exact ⟨rest, rfl, rfl, rfl⟩

/-- The tallies are those of the events. -/
theorem tally (h : v.Served r w) (counted : v.system.limiter.tally = Tally.ofEvents v.events) :
    w.system.limiter.tally = Tally.ofEvents w.events := by
  have course {u : Service} (counted : u.system.limiter.tally = Tally.ofEvents u.events)
      (own : Tag) (c : Slot.Course) :
      (u.course own c).system.limiter.tally = Tally.ofEvents (u.course own c).events := by
    simp only [Service.course, foldl_count, Limiter.setSlot_tally, counted,
      Tally.foldl_count _ own, Tally.ofEvents_append]
  cases h with
  | submit own task => exact course counted own _
  | @settle own index =>
      have held : (v.hold own ((v.held own).eraseIdx index)).system.limiter.tally =
          Tally.ofEvents (v.hold own ((v.held own).eraseIdx index)).events := counted
      exact course held own _
  | nothing => exact counted
  | switch => exact counted

end Served

/-- Nothing was ever submitted to the tag. -/
structure Unknown (v : Service) (tag : Tag) : Prop where
  slot : v.system.limiter.slot? tag = none
  held : v.held tag = []
  silent : v.eventsOf tag = []

namespace Served
variable {r : Request}

/-- A request makes a slot for no tag but its own. -/
theorem slot?_other (h : v.Served r w) (other : r.concerns tag = false) :
    w.system.limiter.slot? tag = v.system.limiter.slot? tag := by
  have apart {own : Tag} (same : r.tag? = some own) : tag ≠ own := by
    rintro rfl
    simp [Request.concerns, same] at other
  cases h with
  | submit own task => exact (course_slot? v own tag _).trans (if_neg (apart rfl))
  | @settle own => exact (course_slot? _ own tag _).trans (if_neg (apart rfl))
  | nothing => rfl
  | switch => rfl

/-- A request that is no submission to a tag makes no slot for it. -/
theorem unknown (h : v.Served r w) (unknown : v.Unknown tag)
    (other : ∀ task, r ≠ .submit tag task) : w.Unknown tag := by
  cases concerned : r.concerns tag with
  | false =>
      have same : w.standing id tag = v.standing id tag := h.standing_other concerned
      refine ⟨(h.slot?_other concerned).trans unknown.slot, ?_, ?_⟩
      · simpa [Service.standing, unknown.held] using congrArg Standing.held same
      · exact (congrArg Standing.events same).trans unknown.silent
  | true =>
      have own {another : Tag} (same : r.tag? = some another) : another = tag := by
        simpa [Request.concerns, same] using concerned
      cases h with
      | submit another task =>
          obtain rfl := own rfl
          exact absurd rfl (other task)
      | @settle another index ticket outcome inCall held =>
          obtain rfl := own rfl
          simp [unknown.held] at held
      | nothing => exact unknown
      | switch => exact ⟨unknown.slot, unknown.held, unknown.silent⟩

theorem known (h : v.Served r w)
    (known : (v.system.limiter.slot? tag).isSome ∨ ∃ task, r = .submit tag task) :
    (w.system.limiter.slot? tag).isSome := by
  have course (u : Service) (own : Tag) (c : Slot.Course)
      (before : (u.system.limiter.slot? tag).isSome ∨ tag = own) :
      ((u.course own c).system.limiter.slot? tag).isSome := by
    rw [course_slot?]
    split
    · rfl
    · exact before.resolve_right ‹_›
  cases h with
  | submit own task =>
      refine course v own _ (known.imp_right ?_)
      rintro ⟨task', same⟩
      cases same
      rfl
  | @settle own index =>
      refine course (v.hold own ((v.held own).eraseIdx index)) own _ (known.imp_right ?_)
      rintro ⟨task, same⟩
      cases same
  | nothing =>
      refine known.resolve_right ?_
      rintro ⟨task, same⟩
      cases same
  | switch =>
      refine known.resolve_right ?_
      rintro ⟨task, same⟩
      cases same

end Served

/-- From this number on, submissions are named like these tasks. -/
def Names (name : Ticket → TaskName) (first : Ticket) (tasks : List TaskName) : Prop :=
  ∀ i task, tasks[i]? = some task → name (first + i) = task

theorem Names.tail {first : Ticket} {tasks more : List TaskName}
    (names : Names name first (tasks ++ more)) : Names name (first + tasks.length) more := by
  intro i task found
  rw [Nat.add_assoc]
  refine names _ task ?_
  rw [List.getElem?_append_right (Nat.le_add_right _ _), Nat.add_sub_cancel_left, found]

theorem tasks_cons (r : Request) (rs : List Request) :
    Request.tasks (r :: rs) = r.submission?.toList.map Prod.snd ++ Request.tasks rs := by
  cases h : r.submission? <;> simp [Request.tasks, h]

/-- Two services that agree on a tag, of which one gets only the requests that concern the tag, agree
on it afterwards. -/
theorem standing_serves {other : Ticket → TaskName} (requests : List Request) (rest : v.Resting)
    (rest' : w.Resting) (limit : v.system.limiter.limit = w.system.limiter.limit)
    (refusal : v.refusal = w.refusal)
    (named : Names name v.system.tickets (Request.tasks requests))
    (named' : Names other w.system.tickets
      (Request.tasks (requests.filter (·.concerns tag))))
    (agree : v.standing name tag = w.standing other tag) :
    (v.serves requests).standing name tag =
      (w.serves (requests.filter (·.concerns tag))).standing other tag := by
  induction requests generalizing v w with
  | nil => exact agree
  | cons r rs ih =>
      have first {x : Service} {own : Ticket → TaskName} {more : List Request}
          (names : Names own x.system.tickets (Request.tasks (r :: more))) :
          (∀ tag task, r.submission? = some (tag, task) → own x.system.tickets = task) ∧
            Names own (x.system.tickets + r.submission?.toList.length) (Request.tasks more) := by
        rw [tasks_cons] at names
        refine ⟨fun tag task submitted => names 0 task (by simp [submitted]), ?_⟩
        simpa using names.tail
      have served := serve_served rest r
      obtain ⟨nextv, limitv, ticketsv, refusalv⟩ := served.keeps rest
      cases concerned : r.concerns tag with
      | true =>
          have served' := serve_served rest' r
          obtain ⟨nextw, limitw, ticketsw, refusalw⟩ := served'.keeps rest'
          rw [List.filter_cons_of_pos concerned] at named' ⊢
          refine ih nextv nextw (limitv.trans (limit.trans limitw.symm)) ?_ ?_ ?_ ?_
          · rw [refusalv, refusalw, refusal]
          · rw [ticketsv]
            exact (first named).2
          · rw [ticketsw]
            exact (first named').2
          · rw [served.standing concerned (first named).1,
              served'.standing concerned (first named').1, agree, limit, refusal]
      | false =>
          have same : (v.serve r).refusal = v.refusal := by
            rw [refusalv]
            cases r with
            | switch => cases concerned
            | submit | settle => rfl
          rw [List.filter_cons_of_neg (by simp [concerned])] at named' ⊢
          refine ih nextv rest' (limitv.trans limit) (same.trans refusal) ?_ named' ?_
          · rw [ticketsv]
            exact (first named).2
          · rw [served.standing_other concerned, agree]

theorem mem_tags_cons {r : Request} {rs : List Request} :
    tag ∈ Request.tags (r :: rs) ↔ (∃ task, r = .submit tag task) ∨ tag ∈ Request.tags rs := by
  cases r with
  | submit own task => simp [Request.tags, Request.submission?, eq_comm]
  | settle | switch => simp [Request.tags, Request.submission?]

/-- A tag has a slot iff something was submitted to it. -/
theorem slot?_serves (rest : v.Resting) (requests : List Request) :
    (tag ∈ Request.tags requests ∨ (v.system.limiter.slot? tag).isSome →
      ((v.serves requests).system.limiter.slot? tag).isSome) ∧
    (tag ∉ Request.tags requests → v.Unknown tag → (v.serves requests).Unknown tag) := by
  induction requests generalizing v with
  | nil => exact ⟨fun known => known.resolve_left (by simp [Request.tags]), fun _ unknown => unknown⟩
  | cons r rs ih =>
      have served := serve_served rest r
      obtain ⟨known, unknown⟩ := ih (served.keeps rest).1
      rw [mem_tags_cons]
      refine ⟨fun before => known ?_, fun never start => unknown (fun later => never (.inr later)) ?_⟩
      · rcases before with (submitted | later) | old
        · exact .inr (served.known (.inr submitted))
        · exact .inl later
        · exact .inr (served.known (.inl old))
      · exact served.unknown start fun task submitted => never (.inl ⟨task, submitted⟩)

/-- A limiter at the beginning. -/
def ofLimiter (limit : Limit) (logger : Option Logging.Threshold)
    (listeners : Message → Option Thrown) : Service where
  system := { limiter := { limit, logger } }
  listeners := listeners

/-- The slot of a tag for itself. -/
def ofSlot (tag : Tag) (limit : Limit) (logger : Option Logging.Threshold) : Service where
  system := { limiter := { limit, logger, slots := [(tag, {})] }, audience := .observer }

def inspect (v : Service) (tag : Tag) : Option Snapshot := v.system.limiter.inspect tag

/-- The tasks of a tag that the runner was asked to take, as they were named in the requests. -/
def tasksHanded (v : Service) (requests : List Request) (tag : Tag) : List TaskName :=
  (v.handedOf tag).map (Request.taskOf requests)

theorem limit_serves (rest : v.Resting) (requests : List Request) :
    (v.serves requests).system.limiter.limit = v.system.limiter.limit := by
  induction requests generalizing v with
  | nil => rfl
  | cons r rs ih =>
      obtain ⟨next, limit, -, -⟩ := (serve_served rest r).keeps rest
      exact (ih next).trans limit

/-- Slots that look the same but for the numbers of submissions show the same. -/
theorem inspect_eq {other : Ticket → TaskName} (agree : v.standing name tag = w.standing other tag)
    (limit : v.system.limiter.limit = w.system.limiter.limit)
    (here : (v.system.limiter.slot? tag).isSome) (there : (w.system.limiter.slot? tag).isSome) :
    v.inspect tag = w.inspect tag := by
  obtain ⟨slot, hv⟩ := Option.isSome_iff_exists.1 here
  obtain ⟨slot', hw⟩ := Option.isSome_iff_exists.1 there
  have same : slot.rename name = slot'.rename other := by
    have slots := congrArg Standing.slot agree
    simpa [standing, Limiter.slot, hv, hw] using slots
  rw [inspect, inspect, Limiter.inspect, Limiter.inspect, hv, hw, Option.map_some, Option.map_some,
    ← Slot.snapshot_rename name, same, Slot.snapshot_rename]
  simp [Slot.snapshot, Limiter.setting, limit]

theorem names_tasks (requests : List Request) :
    Names (Request.taskOf requests) 0 (Request.tasks requests) := by
  intro i task found
  simp [Request.taskOf, found]

section Alone
variable (limit : Limit) (logger : Option Logging.Threshold) (listeners : Message → Option Thrown)
  (requests : List Request)

/-- Of a tag that was unknown events tell only if something was submitted to it. -/
theorem mem_tags_of_event (rest : v.Resting) {e : LimiterEvent}
    (told : e ∈ (v.serves requests).events) (unknown : v.Unknown e.tag) :
    e.tag ∈ Request.tags requests := by
  by_contra never
  have silent := ((slot?_serves rest requests).2 never unknown).silent
  rw [eventsOf, List.filter_eq_nil_iff] at silent
  exact silent e told (decide_eq_true rfl)

theorem tag_of_mem_tags {own : Tag}
    (mem : own ∈ Request.tags (requests.filter (·.concerns tag))) : own = tag := by
  obtain ⟨submission, found, rfl⟩ := List.mem_map.1 mem
  obtain ⟨r, here, submitted⟩ := List.mem_filterMap.1 found
  have concerned := (List.mem_filter.1 here).2
  cases r with
  | submit own task =>
      cases submitted
      simpa [Request.concerns, Request.tag?] using concerned
  | settle => cases submitted
  | switch => cases submitted

/-- What is seen of a tag is what a slot for itself shows that gets the requests on the tag and the
switches of the runner. -/
theorem alone (tag : Tag) :
    let whole := (ofLimiter limit logger listeners).serves requests
    let own := requests.filter (·.concerns tag)
    let single := (ofSlot tag limit logger).serves own
    whole.answersTo tag = single.answersTo tag ∧ whole.eventsOf tag = single.events ∧
      whole.tasksHanded requests tag = single.tasksHanded own tag ∧
      whole.inspect tag = if tag ∈ Request.tags requests then single.inspect tag else none := by
  intro whole own single
  have rest : (ofLimiter limit logger listeners).Resting := rfl
  have rest' : (ofSlot tag limit logger).Resting := rfl
  have start : (ofLimiter limit logger listeners).standing (Request.taskOf requests) tag =
      (ofSlot tag limit logger).standing (Request.taskOf own) tag := by
    ext1
    case slot => simp [standing, ofLimiter, ofSlot, Limiter.slot, Limiter.slot?, Slot.rename]
    all_goals rfl
  have agree := standing_serves requests rest rest' rfl rfl (names_tasks requests)
    (names_tasks own) start
  obtain ⟨known, unknown⟩ := slot?_serves rest requests
  have there : (single.system.limiter.slot? tag).isSome :=
    (slot?_serves rest' own).1 (.inr (by simp [ofSlot, Limiter.slot?]))
  have carried : single.eventsOf tag = single.events := by
    refine List.filter_eq_self.2 fun e told => decide_eq_true ?_
    by_contra other
    have unknown : (ofSlot tag limit logger).Unknown e.tag :=
      ⟨by simp [ofSlot, Limiter.slot?, List.lookup_cons, beq_false_of_ne other], rfl, rfl⟩
    exact other (tag_of_mem_tags requests (mem_tags_of_event own rest' told unknown))
  refine ⟨congrArg Standing.answers agree, (congrArg Standing.events agree).trans carried,
    congrArg Standing.handed agree, ?_⟩
  split
  · rename_i submitted
    have limits : whole.system.limiter.limit = single.system.limiter.limit :=
      (limit_serves rest requests).trans (limit_serves rest' own).symm
    exact inspect_eq agree limits (known (.inl submitted)) there
  · rename_i never
    rw [inspect, Limiter.inspect, (unknown never ⟨rfl, rfl, rfl⟩).slot, Option.map_none]

end Alone

/-- Each of two tags has one task running, and the later ones of each wait for that. -/
example :
    let requests : List Request := [.submit "" 1, .submit "__proto__" 2, .submit "" 3, .submit "" 4,
      .settle "" 0 .fulfilled true, .submit "__proto__" 5]
    let whole := (ofLimiter (some (.ofInt 1)) none fun _ => none).serves requests
    whole.tasksHanded requests "" = [1, 4] ∧ whole.answersTo "" = [false, true, true] ∧
      whole.tasksHanded requests "__proto__" = [2] ∧ whole.answersTo "__proto__" = [false, true] := by
  decide +kernel

end Service
end Turnstile
