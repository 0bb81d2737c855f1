import Turnstile.Proofs.Calls
import Turnstile.Proofs.Courses
import Turnstile.Proofs.Handover

/-!
The repair of an overflow. A step that finds more tasks running than may reports that first, and then
brings the count down and makes its own submission wait. A submission that listeners make meanwhile
finds the same count and does the same inside the report, so it waits first, and the older one that
was being repaired takes its place: of all submissions the oldest is kept.
-/
namespace Turnstile

/-- A slot has changed, and the audience is told of it. -/
structure Reaction.Announces (s : System) (tag : Tag) (purpose : Purpose) (slot : Slot)
    (notice : Slot.Notice) (resume : Slot.Resume) (r : Reaction) : Prop where
  stack : ∃ current rest, r.system.stack = .message tag current rest resume purpose :: s.stack
  slot : r.system.limiter.slot tag = slot
  limit : r.system.limiter.limit = s.limiter.limit
  tickets : r.system.tickets = s.tickets
  noticed : .noticed tag notice ∈ r.notes

theorem Reaction.Announces.after {s : System} {tag : Tag} {purpose : Purpose} {slot : Slot}
    {notice : Slot.Notice} {resume : Slot.Resume} {r : Reaction}
    (h : r.Announces s tag purpose slot notice resume) (notes : List Note) :
    (r.after notes).Announces s tag purpose slot notice resume :=
  { h with noticed := List.mem_append_right _ h.noticed }

namespace System
variable {s : System} {tag : Tag} {limit : Nat} {ticket : Ticket}

theorem announce_announces (s : System) (tag : Tag) (purpose : Purpose) (report : Slot.Report) :
    (s.announce tag purpose report).Announces s tag purpose report.slot report.notice
      report.resume where
  stack := ⟨_, _, rfl⟩
  slot := by simp [announce, Reaction.afterRecords, Reaction.after, callOut]
  limit := rfl
  tickets := rfl
  noticed := by simp [announce, Reaction.afterRecords, Reaction.after]

theorem follow_after (s : System) (tag : Tag) (purpose : Purpose) (records : List Logging.Record)
    (p : Slot.Progress) :
    s.follow tag purpose (p.after records) = (s.follow tag purpose p).afterRecords records := by
  cases p <;>
    simp [follow, Slot.Progress.after, announce, Reaction.afterRecords, Reaction.after]

/-- A task that enters a slot over its limit is stopped by a report. -/
theorem enter_overflows (slot : Slot)
    (exceeded : s.limiter.limit.isExceeded slot.running = true) (purpose : Purpose) :
    (s.follow tag purpose (Slot.submit (s.limiter.setting tag) slot ticket)).Announces s tag purpose
      slot (.anomaly .overflow slot.running) (.place ticket) := by
  rw [Slot.submit, if_pos (show (s.limiter.setting tag).limit.isExceeded _ = true from exceeded)]
  exact announce_announces s tag purpose ⟨_, _, _, _⟩

theorem submit_overflows
    (exceeded : s.limiter.limit.isExceeded (s.limiter.slot tag).running = true) :
    (s.submit tag).Announces { s with tickets := s.tickets + 1 } tag (.submit s.tickets)
      (s.limiter.slot tag) (.anomaly .overflow (s.limiter.slot tag).running) (.place s.tickets) :=
  (enter_overflows (s := { s with tickets := s.tickets + 1 }) _ exceeded _).after _

/-- The waiting task enters its slot again. -/
theorem resume_handOver (waiting : (s.limiter.slot tag).pending = some ticket) :
    Slot.resume (s.limiter.setting tag) (s.limiter.slot tag) .handOver =
      (Slot.submit (s.limiter.setting tag) { s.limiter.slot tag with pending := none } ticket).after
        (Slot.debug (s.limiter.setting tag) "Running pending task"
          [Slot.tagEntry (s.limiter.setting tag)]) := by
  rw [Slot.resume, Slot.handOver, waiting]

theorem handOver_overflows
    (exceeded : s.limiter.limit.isExceeded (s.limiter.slot tag).running = true)
    (waiting : (s.limiter.slot tag).pending = some ticket) (purpose : Purpose) :
    (s.resumeStep tag .handOver purpose).Announces s tag purpose
      { s.limiter.slot tag with pending := none }
      (.anomaly .overflow (s.limiter.slot tag).running) (.place ticket) := by
  rw [resumeStep, resume_handOver waiting, follow_after]
  exact (enter_overflows { s.limiter.slot tag with pending := none } exceeded purpose).after _

theorem complete_announces (busy : (s.limiter.slot tag).running.le 0 = false) (purpose : Purpose) :
    (s.complete tag purpose).Announces s tag purpose
      { s.limiter.slot tag with running := (s.limiter.slot tag).running.plus (-1) }
      (.finished ((s.limiter.slot tag).running.plus (-1))) .handOver := by
  rw [complete, Slot.complete, busy]
  exact announce_announces s tag purpose ⟨_, _, _, _⟩

/-- A step that goes on to an announcement does so whatever the listeners before it did. -/
theorem heard_announces {current : Message} {purpose : Purpose} {resume resume' : Slot.Resume}
    {below : List Frame} {slot : Slot} {notice : Slot.Notice} (thrown : Option Thrown)
    (stack : s.stack = .message tag current [] resume purpose :: below)
    (told : (({ s with stack := below } : System).resumeStep tag resume purpose).Announces
      { s with stack := below } tag purpose slot notice resume') :
    (s.react (.reply (.heard thrown))).Announces { s with stack := below } tag purpose slot notice
      resume' := by
  rw [react_heard thrown stack]
  exact told.after _

section Full
variable (bound : s.limiter.limit = some (.ofInt limit))
include bound

/-- With as many running as may, a task that is to be placed waits. -/
theorem place_waits (slot : Slot) (full : slot.running = .ofInt limit) (purpose : Purpose) :
    (s.follow tag purpose (Slot.place (s.limiter.setting tag) slot ticket)).Announces s tag purpose
      { slot with pending := some ticket } (.queued ticket slot.pending) (.answer true) := by
  have reached : (s.limiter.setting tag).limit.isReached slot.running = true := by
    rw [full, Limiter.setting, bound]
    exact Limit.isReached_ofInt.2 rfl
  rw [Slot.place, if_pos reached]
  exact announce_announces s tag purpose ⟨_, _, _, _⟩

/-- So does one that enters its slot. -/
theorem enter_waits (tag : Tag) (ticket : Ticket) (slot : Slot) (full : slot.running = .ofInt limit)
    (purpose : Purpose) :
    (s.follow tag purpose (Slot.submit (s.limiter.setting tag) slot ticket)).Announces s tag purpose
      { slot with pending := some ticket } (.queued ticket slot.pending) (.answer true) := by
  have kept : ¬(s.limiter.setting tag).limit.isExceeded slot.running = true := by
    rw [full, Limiter.setting, bound, Limit.isExceeded_ofInt]
    exact Nat.lt_irrefl limit
  rw [Slot.submit, if_neg kept, follow_after]
  exact (place_waits bound slot full purpose).after _

theorem submit_waits_at_limit (full : (s.limiter.slot tag).running = .ofInt limit) :
    (s.submit tag).Announces { s with tickets := s.tickets + 1 } tag (.submit s.tickets)
      { s.limiter.slot tag with pending := some s.tickets }
      (.queued s.tickets (s.limiter.slot tag).pending) (.answer true) :=
  (enter_waits (s := { s with tickets := s.tickets + 1 }) bound tag s.tickets _ full _).after _

theorem handOver_waits (full : (s.limiter.slot tag).running = .ofInt limit)
    (waiting : (s.limiter.slot tag).pending = some ticket) (purpose : Purpose) :
    (s.resumeStep tag .handOver purpose).Announces s tag purpose
      { running := .ofInt limit, pending := some ticket } (.queued ticket none) (.answer true) := by
  rw [resumeStep, resume_handOver waiting, follow_after]
  have waits := enter_waits bound tag ticket { s.limiter.slot tag with pending := none } full purpose
  rw [full] at waits
  exact waits.after _

/-- After an overflow the count is brought down to the limit, and the task waits. -/
theorem resume_place_waits (tag : Tag) (ticket : Ticket) (purpose : Purpose) :
    (s.resumeStep tag (.place ticket) purpose).Announces s tag purpose
      { running := .ofInt limit, pending := some ticket }
      (.queued ticket (s.limiter.slot tag).pending) (.answer true) := by
  have clamped : (s.limiter.setting tag).limit.clamp (s.limiter.slot tag).running = .ofInt limit := by
    rw [Limiter.setting, bound]
    rfl
  rw [resumeStep, Slot.resume, clamped]
  exact place_waits bound { s.limiter.slot tag with running := .ofInt limit } rfl purpose

end Full

theorem pump_keeps (s : System) :
    s.pump.system.limiter = s.limiter ∧ s.pump.system.tickets = s.tickets ∧
      s.pump.system.openSteps = s.openSteps := by
  rw [pump]
  split
  · exact ⟨rfl, rfl, List.countP_cons_of_neg (by simp [Frame.isStep, Frame.pause?])⟩
  · exact ⟨rfl, rfl, rfl⟩

theorem leave_keeps (s : System) (inPump : Bool) :
    (s.leave inPump).system.limiter = s.limiter ∧ (s.leave inPump).system.tickets = s.tickets ∧
      (s.leave inPump).system.openSteps = s.openSteps := by
  cases inPump with
  | true => exact pump_keeps s
  | false => exact ⟨rfl, rfl, rfl⟩

/-- The end of a step opens no other one. -/
theorem finishStep_keeps (s : System) (tag : Tag) (purpose : Purpose) (queued : Bool) :
    (s.finishStep tag purpose queued).system.limiter = s.limiter ∧
      (s.finishStep tag purpose queued).system.tickets = s.tickets ∧
      (s.finishStep tag purpose queued).system.openSteps = s.openSteps := by
  cases purpose with
  | submit ticket => exact ⟨rfl, rfl, rfl⟩
  | complete => exact ⟨rfl, rfl, rfl⟩
  | conclude run outcome inCall =>
      exact leave_keeps (s.pushJob (.goOn run outcome)) (inCall && run.starter == .lane)

/-- A step that only answers leaves its slot as it is, and is over. -/
theorem resume_answer_keeps (s : System) (tag : Tag) (queued : Bool) (purpose : Purpose) :
    let r := s.resumeStep tag (.answer queued) purpose
    r.system.limiter.slot tag = s.limiter.slot tag ∧ r.system.tickets = s.tickets ∧
      r.system.openSteps = s.openSteps := by
  have keeps := finishStep_keeps (s.setSlot tag (s.limiter.slot tag)) tag purpose queued
  refine ⟨?_, keeps.2⟩
  exact (congrArg (·.slot tag) keeps.1).trans (Limiter.slot_setSlot_self ..)

end System

/-- The submission that a step is to place when it goes on. -/
def Frame.places? : Frame → Option Ticket
  | .message _ _ _ (.place ticket) _ => some ticket
  | _ => none

/-- The call belongs to a submission to the tag that is to be placed or was made to wait. -/
def Frame.IsSubmission (tag : Tag) (first : Ticket) (frame : Frame) : Prop :=
  ∃ current rest resume ticket, frame = .message tag current rest resume (.submit ticket) ∧
    first ≤ ticket ∧ (resume = .place ticket ∨ resume = .answer true)

/-- Listeners hear, or submit to the tag where they hear of an overflow of it. -/
def System.overflowHeard (s : System) (tag : Tag) : Move → Bool
  | .reply (.heard _) => true
  | .submit own => own == tag && (s.stack.head?.bind Frame.places?).isSome
  | _ => false

namespace History
variable {h : History} {tag : Tag} {limit : Nat} {oldest first : Ticket} {base upper : List Frame}
  {m : Move}

/-- Each of the moves is one of listeners that submit to the tag only where they hear of an overflow. -/
def HearsOverflows (tag : Tag) : History → List Move → Prop
  | _, [] => True
  | h, m :: more => h.system.overflowHeard tag m = true ∧ HearsOverflows tag (h.play m) more

instance decidableHearsOverflows (tag : Tag) : ∀ h more, Decidable (HearsOverflows tag h more)
  | _, [] => .isTrue trivial
  | h, m :: more =>
    have := decidableHearsOverflows tag (h.play m) more
    inferInstanceAs (Decidable (h.system.overflowHeard tag m = true ∧
      HearsOverflows tag (h.play m) more))

/-- The oldest submission is to be placed by the call that is open last of all. The submissions above
it are on the way: they are to be placed, or one waits and the others were dropped. -/
structure Placing (tag : Tag) (limit : Nat) (first : Ticket) (upper : List Frame) (h : History) :
    Prop where
  nested : ∀ frame ∈ upper, frame.IsSubmission tag first
  high : h.system.limiter.limit.isExceeded (h.system.limiter.slot tag).running = true ∨
    (h.system.limiter.slot tag).running = .ofInt limit
  start : first ≤ h.system.tickets
  made : ∀ t, first ≤ t → t < h.system.tickets → .submitted tag t ∈ h.marks ∧
    ((∃ frame ∈ upper, frame.places? = some t) ∨ (h.system.limiter.slot tag).pending = some t ∨
      .dropped tag t ∈ h.marks)
  last : first < h.system.tickets → (∃ frame ∈ upper, frame.places?.isSome = true) ∨
    ∃ t, first ≤ t ∧ (h.system.limiter.slot tag).pending = some t

/-- The oldest submission waits, and all later ones were dropped. -/
structure Placed (tag : Tag) (limit : Nat) (oldest first : Ticket) (h : History) : Prop where
  running : (h.system.limiter.slot tag).running = .ofInt limit
  pending : (h.system.limiter.slot tag).pending = some oldest
  made : ∀ t, first ≤ t → t < h.system.tickets → .submitted tag t ∈ h.marks ∧ .dropped tag t ∈ h.marks
  replaced : first < h.system.tickets →
    ∃ t, first ≤ t ∧ .noticed tag (.queued oldest (some t)) ∈ h.notes

/-- How far the call that found the overflow has come. -/
inductive Repair (tag : Tag) (limit : Nat) (oldest first : Ticket) (base : List Frame) (h : History) :
    Prop
  | handing {current rest purpose}
      (stack : h.system.stack = .message tag current rest .handOver purpose :: base)
      (high : h.system.limiter.limit.isExceeded (h.system.limiter.slot tag).running = true ∨
        (h.system.limiter.slot tag).running = .ofInt limit)
      (waiting : (h.system.limiter.slot tag).pending = some oldest)
      (none : h.system.tickets = first)
  | placing {upper current rest purpose}
      (stack : h.system.stack =
        upper ++ .message tag current rest (.place oldest) purpose :: base)
      (placing : h.Placing tag limit first upper)
  | placed {current rest purpose}
      (stack : h.system.stack = .message tag current rest (.answer true) purpose :: base)
      (placed : h.Placed tag limit oldest first)

theorem marks_play (h : History) (m : Move) :
    (h.play m).marks = h.marks ++ (h.system.react m).notes.flatMap Note.marks := by
  simp [marks, play]

theorem mem_marks_play {mark : Mark} (mem : mark ∈ h.marks) : mark ∈ (h.play m).marks := by
  rw [marks_play]
  exact List.mem_append_left _ mem

theorem mem_marks_of_noticed {notice : Slot.Notice} {mark : Mark}
    (noticed : .noticed tag notice ∈ (h.system.react m).notes) (mem : mark ∈ notice.marks tag) :
    mark ∈ (h.play m).marks := by
  rw [marks_play]
  exact List.mem_append_right _ (List.mem_flatMap.2 ⟨_, noticed, mem⟩)

/-- What waited is dropped where another submission waits in its place. -/
theorem dropped_of_queued {ticket replaced : Ticket} {pending : Option Ticket}
    (noticed : .noticed tag (.queued ticket pending) ∈ (h.system.react m).notes)
    (waited : pending = some replaced) : .dropped tag replaced ∈ (h.play m).marks := by
  subst waited
  exact mem_marks_of_noticed noticed (by simp [Slot.Notice.marks])

namespace Placing
variable {frame : Frame} {below : List Frame} {ticket : Ticket}

/-- A submission to be placed is made, or the last one of those waits now. -/
theorem wait {purpose : Purpose} {s : System} {slot : Slot} (placing : h.Placing tag limit first upper)
    (told : (h.system.react m).Announces s tag purpose slot
      (.queued ticket (h.system.limiter.slot tag).pending) (.answer true))
    (slots : slot = { running := .ofInt limit, pending := some ticket })
    (nested : ∀ call ∈ frame :: below, call.IsSubmission tag first)
    (late : first ≤ ticket) (tickets : h.system.tickets ≤ s.tickets)
    (new : ∀ t, h.system.tickets ≤ t → t < s.tickets →
      t = ticket ∧ .submitted tag t ∈ (h.play m).marks)
    (rest : ∀ call ∈ upper, call ∈ frame :: below ∨ call.places? = some ticket ∨ call.places? = none) :
    (h.play m).Placing tag limit first (frame :: below) := by
  have here : ((h.play m).system.limiter.slot tag).pending = some ticket := by
    rw [play, told.slot, slots]
  have later : (h.play m).system.tickets = s.tickets := told.tickets
  refine ⟨nested, .inr ?_, later ▸ placing.start.trans tickets, fun t from_ to_ => ?_,
    fun _ => .inr ⟨ticket, late, here⟩⟩
  · rw [play, told.slot, slots]
  · rw [later] at to_
    by_cases old : t < h.system.tickets
    · obtain ⟨submitted, state⟩ := placing.made t from_ old
      refine ⟨mem_marks_play submitted, ?_⟩
      rcases state with ⟨call, mem, places⟩ | waited | dropped
      · rcases rest call mem with kept | placed | none
        · exact .inl ⟨call, kept, places⟩
        · exact .inr (.inl (here.trans (placed.symm.trans places)))
        · exact absurd (none.symm.trans places) (by simp)
      · exact .inr (.inr (dropped_of_queued told.noticed waited))
      · exact .inr (.inr (mem_marks_play dropped))
    · obtain ⟨rfl, submitted⟩ := new t (Nat.le_of_not_lt old) to_
      exact ⟨submitted, .inr (.inl here)⟩

/-- A submission made by a listener is to be placed itself, or waits at once. -/
theorem submit (placing : h.Placing tag limit first upper)
    (bound : h.system.limiter.limit = some (.ofInt limit)) :
    ∃ frame, (h.play (.submit tag)).system.stack = frame :: h.system.stack ∧
      (h.play (.submit tag)).Placing tag limit first (frame :: upper) := by
  have made : .submitted tag h.system.tickets ∈ (h.play (.submit tag)).marks := by
    rw [marks_play]
    exact List.mem_append_right _ (by simp [System.react, System.submit, Reaction.after, Note.marks])
  have new (t : Ticket) (from_ : h.system.tickets ≤ t) (to_ : t < h.system.tickets + 1) :
      t = h.system.tickets ∧ .submitted tag t ∈ (h.play (.submit tag)).marks := by
    obtain rfl : t = h.system.tickets := Nat.le_antisymm (Nat.le_of_lt_succ to_) from_
    exact ⟨rfl, made⟩
  rcases placing.high with exceeded | full
  · have told := System.submit_overflows (s := h.system) exceeded
    obtain ⟨current, rest, stack⟩ := told.stack
    have slot : (h.play (.submit tag)).system.limiter.slot tag = h.system.limiter.slot tag :=
      told.slot
    have later : (h.play (.submit tag)).system.tickets = h.system.tickets + 1 := told.tickets
    refine ⟨_, stack, ?_, .inl ?_, ?_, fun t from_ to_ => ?_, fun _ => .inl ?_⟩
    · rintro call (_ | ⟨_, old⟩)
      · exact ⟨_, _, _, _, rfl, placing.start, .inl rfl⟩
      · exact placing.nested call old
    · rw [slot, limit_play]
      exact exceeded
    · exact later ▸ placing.start.trans (Nat.le_succ _)
    · rw [slot]
      by_cases old : t < h.system.tickets
      · obtain ⟨submitted, ⟨call, mem, places⟩ | waited | dropped⟩ := placing.made t from_ old
        · exact ⟨mem_marks_play submitted, .inl ⟨call, List.mem_cons_of_mem _ mem, places⟩⟩
        · exact ⟨mem_marks_play submitted, .inr (.inl waited)⟩
        · exact ⟨mem_marks_play submitted, .inr (.inr (mem_marks_play dropped))⟩
      · obtain ⟨rfl, submitted⟩ := new t (Nat.le_of_not_lt old) (later ▸ to_)
        exact ⟨submitted, .inl ⟨_, List.mem_cons_self, rfl⟩⟩
    · exact ⟨_, List.mem_cons_self, rfl⟩
  · have told := System.submit_waits_at_limit (s := h.system) bound full
    obtain ⟨current, rest, stack⟩ := told.stack
    refine ⟨_, stack, placing.wait told (by rw [← full]) ?_ placing.start (Nat.le_succ _) new
      fun call mem => .inl (List.mem_cons_of_mem _ mem)⟩
    rintro call (_ | ⟨_, old⟩)
    · exact ⟨_, _, _, _, rfl, placing.start, .inr rfl⟩
    · exact placing.nested call old

/-- The submission on top is placed: it waits. -/
theorem place {current : Message} {thrown : Option Thrown}
    (placing : h.Placing tag limit first
      (.message tag current [] (.place ticket) (.submit ticket) :: upper))
    (bound : h.system.limiter.limit = some (.ofInt limit))
    (stack : h.system.stack =
      .message tag current [] (.place ticket) (.submit ticket) :: below) :
    ∃ frame, (h.play (.reply (.heard thrown))).system.stack = frame :: below ∧
      (h.play (.reply (.heard thrown))).Placing tag limit first (frame :: upper) := by
  have told := System.heard_announces thrown stack
    (System.resume_place_waits (s := { h.system with stack := below }) bound tag ticket _)
  obtain ⟨current', rest, stack'⟩ := told.stack
  obtain ⟨_, _, _, _, top, late, -⟩ := placing.nested _ List.mem_cons_self
  obtain rfl : ticket = _ := by injection top with _ _ _ _ p; injection p
  refine ⟨_, stack', placing.wait told rfl ?_ late (Nat.le_refl _) ?_ ?_⟩
  · rintro call (_ | ⟨_, old⟩)
    · exact ⟨_, _, _, _, rfl, late, .inr rfl⟩
    · exact placing.nested call (List.mem_cons_of_mem _ old)
  · intro t from_ to_
    exact absurd to_ (Nat.not_lt.2 from_)
  · rintro call (_ | ⟨_, old⟩)
    · exact .inr (.inl rfl)
    · exact .inl (List.mem_cons_of_mem _ old)

/-- The slot is as it was, and the same submissions are to be placed. -/
theorem like {upper' : List Frame} (placing : h.Placing tag limit first upper)
    (slot : (h.play m).system.limiter.slot tag = h.system.limiter.slot tag)
    (tickets : (h.play m).system.tickets = h.system.tickets)
    (nested : ∀ call ∈ upper', call.IsSubmission tag first)
    (kept : ∀ call ∈ upper, call.places? = none ∨ ∃ call' ∈ upper', call'.places? = call.places?) :
    (h.play m).Placing tag limit first upper' := by
  have still {t : Ticket} : (∃ call ∈ upper, call.places? = some t) →
      ∃ call ∈ upper', call.places? = some t := by
    rintro ⟨call, mem, places⟩
    rcases kept call mem with none | ⟨call', mem', same⟩
    · exact absurd (none.symm.trans places) (by simp)
    · exact ⟨call', mem', same.trans places⟩
  refine ⟨nested, ?_, tickets ▸ placing.start, fun t from_ to_ => ?_, fun more => ?_⟩
  · rw [slot, limit_play]
    exact placing.high
  · obtain ⟨submitted, state⟩ := placing.made t from_ (tickets ▸ to_)
    rw [slot]
    exact ⟨mem_marks_play submitted, state.imp still (Or.imp_right mem_marks_play)⟩
  · rw [slot]
    refine (placing.last (tickets ▸ more)).imp_left ?_
    rintro ⟨call, mem, some⟩
    obtain ⟨t, places⟩ := Option.isSome_iff_exists.1 some
    obtain ⟨call', mem', places'⟩ := still ⟨call, mem, places⟩
    exact ⟨call', mem', places' ▸ rfl⟩

/-- The call on top is replied to: its next message is told, its submission is placed, or it is over. -/
theorem heard {top : Frame} (thrown : Option Thrown)
    (placing : h.Placing tag limit first (top :: upper))
    (bound : h.system.limiter.limit = some (.ofInt limit)) (stack : h.system.stack = top :: below) :
    ∃ upper', (h.play (.reply (.heard thrown))).system.stack = upper' ++ below ∧
      (h.play (.reply (.heard thrown))).Placing tag limit first (upper' ++ upper) := by
  obtain ⟨current, rest, resume, ticket, rfl, late, either⟩ := placing.nested _ List.mem_cons_self
  have others : ∀ call ∈ upper, call.IsSubmission tag first := fun call mem =>
    placing.nested call (List.mem_cons_of_mem _ mem)
  cases rest with
  | cons next rest =>
      have told := System.react_heard_next thrown stack
      refine ⟨[.message tag next rest resume (.submit ticket)], congrArg System.stack told,
        placing.like (by rw [play, told]) (by rw [play, told]) ?_ ?_⟩
      · rintro call (_ | ⟨_, old⟩)
        · exact ⟨_, _, _, _, rfl, late, either⟩
        · exact others call old
      · rintro call (_ | ⟨_, old⟩)
        · exact .inr ⟨_, List.mem_cons_self, by rcases either with rfl | rfl <;> rfl⟩
        · exact .inr ⟨call, List.mem_cons_of_mem _ old, rfl⟩
  | nil =>
      rcases either with rfl | rfl
      · obtain ⟨frame, stack', placing'⟩ := placing.place bound stack
        exact ⟨[frame], stack', placing'⟩
      · have heard := System.react_heard thrown stack
        obtain ⟨slot, tickets, -⟩ := System.resume_answer_keeps { h.system with stack := below } tag
          true (.submit ticket)
        refine ⟨[], ?_, placing.like ?_ ?_ others ?_⟩
        · rw [play, heard]
          rfl
        · rw [play, heard]
          exact slot
        · rw [play, heard]
          exact tickets
        · rintro call (_ | ⟨_, old⟩)
          · exact .inl rfl
          · exact .inr ⟨call, old, rfl⟩

/-- All others are placed, and the oldest submission is: it waits in the place of the last of them. -/
theorem placed {current : Message} {purpose : Purpose} (thrown : Option Thrown)
    (placing : h.Placing tag limit first [])
    (bound : h.system.limiter.limit = some (.ofInt limit))
    (stack : h.system.stack = .message tag current [] (.place oldest) purpose :: below) :
    ∃ current rest, (h.play (.reply (.heard thrown))).system.stack =
        .message tag current rest (.answer true) purpose :: below ∧
      (h.play (.reply (.heard thrown))).Placed tag limit oldest first := by
  have told := System.heard_announces thrown stack
    (System.resume_place_waits (s := { h.system with stack := below }) bound tag oldest purpose)
  obtain ⟨current', rest, stack'⟩ := told.stack
  refine ⟨current', rest, stack', ?_, ?_, fun t from_ to_ => ?_, fun more => ?_⟩
  · rw [play, told.slot]
  · rw [play, told.slot]
  · obtain ⟨submitted, ⟨_, mem, -⟩ | waited | dropped⟩ :=
      placing.made t from_ (lt_of_lt_of_eq to_ told.tickets)
    · cases mem
    · exact ⟨mem_marks_play submitted, dropped_of_queued told.noticed waited⟩
    · exact ⟨mem_marks_play submitted, mem_marks_play dropped⟩
  · obtain ⟨_, mem, -⟩ | ⟨t, late, waits⟩ := placing.last (lt_of_lt_of_eq more told.tickets)
    · cases mem
    · have noticed : .noticed tag (.queued oldest (h.system.limiter.slot tag).pending) ∈
          (h.system.react (.reply (.heard thrown))).notes := told.noticed
      exact ⟨t, late, List.mem_append_right _ (waits ▸ noticed)⟩

end Placing

theorem Placed.like (placed : h.Placed tag limit oldest first)
    (slot : (h.play m).system.limiter.slot tag = h.system.limiter.slot tag)
    (tickets : (h.play m).system.tickets = h.system.tickets) :
    (h.play m).Placed tag limit oldest first := by
  refine ⟨slot ▸ placed.running, slot ▸ placed.pending, fun t from_ to_ => ?_, fun more => ?_⟩
  · obtain ⟨submitted, dropped⟩ := placed.made t from_ (tickets ▸ to_)
    exact ⟨mem_marks_play submitted, mem_marks_play dropped⟩
  · obtain ⟨t, late, noticed⟩ := placed.replaced (tickets ▸ more)
    exact ⟨t, late, List.mem_append_left _ noticed⟩

theorem heard_of_overflowHeard {s : System} (allowed : s.overflowHeard tag m = true) :
    (∃ thrown, m = .reply (.heard thrown)) ∨
      m = .submit tag ∧ (s.stack.head?.bind Frame.places?).isSome = true := by
  unfold System.overflowHeard at allowed
  split at allowed
  · rename_i thrown
    exact .inl ⟨thrown, rfl⟩
  · rename_i own
    obtain ⟨same, places⟩ := Bool.and_eq_true_iff.1 allowed
    exact .inr ⟨by rw [eq_of_beq same], places⟩
  · cases allowed

/-- An end was heard, and the waiting task enters its slot again. -/
theorem handed {current : Message} {purpose : Purpose} (thrown : Option Thrown)
    (bound : h.system.limiter.limit = some (.ofInt limit))
    (stack : h.system.stack = .message tag current [] .handOver purpose :: base)
    (high : h.system.limiter.limit.isExceeded (h.system.limiter.slot tag).running = true ∨
      (h.system.limiter.slot tag).running = .ofInt limit)
    (waiting : (h.system.limiter.slot tag).pending = some oldest)
    (none : h.system.tickets = first) :
    (h.play (.reply (.heard thrown))).Repair tag limit oldest first base := by
  have nothing {P : Ticket → Prop} {r : Reaction} (tickets : r.system.tickets = h.system.tickets)
      (t : Ticket) (from_ : first ≤ t) (to_ : t < r.system.tickets) : P t :=
    absurd (none ▸ tickets ▸ to_) (Nat.not_lt.2 from_)
  rcases high with exceeded | full
  · have told := System.heard_announces thrown stack
      (System.handOver_overflows (s := { h.system with stack := base }) exceeded waiting purpose)
    obtain ⟨current', rest, stack'⟩ := told.stack
    refine .placing (show _ = [] ++ _ from stack') ⟨by simp, .inl ?_, ?_, nothing told.tickets,
      fun more => ?_⟩
    · rw [limit_play, History.play, told.slot]
      exact exceeded
    · exact (told.tickets.trans none).ge
    · exact nothing (P := fun _ => _) told.tickets first (Nat.le_refl _) more
  · have told := System.heard_announces thrown stack
      (System.handOver_waits (s := { h.system with stack := base }) bound full waiting purpose)
    obtain ⟨current', rest, stack'⟩ := told.stack
    refine .placed stack' ⟨?_, ?_, nothing told.tickets, fun more => ?_⟩
    · rw [play, told.slot]
    · rw [play, told.slot]
    · exact nothing (P := fun _ => _) told.tickets first (Nat.le_refl _) more

/-- The call comes further, or its step is over and the oldest submission waits. -/
theorem Repair.play (repair : h.Repair tag limit oldest first base)
    (bound : h.system.limiter.limit = some (.ofInt limit))
    (allowed : h.system.overflowHeard tag m = true) :
    (h.play m).Repair tag limit oldest first base ∨
      (h.play m).Placed tag limit oldest first ∧
        (h.play m).system.openSteps = base.countP Frame.isStep := by
  rcases heard_of_overflowHeard allowed with ⟨thrown, rfl⟩ | ⟨rfl, places⟩
  · cases repair with
    | @handing current rest purpose stack high waiting none =>
        cases rest with
        | cons next rest =>
            have told := System.react_heard_next thrown stack
            refine .inl (.handing (congrArg System.stack told) ?_ ?_ ?_)
            · rw [limit_play, History.play, told]
              exact high
            · rw [History.play, told]
              exact waiting
            · rw [History.play, told]
              exact none
        | nil => exact .inl (handed thrown bound stack high waiting none)
    | @placing upper current rest purpose stack placing =>
        cases upper with
        | cons top upper =>
            obtain ⟨upper', stack', placing'⟩ := placing.heard thrown bound stack
            exact .inl (.placing (stack'.trans (List.append_assoc ..).symm) placing')
        | nil =>
            cases rest with
            | cons next rest =>
                have told := System.react_heard_next thrown stack
                refine .inl (.placing (show _ = [] ++ _ from congrArg System.stack told)
                  (placing.like ?_ ?_ (by simp) (by simp)))
                · rw [History.play, told]
                · rw [History.play, told]
            | nil =>
                obtain ⟨current', rest, stack', placed⟩ := placing.placed thrown bound stack
                exact .inl (.placed stack' placed)
    | @placed current rest purpose stack placed =>
        cases rest with
        | cons next rest =>
            have told := System.react_heard_next thrown stack
            refine .inl (.placed (congrArg System.stack told) (placed.like ?_ ?_))
            · rw [History.play, told]
            · rw [History.play, told]
        | nil =>
            have heard := System.react_heard thrown stack
            obtain ⟨slot, tickets, steps⟩ := System.resume_answer_keeps
              { h.system with stack := base } tag true purpose
            refine .inr ⟨placed.like ?_ ?_, ?_⟩
            · rw [History.play, heard]
              exact slot
            · rw [History.play, heard]
              exact tickets
            · rw [History.play, heard]
              exact steps
  · cases repair with
    | handing stack high waiting none =>
        rw [stack] at places
        cases places
    | @placing upper current rest purpose stack placing =>
        obtain ⟨frame, stack', placing'⟩ := placing.submit bound
        exact .inl (.placing (stack'.trans (congrArg (frame :: ·) stack)) placing')
    | placed stack placed =>
        rw [stack] at places
        cases places

theorem Repair.isOpen (repair : h.Repair tag limit oldest first base) :
    base.countP Frame.isStep < h.system.openSteps := by
  rw [System.openSteps]
  cases repair with
  | handing stack | placed stack =>
      rw [stack, List.countP_cons_of_pos rfl]
      exact Nat.lt_succ_self _
  | placing stack =>
      rw [stack, List.countP_append, List.countP_cons_of_pos rfl]
      exact Nat.lt_of_lt_of_le (Nat.lt_succ_self _) (Nat.le_add_left _ _)

/-- The call that found the overflow goes on until its step is over. -/
theorem Repair.plays {more : List Move} (repair : h.Repair tag limit oldest first base)
    (bound : h.system.limiter.limit = some (.ofInt limit)) (allowed : h.HearsOverflows tag more)
    (unwinds : h.Unwinds (base.countP Frame.isStep) more) :
    (h.plays more).Placed tag limit oldest first := by
  induction more generalizing h with
  | nil => exact absurd repair.isOpen (Nat.not_lt.2 unwinds)
  | cons m more ih =>
      rcases repair.play bound allowed.1 with later | ⟨placed, closed⟩
      · exact ih later ((limit_play h m).trans bound) allowed.2 unwinds.2
      · cases more with
        | nil => exact placed
        | cons m' more => exact absurd closed (Nat.ne_of_gt unwinds.2.1)

end History

namespace System
variable {s : System} {tag : Tag} {limit : Nat} {oldest : Ticket} {m : Move}

/-- A slot stands above its limit, and with the move it is to place a submission: a new one, or the
one that waits, where the end of a task leaves no room for it. -/
def FindsOverflow (s : System) (tag : Tag) (m : Move) (oldest : Ticket) : Prop :=
  let slot := s.limiter.slot tag
  s.limiter.limit.isExceeded slot.running = true ∧
    (m = .submit tag ∧ oldest = s.tickets ∨
      s.Ends tag m ∧ slot.pending = some oldest ∧
        (s.limiter.limit.isExceeded (slot.running.plus (-1)) = true ∨
          s.limiter.limit = some (slot.running.plus (-1))))

/-- A count above a limit is the count of some task. -/
theorem busy_of_exceeded (bound : s.limiter.limit = some (.ofInt limit))
    (exceeded : s.limiter.limit.isExceeded (s.limiter.slot tag).running = true) :
    (s.limiter.slot tag).running.le 0 = false := by
  rw [bound] at exceeded
  cases running : (s.limiter.slot tag).running with
  | nan => rfl
  | infinite negative =>
      simpa [Limit.isExceeded, Number.ofInt, Number.below, Number.le, running] using exceeded
  | finite q =>
      have above : (limit : Rat) < q := by
        simpa [Limit.isExceeded, Number.ofInt, Number.below, running] using exceeded
      have positive : 0 < q := lt_of_le_of_lt (by exact_mod_cast Nat.zero_le limit) above
      simpa [Number.le] using positive

/-- Whatever tells of an end, no other step is open meanwhile. -/
theorem Ends.completes (ends : s.Ends tag m) (waiting : (s.limiter.slot tag).pending = some oldest) :
    ∃ s' purpose notes, s.react m = (System.complete s' tag purpose).after notes ∧
      s'.limiter = s.limiter ∧ s'.tickets = s.tickets ∧ s'.openSteps = s.openSteps := by
  unfold Ends at ends
  split at ends
  · subst ends
    exact ⟨s, .complete, [], by simp [react, History.slot?_isSome waiting, Reaction.after], rfl, rfl, rfl⟩
  · obtain ⟨free, ticket, starter, outcome, rest, jobs⟩ := ends
    exact ⟨{ s with loop := { s.loop with jobs := rest } }, _, _,
      by simp only [react, runJob, free, jobs, conclude]; rfl, rfl, rfl, rfl⟩
  · obtain ⟨ticket, starter, rest, stack⟩ := ends
    refine ⟨{ s with stack := rest }, _, _,
      by simp only [react, reply, stack, goOnFrom, taskReturned, conclude, Option.getD_some]; rfl,
      rfl, rfl, ?_⟩
    simp [openSteps, stack, Frame.isStep, Frame.pause?]
  · exact ends.elim

end System

namespace History
variable {h : History} {tag : Tag} {limit : Nat} {oldest : Ticket} {m : Move}

/-- The call opens a step that is to place the submission. -/
theorem repair_of_findsOverflow (bound : h.system.limiter.limit = some (.ofInt limit))
    (finds : h.system.FindsOverflow tag m oldest) :
    ∃ base, base.countP Frame.isStep = h.system.openSteps ∧
      (h.play m).Repair tag limit oldest (h.play m).system.tickets base := by
  obtain ⟨exceeded, ⟨rfl, rfl⟩ | ⟨ends, waiting, high⟩⟩ := finds
  · have told := System.submit_overflows (s := h.system) exceeded
    obtain ⟨current, rest, stack⟩ := told.stack
    refine ⟨h.system.stack, rfl, .placing (show _ = [] ++ _ from stack) ⟨by simp, .inl ?_,
      Nat.le_refl _, fun t from_ to_ => absurd to_ (Nat.not_lt.2 from_),
      fun more => absurd more (Nat.lt_irrefl _)⟩⟩
    rw [limit_play, show (h.play (.submit tag)).system.limiter.slot tag = _ from told.slot]
    exact exceeded
  · obtain ⟨s', purpose, notes, react, limiter, tickets, steps⟩ := ends.completes waiting
    have busy := System.busy_of_exceeded bound exceeded
    rw [← limiter] at busy
    have told := (System.complete_announces busy purpose).after notes
    rw [← react, limiter] at told
    obtain ⟨current, rest, stack⟩ := told.stack
    have slot : (h.play m).system.limiter.slot tag = _ := told.slot
    refine ⟨s'.stack, steps, .handing stack ?_ ?_ rfl⟩
    · rw [limit_play, slot]
      refine high.imp_right fun reached => ?_
      exact Option.some.inj (reached.symm.trans bound)
    · rw [slot]
      exact waiting

theorem tickets_lt_submit (h : History) (tag : Tag) :
    h.system.tickets < (h.play (.submit tag)).system.tickets := by
  obtain ⟨a, enters, steps⟩ := System.submit_enters (c := fun _ _ => True) h.system h.marks tag
  have grown : a.tickets ≤ (h.play (.submit tag)).system.tickets :=
    steps.keep (P := fun b => a.tickets ≤ b.tickets) (fun _ _ held step => held.trans step.limit.2)
      (Nat.le_refl _)
  exact lt_of_lt_of_le (lt_of_lt_of_eq (Nat.lt_succ_self _) enters.limit.2.symm) grown

theorem tickets_lt_of_submit {more : List Move} (mem : .submit tag ∈ more) :
    h.system.tickets < (h.plays more).system.tickets := by
  obtain ⟨before, after, rfl⟩ := List.append_of_mem mem
  rw [plays_append, plays_cons]
  exact (tickets_le_plays h before).trans_lt
    ((tickets_lt_submit _ tag).trans_le (tickets_le_plays _ after))

/-- The repair of an overflow keeps the oldest submission. Once the call that found the overflow is
over as many tasks count as running as may, and what waits is the submission of that call. All that
listeners submitted meanwhile is newer, and was dropped. -/
theorem oldest_submission_is_kept {s : System} (begins : s.Begins) (before more : List Move)
    (finds : ((⟨s, []⟩ : History).plays before).system.FindsOverflow tag m oldest)
    (hears : (((⟨s, []⟩ : History).plays before).play m).HearsOverflows tag more)
    (unwinds : (((⟨s, []⟩ : History).plays before).play m).Unwinds
      ((⟨s, []⟩ : History).plays before).system.openSteps more) :
    let h := ((⟨s, []⟩ : History).plays before).play m
    let after := h.plays more
    ∃ limit : Nat, s.limiter.limit = some (.ofInt limit) ∧
      (after.system.limiter.slot tag).running = .ofInt limit ∧
      (after.system.limiter.slot tag).pending = some oldest ∧
      (∀ t, h.system.tickets ≤ t → t < after.system.tickets →
        oldest < t ∧ .submitted tag t ∈ after.marks ∧ .dropped tag t ∈ after.marks) ∧
      (.submit tag ∈ more →
        ∃ t, oldest < t ∧ .noticed tag (.queued oldest (some t)) ∈ after.notes) := by
  intro h after
  obtain ⟨limit, logger, start⟩ := begins.admission
  have bound : s.limiter.limit = some (.ofInt limit) :=
    congrArg (fun a : Admission => a.limiter.limit) start
  have bound' := (limit_plays (⟨s, []⟩ : History) before).trans bound
  obtain ⟨base, few, repair⟩ := repair_of_findsOverflow bound' finds
  have placed : after.Placed tag limit oldest h.system.tickets :=
    repair.plays ((limit_play _ m).trans bound') hears (few ▸ unwinds)
  have older : oldest < h.system.tickets := by
    obtain ⟨-, ⟨rfl, rfl⟩ | ⟨-, waiting, -⟩⟩ := finds
    · exact tickets_lt_submit _ tag
    · have taken := ((balanced begins before).waiting waiting).1
      exact taken.trans_le (tickets_le_plays _ [m])
  refine ⟨limit, bound, placed.running, placed.pending, fun t from_ to_ => ?_, fun mem => ?_⟩
  · exact ⟨older.trans_le from_, placed.made t from_ to_⟩
  · obtain ⟨t, from_, noticed⟩ := placed.replaced (tickets_lt_of_submit mem)
    exact ⟨t, older.trans_le from_, noticed⟩

/-- One task of the tag was accepted, and its slot was made to count three. -/
def threeCounted : List Move :=
  [.submit "t", .reply .accept, .reply (.heard none), .overwrite "t" (.ofInt 3)]

/-- The overflow is reported, and a listener of it submits one more task. -/
def submitsMeanwhile : List Move :=
  .submit "t" :: List.replicate 5 (.reply (.heard none))

theorem task_submitted_meanwhile_is_dropped :
    let after := (((⟨.oneAtATime, []⟩ : History).plays threeCounted).play (.submit "t")).plays
      submitsMeanwhile
    (after.system.limiter.slot "t").pending = some 1 ∧ .dropped "t" 2 ∈ after.marks := by
  intro after
  have finds : ((⟨.oneAtATime, []⟩ : History).plays threeCounted).system.FindsOverflow "t"
      (.submit "t") 1 := ⟨by decide +kernel, .inl ⟨rfl, by decide +kernel⟩⟩
  obtain ⟨limit, -, -, waits, newer, -⟩ := oldest_submission_is_kept
    System.oneAtATime_begins threeCounted submitsMeanwhile finds (by decide +kernel) (by decide +kernel)
  exact ⟨waits, (newer 2 (by decide +kernel) (by decide +kernel)).2.2⟩

/-- A task that a listener of the overflow submits is the latest one, and yet it is dropped. -/
theorem not_always_latest_is_kept :
    ¬∀ {s : System} (_ : s.Begins) (before more : List Move) (tag : Tag) (m : Move)
      (oldest : Ticket), let h := (⟨s, []⟩ : History).plays before
      h.system.FindsOverflow tag m oldest → (h.play m).HearsOverflows tag more →
        (h.play m).Unwinds h.system.openSteps more →
        ∃ ticket, (((h.play m).plays more).system.limiter.slot tag).pending = some ticket ∧
          ∀ t, .submitted tag t ∈ ((h.play m).plays more).marks → t ≤ ticket := by
  intro latest
  obtain ⟨ticket, waits, all⟩ := latest System.oneAtATime_begins threeCounted submitsMeanwhile "t"
    (.submit "t") 1 ⟨by decide +kernel, .inl ⟨rfl, by decide +kernel⟩⟩ (by decide +kernel)
    (by decide +kernel)
  have kept : (((((⟨.oneAtATime, []⟩ : History).plays threeCounted).play (.submit "t")).plays
      submitsMeanwhile).system.limiter.slot "t").pending = some 1 := by decide +kernel
  obtain rfl : 1 = ticket := Option.some.inj (kept.symm.trans waits)
  exact absurd (all 2 (by decide +kernel)) (by decide)

end History
end Turnstile
