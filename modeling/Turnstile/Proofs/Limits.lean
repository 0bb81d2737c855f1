import Turnstile.Proofs.Outstanding

/-!
The limit of a tag is kept. The running count of a slot is the number of its works that the runner
has, or is being offered, and whose end the slot has not been told; it never passes the limit, and no
count is ever found wrong. Numbers of a binary64 cell count exactly up to `Number.lastCount`, so a
limit above that one is kept for as many submissions.
-/
namespace Turnstile

/-- The step has found a count wrong and is about to mend it. -/
def Pause.mends : Pause → Bool
  | ⟨_, _, .heard (.place _)⟩ | ⟨_, _, .heard .release⟩ => true
  | _ => false

def Mark.isAnomaly : Mark → Bool
  | .anomaly .. => true
  | _ => false

namespace Admission
variable {a a' : Admission} {limit : Nat} {tag : Tag} {ticket : Ticket} {purpose : Purpose}

/-- A step that stops where another went on leaves no count to mend if it mends none. -/
theorem sound_next {p q : Pause} {rest : List Pause} (top : a.pauses = q :: rest)
    (fine : p.mends = false) (r : Pause) (mem : r ∈ p :: rest) :
    r ∈ a.pauses ∨ r.mends = false := by
  rw [top]
  exact (List.mem_cons.1 mem).elim (fun new => new ▸ .inr fine) fun old =>
    .inl (List.mem_cons_of_mem _ old)

/-- The running counts are right, and no step has found one wrong. -/
structure Exact (limit : Nat) (a : Admission) : Prop where
  running : ∀ tag, (a.slot tag).running = .ofInt (a.outstanding tag).card
  within : ∀ tag, (a.outstanding tag).card ≤ limit
  quiet : ∀ m ∈ a.marks, m.isAnomaly = false
  sound : ∀ p ∈ a.pauses, p.mends = false

/-- Few enough works can be running at once for their number to be exact. -/
def Countable (limit : Nat) (a : Admission) : Prop :=
  limit ≤ Number.lastCount ∨ a.tickets ≤ Number.lastCount

theorem outstanding_card_le (a : Admission) (tag : Tag) : (a.outstanding tag).card ≤ a.tickets :=
  (Finset.card_filter_le _ _).trans (Finset.card_range _).le

theorem Exact.countable (exact : a.Exact limit) (few : a.Countable limit) (tag : Tag) :
    (a.outstanding tag).card ≤ Number.lastCount :=
  few.elim (exact.within tag).trans (outstanding_card_le a tag).trans

namespace Exact

/-- The same works are outstanding and all counts are the same. -/
theorem next {hand hand' : List Submission} (exact : a.Exact limit) (balanced : a.Balanced hand)
    (balanced' : a'.Balanced hand') {marks : List Mark} (more : a'.marks = a.marks ++ marks)
    (quiet : ∀ m ∈ marks, m.ofHolding = false ∧ m.isAnomaly = false)
    (slots : ∀ own, (a'.slot own).running = (a.slot own).running)
    (pauses : ∀ p ∈ a'.pauses, p ∈ a.pauses ∨ p.mends = false) : a'.Exact limit := by
  have same (m : Mark) (work : m.ofHolding = true) : a'.times m = a.times m :=
    times_of_quiet more (fun m mem => (quiet m mem).1) work
  refine ⟨?_, ?_, ?_, ?_⟩
  · intro own
    rw [slots, outstanding_eq balanced balanced' same, exact.running]
  · intro own
    rw [outstanding_eq balanced balanced' same]
    exact exact.within own
  · intro m mem
    rw [more, List.mem_append] at mem
    exact mem.elim (exact.quiet m) fun new => (quiet m new).2
  · intro p mem
    exact (pauses p mem).elim (exact.sound p) id

/-- One more work is outstanding: it is being offered. -/
theorem ask (exact : a.Exact limit) (few : a.Countable limit) (balanced : a.Balanced [(tag, ticket)])
    (balanced' : (a.ask tag purpose
      { a.slot tag with running := (a.slot tag).running.plus 1 } ticket).Balanced [])
    (shared : a.Shared) (room : (a.outstanding tag).card ≠ limit) :
    (a.ask tag purpose { a.slot tag with running := (a.slot tag).running.plus 1 } ticket).Exact
      limit := by
  have works := outstanding_ask balanced balanced' shared
  have fresh : ticket ∉ a.outstanding tag := by
    rw [mem_outstanding balanced, balanced.offered_in_hand]
    omega
  have more : (insert ticket (a.outstanding tag)).card = (a.outstanding tag).card + 1 :=
    Finset.card_insert_of_notMem fresh
  have within : (a.outstanding tag).card + 1 ≤ limit :=
    Nat.lt_of_le_of_ne (exact.within tag) room
  have exactly : (a.outstanding tag).card + 1 ≤ Number.lastCount := by
    have all := outstanding_card_le (a.ask tag purpose
      { a.slot tag with running := (a.slot tag).running.plus 1 } ticket) tag
    rw [works, if_pos rfl, more] at all
    exact few.elim within.trans all.trans
  refine ⟨?_, ?_, ?_, ?_⟩
  · intro own
    rw [works, slot_ask]
    split
    · rw [more, exact.running, Number.ofInt_plus_one (by omega), Nat.min_eq_left exactly]
    · exact exact.running own
  · intro own
    rw [works]
    split
    · rwa [more]
    · exact exact.within own
  · intro m mem
    rw [ask_marks, List.mem_append, List.mem_singleton] at mem
    exact mem.elim (exact.quiet m) fun new => new ▸ rfl
  · intro p mem
    exact (List.mem_cons.1 mem).elim (fun new => new ▸ rfl) (exact.sound p)

/-- One work less is outstanding: it was refused, or has ended. -/
theorem less {hand hand' : List Submission} (exact : a.Exact limit) (few : a.Countable limit)
    (balanced : a.Balanced hand) (balanced' : a'.Balanced hand') {m : Mark} {marks : List Mark}
    (ended : m = .rejected tag ticket ∨ m = .concluded tag ticket)
    (more : a'.marks = a.marks ++ m :: marks)
    (quiet : ∀ m ∈ marks, m.ofHolding = false ∧ m.isAnomaly = false)
    (was : ticket ∈ a.outstanding tag)
    (slots : ∀ own, (a'.slot own).running =
      if own = tag then (a.slot tag).running.plus (-1) else (a.slot own).running)
    (pauses : ∀ p ∈ a'.pauses, p ∈ a.pauses ∨ p.mends = false) : a'.Exact limit := by
  have works := outstanding_erase balanced balanced' ended more fun m mem => (quiet m mem).1
  have fewer : ((a.outstanding tag).erase ticket).card = (a.outstanding tag).card - 1 :=
    Finset.card_erase_of_mem was
  have busy : 0 < (a.outstanding tag).card := Finset.card_pos.2 ⟨ticket, was⟩
  refine ⟨?_, ?_, ?_, ?_⟩
  · intro own
    rw [works, slots]
    split
    · rw [fewer, exact.running, Number.ofInt_plus_neg_one (exact.countable few tag) busy]
    · exact exact.running own
  · intro own
    rw [works]
    split
    · rw [fewer]
      exact (Nat.sub_le _ _).trans (exact.within tag)
    · exact exact.within own
  · intro m mem
    rw [more, List.mem_append, List.mem_cons] at mem
    rcases mem with old | rfl | new
    · exact exact.quiet m old
    · rcases ended with rfl | rfl <;> rfl
    · exact (quiet m new).2
  · intro p mem
    exact (pauses p mem).elim (exact.sound p) id

theorem at_start (limit : Nat) (logger : Option Logging.Threshold) :
    (initial limit logger).Exact limit where
  running _ := rfl
  within _ := Nat.zero_le _
  quiet _ mem := absurd mem List.not_mem_nil
  sound _ mem := absurd mem List.not_mem_nil

end Exact

section Entry
variable (counted : a.Exact limit) (few : a.Countable limit)
  (bound : a.limiter.limit = some (.ofInt limit)) (balanced : a.Balanced [(tag, ticket)])
  (shared : a.Shared)
include counted few bound balanced shared

theorem Places.exact (h : Places tag ticket purpose a a') : a'.Exact limit := by
  have balanced' := h.balanced balanced
  cases h with
  | wait reached =>
      refine counted.next balanced balanced' rfl ?_ (fun own => ?_) fun p mem => ?_
      · cases (a.slot tag).pending <;> simp [Slot.Notice.marks, Mark.ofHolding, Mark.isAnomaly]
      · exact running_tell (by rfl) own
      · exact (List.mem_cons.1 mem).elim (fun new => new ▸ .inr rfl) .inl
  | offer room =>
      apply counted.ask few balanced balanced' shared
      intro full
      rw [bound, counted.running, full] at room
      exact absurd (Limit.isReached_ofInt.2 rfl) (ne_true_of_eq_false room)

theorem Enters.exact (h : Enters tag ticket purpose a a') : a'.Exact limit := by
  cases h with
  | overflow exceeded =>
      rw [bound, counted.running, Limit.isExceeded_ofInt] at exceeded
      exact absurd (counted.within tag) (Nat.not_le.2 exceeded)
  | place kept placed => exact placed.exact counted few bound balanced shared

end Entry

/-- Everything that careful surroundings keep. -/
structure Kept (limit : Nat) (a : Admission) : Prop where
  bound : a.limiter.limit = some (.ofInt limit)
  balanced : a.Balanced []
  ran : a.Ran
  shared : a.Shared
  counted : a.Countable limit → a.Exact limit

/-- A work whose task has ended was outstanding. -/
theorem outstanding_of_inFlight {inFlight : Multiset Submission} (balanced : a.Balanced [])
    (shared : a.Shared) (next : a.inFlight = (tag, ticket) ::ₘ inFlight) :
    ticket ∈ a.outstanding tag := by
  have flight := shared.flight tag ticket
  have share := shared.share tag ticket
  have once := balanced.offered_le_one tag ticket
  rw [next, Multiset.count_cons_self] at flight
  rw [mem_outstanding balanced]
  omega

theorem Ends.exact {before : Admission} {ended : Ticket} (h : Ends tag purpose a a')
    (counted : before.Exact limit) (few : before.Countable limit)
    (balanced : before.Balanced []) (balanced' : a.Balanced [])
    (was : ended ∈ before.outstanding tag)
    (marks : a.marks = before.marks ++ [.concluded tag ended])
    (slots : a.limiter = before.limiter) (pauses : a.pauses = before.pauses) :
    a'.Exact limit := by
  have slot (own : Tag) : a.slot own = before.slot own := by rw [Admission.slot, Admission.slot, slots]
  have busy : (before.outstanding tag).card ≠ 0 := Finset.card_ne_zero_of_mem was
  cases h with
  | underflow idle =>
      rw [slot, counted.running, Number.ofInt_le_zero] at idle
      exact absurd idle busy
  | finish positive =>
      have more : (a.finish tag purpose).marks =
          before.marks ++ .concluded tag ended :: [.finished tag] := by
        simp [Admission.finish, marks, Slot.Notice.marks]
      refine counted.less few balanced ((alike_finish tag purpose).balanced balanced') (.inr rfl)
        more ?_ was (fun own => ?_) fun p mem => ?_
      · simp [Mark.ofHolding, Mark.isAnomaly]
      · rw [Admission.finish, slot_tell, slot, slot]
        split <;> rfl
      · rw [Admission.finish, tell_pauses, pauses] at mem
        exact (List.mem_cons.1 mem).elim (fun new => new ▸ .inr rfl) .inl

theorem Countable.mono (few : a'.Countable limit) (tickets : a.tickets ≤ a'.tickets) :
    a.Countable limit :=
  few.imp_right tickets.trans

theorem Step.exact (h : Step .careful a a') (kept : a.Kept limit) (few : a'.Countable limit) :
    a'.Exact limit := by
  have few' : a.Countable limit := few.mono h.limit.2
  have counted := kept.counted few'
  have balanced := kept.balanced
  have balanced' := h.balanced balanced
  cases h with
  | @submit tag a' may enters =>
      have made : ({ a with tickets := a.tickets + 1 }.mark [.submitted tag a.tickets]).Exact
          limit :=
        counted.next balanced balanced.submitted rfl (by simp [Mark.ofHolding, Mark.isAnomaly])
          (fun _ => rfl) fun _ => .inl
      exact enters.exact made (few.mono enters.limit.2.ge) kept.bound balanced.submitted
        (kept.shared.next rfl (by simp [Mark.ofWork]) rfl rfl)
  | complete may ends => exact may.elim
  | overwrite may => exact may.elim
  | start may outside =>
      exact counted.next balanced balanced' rfl (by simp [Mark.ofHolding, Mark.isAnomaly])
        (fun _ => rfl) fun _ => .inl
  | pump next =>
      exact counted.next balanced balanced' rfl (by simp [Mark.ofHolding, Mark.isAnomaly])
        (fun _ => rfl) fun _ => .inl
  | @refuse tag ticket purpose rest e may top =>
      have idle : a.times (.started tag ticket) = 0 :=
        may.elim id (kept.ran.prompt tag ticket)
      have alone := offered_alone balanced kept.ran top idle
      have flight := kept.shared.flight tag ticket
      have was : ticket ∈ a.outstanding tag := by
        rw [mem_outstanding balanced]
        omega
      refine counted.less few' balanced balanced' (.inl rfl) rfl (by simp) was (fun own => ?_)
        (sound_next top rfl)
      rw [slot_tell]
      split <;> rfl
  | @accept tag ticket purpose rest top =>
      have more : (((a.back rest).mark [.accepted tag ticket]).tell tag purpose (a.slot tag)
          (.dispatched ticket (a.slot tag).running) (.answer false)).marks =
            a.marks ++ [.accepted tag ticket] := by
        simp [Slot.Notice.marks]
      exact counted.next balanced balanced' more (by simp [Mark.ofHolding, Mark.isAnomaly])
        (fun own => running_tell (by rfl) own) (sound_next top rfl)
  | @take tag ticket purpose rest prompt top =>
      have more : ((({ a with backlog := (tag, ticket) ::ₘ a.backlog }.back rest).mark
          [.accepted tag ticket]).tell tag purpose (a.slot tag)
            (.dispatched ticket (a.slot tag).running) (.answer false)).marks =
              a.marks ++ [.accepted tag ticket] := by
        simp [Slot.Notice.marks]
      exact counted.next balanced balanced' more (by simp [Mark.ofHolding, Mark.isAnomaly])
        (fun own => running_tell (by rfl) own) (sound_next top rfl)
  | @conclude tag ticket starter outcome inCall inFlight a' next ends =>
      have less : Alike a { a with inFlight } := alike_of_eq rfl rfl rfl (Nat.le_refl _)
      have same : Alike a ({ a with inFlight }.mark [.concluded tag ticket]) :=
        less.trans (alike_mark (by simp [Mark.ofCourse]))
      exact ends.exact counted few' balanced (same.balanced balanced)
        (outstanding_of_inFlight balanced kept.shared next) rfl rfl rfl
  | place top places =>
      exact absurd (counted.sound _ (top ▸ List.mem_cons_self ..)) (by simp [Pause.mends])
  | release top =>
      exact absurd (counted.sound _ (top ▸ List.mem_cons_self ..)) (by simp [Pause.mends])
  | @handOver tag ticket purpose rest a' top waiting enters =>
      have left := (alike_back top rfl).balanced balanced
      have taken : ((a.back rest).setSlot tag { a.slot tag with pending := none }).Exact limit :=
        counted.next balanced (left.taken waiting) (List.append_nil _).symm (by simp)
          (fun own => running_setSlot (by rfl) own) fun p mem =>
            .inl (top ▸ List.mem_cons_of_mem _ mem)
      exact enters.exact taken (few.mono enters.limit.2.ge) kept.bound (left.taken waiting)
        ⟨kept.shared.flight, kept.shared.share⟩
  | @rest tag purpose rest top free =>
      exact counted.next balanced balanced' rfl
        (by cases purpose <;> simp [Purpose.marks, Mark.ofHolding, Mark.isAnomaly])
        (fun own => running_setSlot (by rfl) own) fun p mem => .inl (top ▸ List.mem_cons_of_mem _ mem)
  | @answer tag purpose queued rest top =>
      exact counted.next balanced balanced' rfl
        (by cases purpose <;> simp [Purpose.marks, Mark.ofHolding, Mark.isAnomaly])
        (fun own => running_setSlot (by rfl) own) fun p mem => .inl (top ▸ List.mem_cons_of_mem _ mem)
  | number =>
      exact counted.next balanced balanced' (List.append_nil _).symm (by simp) (fun _ => rfl)
        fun _ => .inl

theorem Step.kept (h : Step .careful a a') (kept : a.Kept limit) : a'.Kept limit where
  bound := h.limit.1.trans kept.bound
  balanced := h.balanced kept.balanced
  ran := (h.mono fun _ _ => Conduct.careful_honest).ran kept.ran kept.balanced
  shared := (h.mono fun _ _ => Conduct.careful_once).shared kept.shared kept.ran kept.balanced
  counted few := h.exact kept few

theorem Kept.at_start (limit : Nat) (logger : Option Logging.Threshold) :
    (initial limit logger).Kept limit where
  bound := rfl
  balanced := .at_start limit logger
  ran := .at_start limit logger
  shared := .at_start limit logger
  counted _ := .at_start limit logger

end Admission

/-- The limit of every tag is kept, as long as the works of a tag can be counted exactly. -/
theorem History.limit_is_kept {s : System} (begins : s.Begins) {ms : List Move}
    (kept : Conduct.careful.Keeps ⟨s, []⟩ ms) :
    let h := (⟨s, []⟩ : History).plays ms
    let a := h.admission
    ∃ limit : Nat, s.limiter.limit = some (.ofInt limit) ∧
      (limit ≤ Number.lastCount ∨ h.system.tickets ≤ Number.lastCount →
        (∀ tag, (h.system.limiter.slot tag).running = .ofInt (a.outstanding tag).card ∧
          (a.outstanding tag).card ≤ limit ∧ (a.calling tag).card ≤ limit) ∧
        ∀ tag kind, .anomaly tag kind ∉ a.marks) := by
  intro h a
  obtain ⟨limit, logger, hs⟩ := begins.admission
  have last : a.Kept limit :=
    plays_induction (P := fun a => a.Kept limit) (fun _ _ held step => step.kept held) kept
      (hs ▸ .at_start limit logger)
  have bound : s.limiter.limit = some (.ofInt limit) :=
    congrArg (fun a : Admission => a.limiter.limit) hs
  refine ⟨limit, bound, fun few => ?_⟩
  have counted : a.Exact limit := last.counted few
  refine ⟨fun tag => ⟨counted.running tag, counted.within tag, ?_⟩, fun tag kind mem => ?_⟩
  · have sub := Admission.calling_subset last.balanced last.shared tag
    exact (Finset.card_le_card sub).trans (counted.within tag)
  · exact absurd (counted.quiet _ mem) (by simp [Mark.isAnomaly])

/-- A task of a tag runs while another waits; it fails, and the other one is taken up. -/
def History.twoTasks : List Move :=
  [.submit "t", .reply .accept, .reply (.heard none), .start (.limited "t" 0),
    .submit "t", .reply (.heard none), .reply (.task (.threw (.value .undefined))),
    .reply (.heard none), .reply .accept]

theorem History.limit_is_kept_for_two_tasks :
    let h := (⟨.oneAtATime, []⟩ : History).plays twoTasks
    (h.system.limiter.slot "t").running = .ofInt (h.admission.outstanding "t").card ∧
      (h.admission.outstanding "t").card ≤ 1 := by
  intro h
  have careful : Conduct.careful.Keeps ⟨.oneAtATime, []⟩ twoTasks := by decide +kernel
  obtain ⟨limit, bound, kept⟩ := limit_is_kept System.oneAtATime_begins careful
  obtain rfl : limit = 1 := by
    have same : Number.ofInt (1 : Nat) = .ofInt limit := Option.some.inj bound
    simpa using same.symm
  obtain ⟨each, -⟩ := kept (.inl (by decide))
  exact ⟨(each "t").1, (each "t").2.1⟩

end Turnstile
