import Turnstile.Proofs.Reactions

/-!
What the answer of `submit` means: where it says no, the runner has taken the task; where it says
yes, the task was queued or refused.
-/
namespace Turnstile

/-- What a submission may be answered for, by the marks made before. -/
def Grounds (marks : List Mark) (tag : Tag) (ticket : Ticket) : Bool → Prop
  | false => .accepted tag ticket ∈ marks
  | true => .queued tag ticket ∈ marks ∨ .rejected tag ticket ∈ marks

theorem Grounds.mono {marks later : List Mark} {tag : Tag} {ticket : Ticket} {queued : Bool}
    (h : Grounds marks tag ticket queued) (sub : marks ⊆ later) :
    Grounds later tag ticket queued := by
  cases queued with
  | false => exact sub h
  | true => exact h.imp (fun mem => sub mem) fun mem => sub mem

/-- A step for a submission has this one in hand. -/
def Purpose.Fits (ticket : Ticket) : Purpose → Prop
  | .submit own => own = ticket
  | _ => True

namespace Pause

/-- A step for a submission has that one in hand or has grounds for its answer. -/
def Leads (marks : List Mark) : Pause → Prop
  | ⟨_, purpose, .offer ticket⟩ | ⟨_, purpose, .heard (.place ticket)⟩ => purpose.Fits ticket
  | ⟨tag, .submit ticket, .heard (.answer queued)⟩ => Grounds marks tag ticket queued
  | ⟨_, .submit _, .heard _⟩ => False
  | _ => True

theorem Leads.mono {marks later : List Mark} {p : Pause} (h : p.Leads marks)
    (sub : marks ⊆ later) : p.Leads later := by
  obtain ⟨tag, purpose, wait⟩ := p
  cases purpose <;> rcases wait with ⟨_ | _ | _ | _⟩ | _ <;>
    first | exact h | exact Grounds.mono h sub

/-- A step that is not for a submission leads to no answer. -/
theorem leads_of_fits {marks : List Mark} {tag : Tag} {purpose : Purpose}
    {resume : Slot.Resume} (fits : ∀ t, purpose.Fits t) :
    Pause.Leads marks ⟨tag, purpose, .heard resume⟩ := by
  cases purpose with
  | submit own => exact absurd (fits (own + 1)) (Nat.succ_ne_self own).symm
  | complete | conclude => cases resume <;> trivial

theorem Leads.fits {marks : List Mark} {tag : Tag} {purpose : Purpose} {resume : Slot.Resume}
    (h : Pause.Leads marks ⟨tag, purpose, .heard resume⟩)
    (late : resume = .release ∨ resume = .handOver) (t : Ticket) : purpose.Fits t := by
  cases purpose with
  | submit own => rcases late with rfl | rfl <;> exact h.elim
  | complete | conclude => trivial

/-- The grounds on which a step for a submission will answer. -/
theorem leads_answer {marks : List Mark} {tag : Tag} {ticket : Ticket} {purpose : Purpose}
    {queued : Bool} (fits : purpose.Fits ticket) (grounds : Grounds marks tag ticket queued) :
    Pause.Leads marks ⟨tag, purpose, .heard (.answer queued)⟩ := by
  cases purpose with
  | submit own =>
      obtain rfl : own = ticket := fits
      exact grounds
  | complete | conclude => trivial

end Pause

namespace Admission
variable {c : Conduct} {a a' : Admission} {tag : Tag} {ticket : Ticket} {purpose : Purpose}

/-- All answers were given on their grounds, and open steps lead to such answers. -/
structure Answered (a : Admission) : Prop where
  answers : ∀ tag t queued, .answered tag t queued ∈ a.marks → Grounds a.marks tag t queued
  pauses : ∀ p ∈ a.pauses, p.Leads a.marks

namespace Answered

/-- More marks and other pauses, each of which leads to its answer. -/
theorem next (h : a.Answered) {marks : List Mark} (more : a'.marks = a.marks ++ marks)
    (grounds : ∀ tag t queued, .answered tag t queued ∈ marks → Grounds a.marks tag t queued)
    (leads : ∀ p ∈ a'.pauses, p ∈ a.pauses ∨ p.Leads a'.marks) : a'.Answered := by
  have sub : a.marks ⊆ a'.marks := more ▸ List.subset_append_left ..
  refine ⟨?_, ?_⟩
  · intro tag t queued mem
    rw [more, List.mem_append] at mem
    exact (mem.elim (h.answers tag t queued) (grounds tag t queued)).mono sub
  · intro p mem
    exact (leads p mem).elim (fun old => (h.pauses p old).mono sub) id

theorem tell {slot : Slot} {notice : Slot.Notice} {resume : Slot.Resume} (h : a.Answered)
    (leads : Pause.Leads (a.marks ++ notice.marks tag) ⟨tag, purpose, .heard resume⟩) :
    (a.tell tag purpose slot notice resume).Answered := by
  refine h.next rfl (fun own t queued mem => ?_) fun p mem => ?_
  · unfold Slot.Notice.marks at mem
    split at mem <;> simp at mem
  · rcases List.mem_cons.1 mem with rfl | old
    · exact .inr leads
    · exact .inl old

theorem ask {slot : Slot} (h : a.Answered) (fits : purpose.Fits ticket) :
    (a.ask tag purpose slot ticket).Answered := by
  apply h.next rfl (by simp)
  intro p mem
  rcases List.mem_cons.1 mem with rfl | old
  · exact .inr fits
  · exact .inl old

theorem mark {marks : List Mark} (h : a.Answered)
    (grounds : ∀ tag t queued, .answered tag t queued ∈ marks → Grounds a.marks tag t queued) :
    (a.mark marks).Answered :=
  h.next rfl grounds fun _ => .inl

theorem setSlot {slot : Slot} (h : a.Answered) : (a.setSlot tag slot).Answered :=
  ⟨h.answers, h.pauses⟩

theorem back {p : Pause} {rest : List Pause} (h : a.Answered) (top : a.pauses = p :: rest) :
    (a.back rest).Answered :=
  ⟨h.answers, fun q mem => h.pauses q (top ▸ List.mem_cons_of_mem p mem)⟩

theorem at_start (limit : Nat) (logger : Option Logging.Threshold) :
    (initial limit logger).Answered where
  answers _ _ _ mem := absurd mem List.not_mem_nil
  pauses _ mem := absurd mem List.not_mem_nil

theorem leads {p : Pause} {rest : List Pause} (h : a.Answered) (top : a.pauses = p :: rest) :
    p.Leads a.marks :=
  h.pauses p (top ▸ List.mem_cons_self ..)

end Answered

theorem Places.answered (h : Places tag ticket purpose a a') (answered : a.Answered)
    (fits : purpose.Fits ticket) : a'.Answered := by
  cases h with
  | wait reached =>
      refine answered.tell (Pause.leads_answer fits (.inl ?_))
      cases (a.slot tag).pending <;> simp [Slot.Notice.marks]
  | offer room => exact answered.ask fits

theorem Enters.answered (h : Enters tag ticket purpose a a') (answered : a.Answered)
    (fits : purpose.Fits ticket) : a'.Answered := by
  cases h with
  | overflow exceeded => exact answered.tell fits
  | place kept placed => exact placed.answered answered fits

theorem Ends.answered (h : Ends tag purpose a a') (answered : a.Answered)
    (fits : ∀ t, purpose.Fits t) : a'.Answered := by
  cases h with
  | underflow idle => exact answered.tell (Pause.leads_of_fits fits)
  | finish busy => exact answered.tell (Pause.leads_of_fits fits)

theorem grounds_of_leads {marks : List Mark} {queued : Bool}
    (h : Pause.Leads marks ⟨tag, purpose, .heard (.answer queued)⟩) (own : Tag) (t : Ticket)
    (answer : Bool) (mem : .answered own t answer ∈ purpose.marks tag queued) :
    Grounds marks own t answer := by
  cases purpose with
  | submit ticket =>
      obtain ⟨rfl, rfl, rfl⟩ : own = tag ∧ t = ticket ∧ answer = queued := by
        simpa [Purpose.marks] using mem
      exact h
  | complete | conclude => simp [Purpose.marks] at mem

theorem Step.answered (h : Step c a a') (answered : a.Answered) : a'.Answered := by
  cases h with
  | submit may enters =>
      refine enters.answered ?_ rfl
      exact answered.next rfl (by simp) fun _ => .inl
  | complete may ends => exact ends.answered answered fun _ => trivial
  | overwrite may => exact answered.setSlot
  | start may outside => exact answered.next rfl (by simp) fun _ => .inl
  | refuse e may top =>
      refine (answered.back top).tell (Pause.leads_answer (answered.leads top) (.inr ?_))
      simp [Slot.Notice.marks]
  | accept top =>
      refine ((answered.back top).mark (by simp)).tell
        (Pause.leads_answer (answered.leads top) ?_)
      simp [Slot.Notice.marks, Grounds]
  | @take tag ticket purpose rest prompt top =>
      have back : ((a.back rest).mark [.accepted tag ticket]).Answered :=
        (answered.back top).mark (by simp)
      have taken : (({ a with backlog := (tag, ticket) ::ₘ a.backlog }.back rest).mark
          [.accepted tag ticket]).Answered := ⟨back.answers, back.pauses⟩
      refine taken.tell (Pause.leads_answer (answered.leads top) ?_)
      simp [Slot.Notice.marks, Grounds]
  | pump next => exact answered.next rfl (by simp) fun _ => .inl
  | conclude next ends =>
      refine ends.answered ?_ fun _ => trivial
      exact answered.next rfl (by simp) fun _ => .inl
  | place top places =>
      exact places.answered (answered.back top).setSlot (answered.leads top)
  | release top =>
      exact (answered.back top).setSlot.tell
        (Pause.leads_of_fits ((answered.leads top).fits (.inl rfl)))
  | handOver top waiting enters =>
      exact enters.answered (answered.back top).setSlot ((answered.leads top).fits (.inr rfl) _)
  | @rest tag purpose rest top free =>
      refine ((answered.back top).mark fun own t queued mem => ?_).setSlot
      cases purpose with
      | submit ticket => exact (answered.leads top).elim
      | complete | conclude => simp [Purpose.marks] at mem
  | answer top =>
      exact ((answered.back top).mark (grounds_of_leads (answered.leads top))).setSlot
  | number => exact ⟨answered.answers, answered.pauses⟩

end Admission

theorem History.answered {s : System} (begins : s.Begins) (ms : List Move) :
    ((⟨s, []⟩ : History).plays ms).admission.Answered := by
  obtain ⟨limit, logger, hs⟩ := begins.admission
  exact plays_induction (c := fun _ _ => True) (fun _ _ held step => step.answered held)
    (Conduct.keeps_of_forall fun _ _ => trivial) (hs ▸ Admission.Answered.at_start limit logger)

end Turnstile
