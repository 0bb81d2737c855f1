import Turnstile.Proofs.Fates
import Turnstile.Proofs.Stranding

/-!
The submissions of a tag that its runner has, or is being offered, and whose end the slot has not
been told. A runner that starts nothing twice holds each of them once, so the same number can be
counted from the marks.
-/
namespace Turnstile

/-- A runner outside starts only what it has taken or is being offered, and nothing twice; it refuses
nothing that it has started. Slots are told of ends by works only, and their counts left alone. -/
def Conduct.careful : Conduct
  | _, .submit _ => True
  | _, .complete _ => False
  | _, .overwrite .. => False
  | a, .start tag ticket =>
    0 < a.times (.accepted tag ticket) + a.offering tag ticket ∧ a.times (.started tag ticket) = 0
  | a, .refuse tag ticket => a.times (.started tag ticket) = 0

instance : ∀ a d, Decidable (Conduct.careful a d)
  | _, .submit _ => .isTrue trivial
  | _, .complete _ | _, .overwrite .. => .isFalse id
  | a, .start tag ticket =>
    inferInstanceAs (Decidable (0 < a.times (.accepted tag ticket) + a.offering tag ticket ∧
      a.times (.started tag ticket) = 0))
  | a, .refuse tag ticket => inferInstanceAs (Decidable (a.times (.started tag ticket) = 0))

/-- A runner outside starts only what it has taken or is being offered, and nothing twice; it refuses
nothing that it has started. -/
def Conduct.once : Conduct
  | a, .start tag ticket =>
    0 < a.times (.accepted tag ticket) + a.offering tag ticket ∧ a.times (.started tag ticket) = 0
  | a, .refuse tag ticket => a.times (.started tag ticket) = 0
  | _, _ => True

instance : ∀ a d, Decidable (Conduct.once a d)
  | a, .start tag ticket =>
    inferInstanceAs (Decidable (0 < a.times (.accepted tag ticket) + a.offering tag ticket ∧
      a.times (.started tag ticket) = 0))
  | a, .refuse tag ticket => inferInstanceAs (Decidable (a.times (.started tag ticket) = 0))
  | _, .submit _ | _, .complete _ | _, .overwrite .. => .isTrue trivial

theorem Conduct.careful_once {a : Admission} {d : Deed} (h : careful a d) : once a d := by
  cases d with
  | submit | complete | overwrite => trivial
  | start | refuse => exact h

theorem Conduct.once_honest {a : Admission} {d : Deed} (h : once a d) : honest a d := by
  cases d with
  | submit | complete | overwrite => trivial
  | start tag ticket => exact h.1
  | refuse tag ticket => exact h

theorem Conduct.careful_honest {a : Admission} {d : Deed} (h : careful a d) : honest a d :=
  once_honest (careful_once h)

/-- Marks of what a runner does with its works. -/
def Mark.ofWork : Mark → Bool
  | .offered .. | .rejected .. | .started .. | .concluded .. => true
  | _ => false

namespace Admission
variable {c : Conduct} {a a' : Admission} {tag : Tag} {ticket : Ticket} {purpose : Purpose}

/-- Works of the tag that the runner has accepted or is being offered, and that have not ended. -/
def outstanding (a : Admission) (tag : Tag) : Finset Ticket :=
  (Finset.range a.tickets).filter fun t =>
    0 < a.times (.accepted tag t) + a.offering tag t ∧ a.times (.concluded tag t) = 0

/-- Works of the tag whose task was called and that have not ended. -/
def calling (a : Admission) (tag : Tag) : Finset Ticket :=
  (Finset.range a.tickets).filter fun t =>
    0 < a.times (.started tag t) ∧ a.times (.concluded tag t) = 0

/-- Each task is called once, for a work that was offered and not refused. -/
structure Shared (a : Admission) : Prop where
  flight : ∀ tag t, a.times (.started tag t) =
    a.inFlight.count (tag, t) + a.times (.concluded tag t)
  share : ∀ tag t, a.times (.started tag t) + a.backlog.count (tag, t) +
    a.times (.rejected tag t) ≤ a.times (.offered tag t)

namespace Shared

theorem next (shared : a.Shared) {marks : List Mark} (more : a'.marks = a.marks ++ marks)
    (quiet : ∀ m ∈ marks, m.ofWork = false) (backlog : a'.backlog = a.backlog)
    (inFlight : a'.inFlight = a.inFlight) : a'.Shared := by
  have same {m : Mark} (loud : m.ofWork = true) : a'.times m = a.times m :=
    times_of_quiet more quiet loud
  refine ⟨?_, ?_⟩
  · intro tag t
    rw [same rfl, same rfl, inFlight]
    exact shared.flight tag t
  · intro tag t
    rw [same rfl, same rfl, same rfl, backlog]
    exact shared.share tag t

theorem at_start (limit : Nat) (logger : Option Logging.Threshold) :
    (initial limit logger).Shared where
  flight _ _ := rfl
  share _ _ := Nat.le_refl _

theorem tell {slot : Slot} {notice : Slot.Notice} {resume : Slot.Resume} (shared : a.Shared)
    (quiet : ∀ m ∈ notice.marks tag, m.ofWork = false) :
    (a.tell tag purpose slot notice resume).Shared :=
  shared.next rfl quiet rfl rfl

theorem ask {slot : Slot} (shared : a.Shared) : (a.ask tag purpose slot ticket).Shared := by
  refine ⟨?_, ?_⟩
  · intro own t
    simpa using shared.flight own t
  · intro own t
    have share := shared.share own t
    simp only [times_ask, ask_backlog, List.count_cons, List.count_nil]
    grind

theorem refuse {slot : Slot} {e : Thrown} (shared : a.Shared)
    (room : a.times (.started tag ticket) + a.backlog.count (tag, ticket) +
      a.times (.rejected tag ticket) < a.times (.offered tag ticket)) :
    (a.tell tag purpose slot (.rejected ticket e) (.answer true)).Shared := by
  refine ⟨?_, ?_⟩
  · intro own t
    simpa [Slot.Notice.marks] using shared.flight own t
  · intro own t
    have share := shared.share own t
    simp only [times_tell, tell_backlog, Slot.Notice.marks, List.count_cons, List.count_nil]
    grind

theorem start (shared : a.Shared)
    (room : a.times (.started tag ticket) + a.backlog.count (tag, ticket) +
      a.times (.rejected tag ticket) < a.times (.offered tag ticket)) :
    ({ a with inFlight := (tag, ticket) ::ₘ a.inFlight }.mark [.started tag ticket]).Shared := by
  have same (m : Mark) :
      ({ a with inFlight := (tag, ticket) ::ₘ a.inFlight } : Admission).times m = a.times m := rfl
  refine ⟨?_, ?_⟩
  · intro own t
    have flight := shared.flight own t
    simp only [times_mark, same, mark_inFlight, Multiset.count_cons, List.count_cons,
      List.count_nil]
    grind
  · intro own t
    have share := shared.share own t
    simp only [times_mark, same, mark_backlog, List.count_cons, List.count_nil]
    grind

theorem take {rest : List Pause} (shared : a.Shared)
    (room : a.times (.started tag ticket) + a.backlog.count (tag, ticket) +
      a.times (.rejected tag ticket) < a.times (.offered tag ticket)) :
    (({ a with backlog := (tag, ticket) ::ₘ a.backlog }.back rest).mark
      [.accepted tag ticket]).Shared := by
  have same (m : Mark) :
      ({ a with backlog := (tag, ticket) ::ₘ a.backlog } : Admission).times m = a.times m := rfl
  refine ⟨?_, ?_⟩
  · intro own t
    simpa [same] using shared.flight own t
  · intro own t
    have share := shared.share own t
    simp only [times_mark, times_back, same, mark_backlog, back_backlog, Multiset.count_cons,
      List.count_cons, List.count_nil]
    grind

theorem pump {backlog : Multiset Submission} (shared : a.Shared)
    (next : a.backlog = (tag, ticket) ::ₘ backlog) :
    ({ a with backlog, inFlight := (tag, ticket) ::ₘ a.inFlight }.mark
      [.started tag ticket]).Shared := by
  have same (m : Mark) :
      ({ a with backlog, inFlight := (tag, ticket) ::ₘ a.inFlight } : Admission).times m =
        a.times m := rfl
  refine ⟨?_, ?_⟩
  · intro own t
    have flight := shared.flight own t
    simp only [times_mark, same, mark_inFlight, Multiset.count_cons, List.count_cons,
      List.count_nil]
    grind
  · intro own t
    have share := shared.share own t
    simp only [next, Multiset.count_cons] at share
    simp only [times_mark, same, mark_backlog, List.count_cons, List.count_nil]
    grind

theorem conclude {inFlight : Multiset Submission} (shared : a.Shared)
    (next : a.inFlight = (tag, ticket) ::ₘ inFlight) :
    ({ a with inFlight }.mark [.concluded tag ticket]).Shared := by
  have same (m : Mark) : ({ a with inFlight } : Admission).times m = a.times m := rfl
  refine ⟨?_, ?_⟩
  · intro own t
    have flight := shared.flight own t
    simp only [next, Multiset.count_cons] at flight
    simp only [times_mark, same, mark_inFlight, List.count_cons, List.count_nil]
    grind
  · intro own t
    simpa [same] using shared.share own t

end Shared

theorem Places.shared (h : Places tag ticket purpose a a') (shared : a.Shared) : a'.Shared := by
  cases h with
  | wait reached =>
      apply shared.tell
      cases (a.slot tag).pending <;> simp [Slot.Notice.marks, Mark.ofWork]
  | offer room => exact shared.ask

theorem Enters.shared (h : Enters tag ticket purpose a a') (shared : a.Shared) : a'.Shared := by
  cases h with
  | overflow exceeded => exact shared.tell (by simp [Slot.Notice.marks, Mark.ofWork])
  | place kept placed => exact placed.shared shared

theorem Ends.shared (h : Ends tag purpose a a') (shared : a.Shared) : a'.Shared := by
  cases h <;> exact shared.tell (by simp [Slot.Notice.marks, Mark.ofWork])

/-- A submission that is offered and was not started is nowhere else. -/
theorem offered_alone {rest : List Pause} (balanced : a.Balanced []) (ran : a.Ran)
    (top : a.pauses = ⟨tag, purpose, .offer ticket⟩ :: rest)
    (idle : a.times (.started tag ticket) = 0) :
    a.times (.started tag ticket) + a.backlog.count (tag, ticket) +
      a.times (.rejected tag ticket) < a.times (.offered tag ticket) := by
  have offers := balanced.offers tag ticket
  have once := balanced.offered_le_one tag ticket
  have open_ := offering_back top tag ticket
  simp only [Pause.offers, beq_self_eq_true, Bool.and_self, if_true] at open_
  have unstocked : a.backlog.count (tag, ticket) = 0 := by
    apply Multiset.count_eq_zero.2
    intro mem
    have accepted := ran.stock tag ticket mem
    omega
  omega

theorem Step.shared (h : Step .once a a') (shared : a.Shared) (ran : a.Ran)
    (balanced : a.Balanced []) : a'.Shared := by
  cases h with
  | submit may enters =>
      exact enters.shared (shared.next rfl (by simp [Mark.ofWork]) rfl rfl)
  | complete may ends => exact ends.shared shared
  | overwrite may => exact ⟨shared.flight, shared.share⟩
  | @start tag ticket may outside =>
      apply shared.start
      have offers := balanced.offers tag ticket
      have once := balanced.offered_le_one tag ticket
      rw [may.2, outside, Multiset.count_zero]
      have taken := may.1
      omega
  | @refuse tag ticket purpose rest e may top =>
      have idle : a.times (.started tag ticket) = 0 := may.elim id (ran.prompt tag ticket)
      have alone := offered_alone balanced ran top idle
      exact Shared.refuse (a := a.back rest) ⟨shared.flight, shared.share⟩ alone
  | accept top =>
      exact Shared.tell (shared.next rfl (by simp [Mark.ofWork]) rfl rfl)
        (by simp [Slot.Notice.marks])
  | @take tag ticket purpose rest prompt top =>
      have alone := offered_alone balanced ran top (ran.prompt tag ticket prompt)
      exact (shared.take alone).tell (by simp [Slot.Notice.marks])
  | pump next => exact shared.pump next
  | conclude next ends => exact ends.shared (shared.conclude next)
  | place top places => exact places.shared ⟨shared.flight, shared.share⟩
  | release top =>
      exact shared.next rfl (by simp [Slot.Notice.marks, Mark.ofWork]) rfl rfl
  | handOver top waiting enters => exact enters.shared ⟨shared.flight, shared.share⟩
  | @rest tag purpose rest top free =>
      exact shared.next rfl (by cases purpose <;> simp [Purpose.marks, Mark.ofWork]) rfl rfl
  | @answer tag purpose queued rest top =>
      exact shared.next rfl (by cases purpose <;> simp [Purpose.marks, Mark.ofWork]) rfl rfl
  | number => exact ⟨shared.flight, shared.share⟩

theorem mem_outstanding {hand : List Submission} (balanced : a.Balanced hand) {t : Ticket} :
    t ∈ a.outstanding tag ↔ a.times (.rejected tag t) < a.times (.offered tag t) ∧
      a.times (.concluded tag t) = 0 := by
  have course := balanced.course tag t
  have offers := balanced.offers tag t
  have carried := Balanced.offering_le_carrying (a := a) tag t
  rw [outstanding, Finset.mem_filter, Finset.mem_range]
  constructor
  · rintro ⟨-, taken, unended⟩
    exact ⟨by omega, unended⟩
  · rintro ⟨taken, unended⟩
    refine ⟨?_, by omega, unended⟩
    by_contra late
    have fresh := balanced.fresh tag t (Nat.le_of_not_lt late)
    omega

/-- Tasks are called for outstanding works. -/
theorem calling_subset {hand : List Submission} (balanced : a.Balanced hand) (shared : a.Shared)
    (tag : Tag) : a.calling tag ⊆ a.outstanding tag := by
  intro t called
  rw [calling, Finset.mem_filter] at called
  rw [mem_outstanding balanced]
  have share := shared.share tag t
  omega

/-- Marks of the same offers, refusals and ends are marks of the same outstanding works. -/
theorem outstanding_eq {hand hand' : List Submission} (balanced : a.Balanced hand)
    (balanced' : a'.Balanced hand') (same : ∀ m, m.ofHolding = true → a'.times m = a.times m) :
    a'.outstanding tag = a.outstanding tag := by
  ext t
  rw [mem_outstanding balanced, mem_outstanding balanced', same _ rfl, same _ rfl, same _ rfl]

theorem outstanding_ask {slot : Slot} (balanced : a.Balanced [(tag, ticket)])
    (balanced' : (a.ask tag purpose slot ticket).Balanced []) (shared : a.Shared) (own : Tag) :
    (a.ask tag purpose slot ticket).outstanding own =
      if own = tag then insert ticket (a.outstanding tag) else a.outstanding own := by
  have unoffered := balanced.offered_in_hand
  have share := shared.share tag ticket
  have flight := shared.flight tag ticket
  ext t
  split
  · rename_i here
    subst here
    rw [mem_outstanding balanced', Finset.mem_insert, mem_outstanding balanced]
    simp only [times_ask, List.count_cons, List.count_nil]
    grind
  · rw [mem_outstanding balanced', mem_outstanding balanced]
    simp only [times_ask, List.count_cons, List.count_nil]
    grind

/-- A work that is refused or has ended is no longer outstanding. -/
theorem outstanding_erase {hand hand' : List Submission} (balanced : a.Balanced hand)
    (balanced' : a'.Balanced hand') {m : Mark} {marks : List Mark}
    (ended : m = .rejected tag ticket ∨ m = .concluded tag ticket)
    (more : a'.marks = a.marks ++ m :: marks) (quiet : ∀ m ∈ marks, m.ofHolding = false)
    (own : Tag) :
    a'.outstanding own =
      if own = tag then (a.outstanding tag).erase ticket else a.outstanding own := by
  have once := balanced.offered_le_one tag ticket
  have absent (m : Mark) (work : m.ofHolding = true) : marks.count m = 0 :=
    List.count_eq_zero_of_not_mem fun mem => by simp [quiet m mem] at work
  ext t
  rw [mem_outstanding balanced']
  simp only [times_more more, List.count_cons, absent (.offered own t) rfl,
    absent (.rejected own t) rfl, absent (.concluded own t) rfl]
  by_cases here : own = tag
  · subst here
    rw [if_pos rfl, Finset.mem_erase, mem_outstanding balanced]
    grind
  · rw [if_neg here, mem_outstanding balanced]
    grind

end Admission
end Turnstile
