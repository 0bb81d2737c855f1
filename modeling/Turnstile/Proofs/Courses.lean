import Turnstile.Proofs.Reactions

/-!
The course of each submission: it is offered, waits, is dropped or is in hand, and no two of these
at a time. `Balanced` counts the marks of each submission against where it is now; every step keeps
the balance, whatever the surroundings do.
-/
namespace Turnstile

/-- Marks of what becomes of a submission before it runs. -/
def Mark.ofCourse : Mark → Bool
  | .submitted .. | .dropped .. | .offered .. | .accepted .. | .rejected .. => true
  | _ => false

namespace Admission
variable {c : Conduct} {a a' : Admission}

theorem times_more {marks : List Mark} (more : a'.marks = a.marks ++ marks) (m : Mark) :
    a'.times m = a.times m + marks.count m := by
  rw [times, more, List.count_append, times]

/-- Marks of no kind that `p` knows leave the counts of those it knows as they are. -/
theorem times_of_quiet {p : Mark → Bool} {marks : List Mark} (more : a'.marks = a.marks ++ marks)
    (quiet : ∀ m ∈ marks, p m = false) {m : Mark} (known : p m = true) :
    a'.times m = a.times m := by
  have absent : m ∉ marks := fun mem => by simp [quiet m mem] at known
  rw [times_more more, List.count_eq_zero_of_not_mem absent, Nat.add_zero]

/-- One if the submission is the waiting task of its tag. -/
def waits (a : Admission) (tag : Tag) (ticket : Ticket) : Nat :=
  if (a.slot tag).pending = some ticket then 1 else 0

/-- How many steps offer the submission to the runner. -/
def offering (a : Admission) (tag : Tag) (ticket : Ticket) : Nat :=
  a.pauses.countP (Pause.offers tag ticket)

/-- How many steps have the submission in hand. -/
def carrying (a : Admission) (tag : Tag) (ticket : Ticket) : Nat :=
  a.pauses.countP (Pause.carries tag ticket)

section Changes
variable (tag own : Tag) (t ticket : Ticket) (purpose : Purpose) (slot : Slot)
  (notice : Slot.Notice) (resume : Slot.Resume) (m : Mark) (rest : List Pause) (marks : List Mark)

@[simp] theorem times_tell :
    (a.tell tag purpose slot notice resume).times m = a.times m + (notice.marks tag).count m :=
  List.count_append

@[simp] theorem times_ask :
    (a.ask tag purpose slot ticket).times m = a.times m + [Mark.offered tag ticket].count m :=
  List.count_append

@[simp] theorem times_mark : (a.mark marks).times m = a.times m + marks.count m :=
  List.count_append

@[simp] theorem times_setSlot : (a.setSlot tag slot).times m = a.times m := rfl

@[simp] theorem times_back : (a.back rest).times m = a.times m := rfl

theorem waits_tell :
    (a.tell tag purpose slot notice resume).waits own t =
      if own = tag then (if slot.pending = some t then 1 else 0) else a.waits own t := by
  simp only [waits, slot_tell]
  split <;> rfl

theorem waits_ask :
    (a.ask tag purpose slot ticket).waits own t =
      if own = tag then (if slot.pending = some t then 1 else 0) else a.waits own t := by
  simp only [waits, slot_ask]
  split <;> rfl

theorem waits_setSlot :
    (a.setSlot tag slot).waits own t =
      if own = tag then (if slot.pending = some t then 1 else 0) else a.waits own t := by
  simp only [waits, slot_setSlot]
  split <;> rfl

@[simp] theorem waits_mark : (a.mark marks).waits own t = a.waits own t := rfl

@[simp] theorem waits_back : (a.back rest).waits own t = a.waits own t := rfl

@[simp] theorem offering_tell :
    (a.tell tag purpose slot notice resume).offering own t = a.offering own t := by
  simp [offering, Pause.offers]

theorem offering_ask :
    (a.ask tag purpose slot ticket).offering own t =
      a.offering own t + if tag = own ∧ ticket = t then 1 else 0 := by
  simp only [offering, ask_pauses, List.countP_cons, Pause.offers, Bool.and_eq_true, beq_iff_eq]

@[simp] theorem offering_mark : (a.mark marks).offering own t = a.offering own t := rfl

theorem carrying_tell :
    (a.tell tag purpose slot notice resume).carrying own t =
      a.carrying own t + if Pause.carries own t ⟨tag, purpose, .heard resume⟩ then 1 else 0 := by
  simp [carrying, List.countP_cons]

theorem carrying_ask :
    (a.ask tag purpose slot ticket).carrying own t =
      a.carrying own t + if tag = own ∧ ticket = t then 1 else 0 := by
  simp only [carrying, ask_pauses, List.countP_cons, Pause.carries, Bool.and_eq_true, beq_iff_eq]

@[simp] theorem carrying_mark : (a.mark marks).carrying own t = a.carrying own t := rfl

@[simp] theorem carrying_setSlot : (a.setSlot tag slot).carrying own t = a.carrying own t := rfl

end Changes

/-- The step that stopped last is taken off: what it offered is no longer offered, and what it had
in hand is no longer carried. -/
theorem offering_back {p : Pause} {rest : List Pause} (top : a.pauses = p :: rest) (own : Tag)
    (t : Ticket) :
    a.offering own t = (a.back rest).offering own t + if p.offers own t then 1 else 0 := by
  simp [offering, top, List.countP_cons]

theorem carrying_back {p : Pause} {rest : List Pause} (top : a.pauses = p :: rest) (own : Tag)
    (t : Ticket) :
    a.carrying own t = (a.back rest).carrying own t + if p.carries own t then 1 else 0 := by
  simp [carrying, top, List.countP_cons]

/-- The marks of each submission add up with where it is, with those in `hand` on the way. -/
structure Balanced (a : Admission) (hand : List Submission) : Prop where
  course : ∀ tag t, a.times (.submitted tag t) =
    a.times (.accepted tag t) + a.times (.rejected tag t) + a.times (.dropped tag t) +
      a.waits tag t + a.carrying tag t + hand.count (tag, t)
  offers : ∀ tag t, a.times (.offered tag t) =
    a.times (.accepted tag t) + a.times (.rejected tag t) + a.offering tag t
  fresh : ∀ tag t, a.tickets ≤ t → a.times (.submitted tag t) = 0
  once : ∀ tag t, a.times (.submitted tag t) ≤ 1

/-- No submission is anywhere else than before. -/
structure Alike (a a' : Admission) : Prop where
  times : ∀ m, m.ofCourse = true → a'.times m = a.times m
  waits : ∀ tag t, a'.waits tag t = a.waits tag t
  offering : ∀ tag t, a'.offering tag t = a.offering tag t
  carrying : ∀ tag t, a'.carrying tag t = a.carrying tag t
  tickets : a.tickets ≤ a'.tickets

theorem Alike.balanced {hand : List Submission} (h : Alike a a') (balanced : a.Balanced hand) :
    a'.Balanced hand := by
  refine ⟨?_, ?_, ?_, ?_⟩
  · intro tag t
    rw [h.times _ rfl, h.times _ rfl, h.times _ rfl, h.times _ rfl, h.waits, h.carrying]
    exact balanced.course tag t
  · intro tag t
    rw [h.times _ rfl, h.times _ rfl, h.times _ rfl, h.offering]
    exact balanced.offers tag t
  · intro tag t fresh
    rw [h.times _ rfl]
    exact balanced.fresh tag t (h.tickets.trans fresh)
  · intro tag t
    rw [h.times _ rfl]
    exact balanced.once tag t

/-- Works in the backlog or in flight make no difference, nor do tickets. -/
theorem alike_of_eq (limiter : a'.limiter = a.limiter) (marks : a'.marks = a.marks)
    (pauses : a'.pauses = a.pauses) (tickets : a.tickets ≤ a'.tickets) : Alike a a' where
  times _ _ := by rw [times, times, marks]
  waits _ _ := by rw [waits, waits, slot, slot, limiter]
  offering _ _ := by rw [offering, offering, pauses]
  carrying _ _ := by rw [carrying, carrying, pauses]
  tickets := tickets

theorem alike_setSlot {tag : Tag} {slot : Slot} (pending : slot.pending = (a.slot tag).pending) :
    Alike a (a.setSlot tag slot) where
  times _ _ := rfl
  waits own t := by
    rw [waits_setSlot, pending]
    split
    · rename_i here
      rw [here, waits]
    · rfl
  offering _ _ := rfl
  carrying _ _ := rfl
  tickets := Nat.le_refl _

theorem alike_mark {marks : List Mark} (quiet : ∀ m ∈ marks, m.ofCourse = false) :
    Alike a (a.mark marks) where
  times _ course := times_of_quiet rfl quiet course
  waits _ _ := rfl
  offering _ _ := rfl
  carrying _ _ := rfl
  tickets := Nat.le_refl _

theorem Alike.trans {b : Admission} (h : Alike a b) (h' : Alike b a') : Alike a a' where
  times m course := (h'.times m course).trans (h.times m course)
  waits tag t := (h'.waits tag t).trans (h.waits tag t)
  offering tag t := (h'.offering tag t).trans (h.offering tag t)
  carrying tag t := (h'.carrying tag t).trans (h.carrying tag t)
  tickets := h.tickets.trans h'.tickets

/-- Telling of something is making its marks, if nothing is left in hand by it. -/
theorem alike_tell {tag : Tag} {purpose : Purpose} {slot : Slot} {notice : Slot.Notice}
    {resume : Slot.Resume} (pending : slot.pending = (a.slot tag).pending)
    (empty : Pause.carriesAny ⟨tag, purpose, .heard resume⟩ = false) :
    Alike (a.mark (notice.marks tag)) (a.tell tag purpose slot notice resume) where
  times _ _ := rfl
  waits own t := (alike_setSlot pending).waits own t
  offering own t := by rw [offering_tell, offering_mark]
  carrying own t := by
    rw [carrying_tell, carrying_mark, if_neg, Nat.add_zero]
    cases resume <;> simp_all [Pause.carries, Pause.carriesAny]
  tickets := Nat.le_refl _

/-- Leaving a step that has nothing in hand. -/
theorem alike_back {p : Pause} {rest : List Pause} (top : a.pauses = p :: rest)
    (empty : p.carriesAny = false) : Alike a (a.back rest) where
  times _ _ := rfl
  waits _ _ := rfl
  offering own t := by
    rw [offering_back top, if_neg, Nat.add_zero]
    obtain ⟨_, _, _ | _⟩ := p <;> simp_all [Pause.offers, Pause.carriesAny]
  carrying own t := by
    rw [carrying_back top, if_neg, Nat.add_zero]
    obtain ⟨_, _, ⟨_ | _⟩ | _⟩ := p <;> simp_all [Pause.carries, Pause.carriesAny]
  tickets := Nat.le_refl _

theorem Places.balanced {tag : Tag} {ticket : Ticket} {purpose : Purpose}
    (h : Places tag ticket purpose a a') (balanced : a.Balanced [(tag, ticket)]) :
    a'.Balanced [] := by
  cases h with
  | wait reached =>
      refine ⟨?_, ?_, ?_, ?_⟩
      · intro own t
        have course := balanced.course own t
        cases hp : (a.slot tag).pending <;>
          simp only [times_tell, waits_tell, carrying_tell, Pause.carries, Slot.Notice.marks,
            List.count_cons, List.count_nil] <;>
          simp only [waits, List.count_cons, List.count_nil] at course ⊢ <;> grind
      · intro own t
        have offers := balanced.offers own t
        cases hp : (a.slot tag).pending <;> simpa [Slot.Notice.marks] using offers
      · intro own t
        have fresh := balanced.fresh own t
        cases hp : (a.slot tag).pending <;> simpa [Slot.Notice.marks] using fresh
      · intro own t
        have once := balanced.once own t
        cases hp : (a.slot tag).pending <;> simpa [Slot.Notice.marks] using once
  | offer room =>
      refine ⟨?_, ?_, ?_, ?_⟩
      · intro own t
        have course := balanced.course own t
        simp only [times_ask, waits_ask, carrying_ask, List.count_cons, List.count_nil]
        simp only [waits, List.count_cons, List.count_nil] at course ⊢
        grind
      · intro own t
        have offers := balanced.offers own t
        simp only [times_ask, offering_ask, List.count_cons, List.count_nil]
        grind
      · intro own t
        simpa using balanced.fresh own t
      · intro own t
        simpa using balanced.once own t

theorem Enters.balanced {tag : Tag} {ticket : Ticket} {purpose : Purpose}
    (h : Enters tag ticket purpose a a') (balanced : a.Balanced [(tag, ticket)]) :
    a'.Balanced [] := by
  cases h with
  | overflow exceeded =>
      refine ⟨?_, ?_, ?_, ?_⟩
      · intro own t
        have course := balanced.course own t
        simp only [times_tell, waits_tell, carrying_tell, Pause.carries, Slot.Notice.marks,
          List.count_cons, List.count_nil]
        simp only [waits, List.count_cons, List.count_nil] at course ⊢
        grind
      · intro own t
        simpa [Slot.Notice.marks] using balanced.offers own t
      · intro own t
        simpa [Slot.Notice.marks] using balanced.fresh own t
      · intro own t
        simpa [Slot.Notice.marks] using balanced.once own t
  | place kept placed => exact placed.balanced balanced

theorem alike_finish (tag : Tag) (purpose : Purpose) : Alike a (a.finish tag purpose) :=
  (alike_mark (by simp [Slot.Notice.marks, Mark.ofCourse])).trans (alike_tell rfl rfl)

theorem Ends.alike {tag : Tag} {purpose : Purpose} (h : Ends tag purpose a a') : Alike a a' := by
  cases h with
  | underflow idle =>
      exact (alike_mark (by simp [Slot.Notice.marks, Mark.ofCourse])).trans (alike_tell rfl rfl)
  | finish busy => exact alike_finish tag purpose

namespace Balanced
variable {tag : Tag} {ticket : Ticket} {purpose : Purpose} {rest : List Pause}

/-- A new submission is in hand. -/
theorem submitted (balanced : a.Balanced []) :
    ({ a with tickets := a.tickets + 1 }.mark [.submitted tag a.tickets]).Balanced
      [(tag, a.tickets)] := by
  refine ⟨?_, ?_, ?_, ?_⟩
  · intro own t
    have course := balanced.course own t
    simp only [times_mark, waits_mark, carrying_mark, List.count_cons, List.count_nil] at course ⊢
    simp only [times, waits, carrying, slot] at course ⊢
    grind
  · intro own t
    have offers := balanced.offers own t
    simpa [times, offering] using offers
  · intro own t fresh
    have before := balanced.fresh own t ((Nat.le_succ _).trans fresh)
    rw [mark_tickets] at fresh
    simp only [times_mark, List.count_cons, List.count_nil]
    simp only [times] at before ⊢
    grind
  · intro own t
    have once := balanced.once own t
    have before := balanced.fresh own t
    simp only [times_mark, List.count_cons, List.count_nil]
    simp only [times] at before once ⊢
    grind

/-- The waiting submission is taken in hand. -/
theorem taken (balanced : a.Balanced []) (waiting : (a.slot tag).pending = some ticket) :
    (a.setSlot tag { a.slot tag with pending := none }).Balanced [(tag, ticket)] := by
  refine ⟨fun own t => ?_, balanced.offers, balanced.fresh, balanced.once⟩
  have course := balanced.course own t
  simp only [times_setSlot, waits_setSlot, carrying_setSlot, List.count_cons, List.count_nil]
  simp only [waits, List.count_nil] at course ⊢
  grind

/-- A submission to be placed is in hand once its step goes on. -/
theorem resumed (balanced : a.Balanced [])
    (top : a.pauses = ⟨tag, purpose, .heard (.place ticket)⟩ :: rest) :
    (a.back rest).Balanced [(tag, ticket)] := by
  refine ⟨?_, ?_, balanced.fresh, balanced.once⟩
  · intro own t
    have course := balanced.course own t
    rw [carrying_back top] at course
    simp only [times_back, waits_back, Pause.carries, List.count_cons, List.count_nil] at course ⊢
    grind
  · intro own t
    have offers := balanced.offers own t
    rw [offering_back top] at offers
    simpa [Pause.offers] using offers

/-- The runner has answered. -/
theorem answered (balanced : a.Balanced [])
    (top : a.pauses = ⟨tag, purpose, .offer ticket⟩ :: rest) {m : Mark}
    (answer : m = .accepted tag ticket ∨ m = .rejected tag ticket) :
    ((a.back rest).mark [m]).Balanced [] := by
  refine ⟨?_, ?_, ?_, ?_⟩
  · intro own t
    have course := balanced.course own t
    rw [carrying_back top] at course
    simp only [times_mark, times_back, waits_mark, waits_back, carrying_mark, Pause.carries,
      List.count_cons, List.count_nil] at course ⊢
    grind
  · intro own t
    have offers := balanced.offers own t
    rw [offering_back top] at offers
    simp only [times_mark, times_back, offering_mark, Pause.offers, List.count_cons,
      List.count_nil] at offers ⊢
    grind
  · intro own t fresh
    have before := balanced.fresh own t fresh
    rw [times_mark, times_back, List.count_cons, List.count_nil]
    grind
  · intro own t
    have once := balanced.once own t
    rw [times_mark, times_back, List.count_cons, List.count_nil]
    grind

end Balanced

theorem Step.balanced (h : Step c a a') (balanced : a.Balanced []) : a'.Balanced [] := by
  have quiet (b : Admission) (marks : List Mark) (silent : ∀ m ∈ marks, m.ofCourse = false)
      (same : Alike a b) : (b.mark marks).Balanced [] :=
    (same.trans (alike_mark silent)).balanced balanced
  cases h with
  | submit may enters => exact enters.balanced balanced.submitted
  | complete may ends => exact ends.alike.balanced balanced
  | @overwrite tag running may =>
      have same : Alike a (a.setSlot tag { a.slot tag with running }) := alike_setSlot rfl
      exact same.balanced balanced
  | start may outside =>
      exact quiet _ _ (by simp [Mark.ofCourse]) (alike_of_eq rfl rfl rfl (Nat.le_refl _))
  | @refuse tag ticket purpose rest e may top =>
      have step := balanced.answered top (.inr (rfl : Mark.rejected tag ticket = _))
      exact Alike.balanced (alike_tell (by rfl) rfl) step
  | @accept tag ticket purpose rest top =>
      have step := balanced.answered top (.inl (rfl : Mark.accepted tag ticket = _))
      exact Alike.balanced ((alike_mark (by simp [Slot.Notice.marks])).trans
        (alike_tell (by rfl) rfl)) step
  | @take tag ticket purpose rest prompt top =>
      have step := balanced.answered top (.inl (rfl : Mark.accepted tag ticket = _))
      have same : Alike ((a.back rest).mark [.accepted tag ticket])
          (({ a with backlog := (tag, ticket) ::ₘ a.backlog }.back rest).mark
            [.accepted tag ticket]) := alike_of_eq rfl rfl rfl (Nat.le_refl _)
      exact Alike.balanced ((same.trans (alike_mark (by simp [Slot.Notice.marks]))).trans
        (alike_tell (by rfl) rfl)) step
  | pump next =>
      exact quiet _ _ (by simp [Mark.ofCourse]) (alike_of_eq rfl rfl rfl (Nat.le_refl _))
  | conclude next ends =>
      exact ends.alike.balanced
        (quiet _ _ (by simp [Mark.ofCourse]) (alike_of_eq rfl rfl rfl (Nat.le_refl _)))
  | place top places =>
      exact places.balanced (Alike.balanced (alike_setSlot (by rfl)) (balanced.resumed top))
  | release top =>
      exact (((alike_back top rfl).trans (alike_setSlot (by rfl))).trans
        (alike_finish _ _)).balanced balanced
  | handOver top waiting enters =>
      exact enters.balanced (((alike_back top rfl).balanced balanced).taken waiting)
  | @rest tag purpose rest top free =>
      refine ((alike_back top rfl).trans (Alike.trans ?_ (alike_setSlot (by rfl)))).balanced balanced
      exact alike_mark (by cases purpose <;> simp [Purpose.marks, Mark.ofCourse])
  | @answer tag purpose queued rest top =>
      refine ((alike_back top rfl).trans (Alike.trans ?_ (alike_setSlot (by rfl)))).balanced balanced
      exact alike_mark (by cases purpose <;> simp [Purpose.marks, Mark.ofCourse])
  | number =>
      have same : Alike a { a with tickets := a.tickets + 1 } :=
        alike_of_eq rfl rfl rfl (Nat.le_succ _)
      exact same.balanced balanced

namespace Balanced

theorem at_start (limit : Nat) (logger : Option Logging.Threshold) :
    (initial limit logger).Balanced [] where
  course _ _ := by
    simp [initial, times, waits, carrying, slot, Limiter.slot, Limiter.slot?]
  offers _ _ := by simp [initial, times, offering]
  fresh _ _ _ := by simp [initial, times]
  once _ _ := by simp [initial, times]

theorem offering_le_carrying (tag : Tag) (t : Ticket) : a.offering tag t ≤ a.carrying tag t := by
  apply List.countP_mono_left
  intro p _ offers
  obtain ⟨_, _, ⟨_ | _⟩ | _⟩ := p <;> simp_all [Pause.offers, Pause.carries]

/-- A submission is offered at most once. -/
theorem offered_le_one {hand : List Submission} (balanced : a.Balanced hand) (tag : Tag)
    (t : Ticket) : a.times (.offered tag t) ≤ 1 := by
  have course := balanced.course tag t
  have offers := balanced.offers tag t
  have once := balanced.once tag t
  have carried := offering_le_carrying (a := a) tag t
  omega

/-- What is in hand has not been offered. -/
theorem offered_in_hand {tag : Tag} {ticket : Ticket} (balanced : a.Balanced [(tag, ticket)]) :
    a.times (.offered tag ticket) = 0 := by
  have course := balanced.course tag ticket
  have offers := balanced.offers tag ticket
  have once := balanced.once tag ticket
  have carried := offering_le_carrying (a := a) tag ticket
  rw [List.count_singleton_self] at course
  omega

/-- What waits has a number that was taken, and has not been offered. -/
theorem waiting {tag : Tag} {t : Ticket} (balanced : a.Balanced [])
    (waiting : (a.slot tag).pending = some t) : t < a.tickets ∧ .offered tag t ∉ a.marks := by
  have course := balanced.course tag t
  have offers := balanced.offers tag t
  have once := balanced.once tag t
  have carried := offering_le_carrying (a := a) tag t
  rw [waits, if_pos waiting] at course
  refine ⟨Nat.lt_of_not_le fun late => ?_, List.count_eq_zero.1 ?_⟩
  · have fresh := balanced.fresh tag t late
    omega
  · change a.times (.offered tag t) = 0
    omega

end Balanced
end Admission

theorem History.balanced {s : System} (begins : s.Begins) (ms : List Move) :
    ((⟨s, []⟩ : History).plays ms).admission.Balanced [] := by
  obtain ⟨limit, logger, hs⟩ := begins.admission
  exact plays_induction (c := fun _ _ => True) (fun _ _ held step => step.balanced held)
    (Conduct.keeps_of_forall fun _ _ => trivial) (hs ▸ Admission.Balanced.at_start limit logger)

end Turnstile
