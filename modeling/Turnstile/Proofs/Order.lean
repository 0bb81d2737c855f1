import Turnstile.Proofs.Courses
import Turnstile.Proofs.Handover

/-!
The order in which the runner is asked to take the submissions of a tag. It is the order in which
they were made, except where one is made while another waits although there is room: the new one
overtakes it. There is such room only until a step that is told of an end takes up what waits.
-/
namespace Turnstile

/-- The submission of the tag that is offered with this mark. -/
def Mark.offer? (tag : Tag) : Mark → Option Ticket
  | .offered own ticket => if own = tag then some ticket else none
  | _ => none

/-- Orderly surroundings that let nothing but these submissions of the tag be overtaken. -/
def Conduct.overtaking (tag : Tag) (overtaken : Set Ticket) : Conduct
  | a, d => orderly a d ∧ (d = .submit tag →
      ∀ t, (a.slot tag).pending = some t → ¬a.Full tag → t ∈ overtaken)

/-- A runner outside takes all that it is offered and starts it later, once; slots are told of ends
by works only. -/
def Conduct.obliging : Conduct
  | _, .submit _ => True
  | _, .complete _ | _, .overwrite .. | _, .refuse .. => False
  | a, .start tag ticket =>
    0 < a.times (.accepted tag ticket) ∧ a.times (.started tag ticket) = 0

instance : ∀ a d, Decidable (Conduct.obliging a d)
  | _, .submit _ => .isTrue trivial
  | _, .complete _ | _, .overwrite .. | _, .refuse .. => .isFalse id
  | a, .start tag ticket =>
    inferInstanceAs (Decidable (0 < a.times (.accepted tag ticket) ∧
      a.times (.started tag ticket) = 0))

namespace Admission
variable {c : Conduct} {a a' b : Admission} {tag own : Tag} {ticket : Ticket} {purpose : Purpose}
  {overtaken : Set Ticket}

/-- The submissions of the tag in the order in which they were offered to the runner. -/
def offers (a : Admission) (tag : Tag) : List Ticket := a.marks.filterMap (Mark.offer? tag)

theorem mem_offers {t : Ticket} : t ∈ a.offers tag ↔ .offered tag t ∈ a.marks := by
  refine List.mem_filterMap.trans ⟨?_, fun mem => ⟨_, mem, if_pos rfl⟩⟩
  rintro ⟨m, mem, offered⟩
  unfold Mark.offer? at offered
  split at offered
  · split at offered
    · rename_i here
      cases offered
      exact here ▸ mem
    · cases offered
  · cases offered

theorem offers_more {marks : List Mark} (more : a'.marks = a.marks ++ marks)
    (quiet : ∀ t, .offered tag t ∉ marks) : a'.offers tag = a.offers tag := by
  have silent : marks.filterMap (Mark.offer? tag) = [] := by
    apply List.filterMap_eq_nil_iff.2
    intro m mem
    unfold Mark.offer?
    split
    · rename_i own t
      exact if_neg fun here : own = tag => quiet t (here ▸ mem)
    · rfl
  rw [offers, more, List.filterMap_append, silent, List.append_nil, offers]

theorem offers_ask {slot : Slot} :
    (a.ask own purpose slot ticket).offers tag =
      if own = tag then a.offers tag ++ [ticket] else a.offers tag := by
  rw [offers, ask_marks, List.filterMap_append]
  split
  · rename_i here
    simp [Mark.offer?, here, offers]
  · rename_i elsewhere
    simp [Mark.offer?, elsewhere, offers]

/-- Setting a slot without making anything wait there. -/
theorem pending_setSlot {slot : Slot}
    (kept : ∀ t, slot.pending = some t → (a.slot own).pending = some t) (t : Ticket)
    (waiting : ((a.setSlot own slot).slot tag).pending = some t) :
    (a.slot tag).pending = some t := by
  rw [slot_setSlot] at waiting
  split at waiting
  · rename_i here
    exact here ▸ kept t waiting
  · exact waiting

/-- Nothing later than this submission has been offered, unless it may be overtaken. -/
def Next (overtaken : Set Ticket) (a : Admission) (tag : Tag) (ticket : Ticket) : Prop :=
  ∀ t ∈ a.offers tag, t < ticket ∨ ticket ∈ overtaken

/-- What was offered after a later submission was overtaken, and so far nothing that waits. -/
structure Ordered (overtaken : Set Ticket) (a : Admission) (tag : Tag) : Prop where
  offers : (a.offers tag).Pairwise fun first second => first < second ∨ second ∈ overtaken
  waiting : ∀ t, (a.slot tag).pending = some t → a.Next overtaken tag t

namespace Ordered

theorem at_start (overtaken : Set Ticket) (limit : Nat) (logger : Option Logging.Threshold)
    (tag : Tag) : (initial limit logger).Ordered overtaken tag where
  offers := List.Pairwise.nil
  waiting _ waiting := by simp [initial, slot, Limiter.slot, Limiter.slot?] at waiting

/-- No new offer, and nothing that waits but what has waited. -/
theorem next {marks : List Mark} (h : a.Ordered overtaken tag) (more : b.marks = a.marks ++ marks)
    (quiet : ∀ t, .offered tag t ∉ marks)
    (waits : ∀ t, (b.slot tag).pending = some t → (a.slot tag).pending = some t) :
    b.Ordered overtaken tag := by
  have same := offers_more more quiet
  refine ⟨same ▸ h.offers, fun t waiting => ?_⟩
  rw [Next, same]
  exact h.waiting t (waits t waiting)

theorem waits (h : a.Ordered overtaken tag) (here : own = tag) (t : Ticket)
    (waiting : (a.slot own).pending = some t) : a.Next overtaken tag t := by
  subst here
  exact h.waiting t waiting

/-- Telling of a slot whose waiting task is the same, or this one. -/
theorem tell {slot : Slot} {notice : Slot.Notice} {resume : Slot.Resume}
    (h : a.Ordered overtaken tag)
    (waits : own = tag → ∀ t, slot.pending = some t → a.Next overtaken tag t) :
    (a.tell own purpose slot notice resume).Ordered overtaken tag := by
  have quiet (t : Ticket) : .offered tag t ∉ notice.marks own := by
    cases notice with
    | queued ticket replaced => cases replaced <;> simp [Slot.Notice.marks]
    | dispatched | finished | rejected | anomaly => simp [Slot.Notice.marks]
  have same : (a.tell own purpose slot notice resume).offers tag = a.offers tag :=
    offers_more rfl quiet
  refine ⟨same ▸ h.offers, fun t waiting => ?_⟩
  rw [Next, same]
  rw [slot_tell] at waiting
  split at waiting
  · rename_i here
    exact waits here.symm t waiting
  · exact h.waiting t waiting

/-- A submission is offered: those offered before it come before it, and what waits is overtaken. -/
theorem ask {slot : Slot} (h : a.Ordered overtaken tag)
    (fits : own = tag → a.Next overtaken tag ticket)
    (waits : own = tag → ∀ t, slot.pending = some t → t ∈ overtaken) :
    (a.ask own purpose slot ticket).Ordered overtaken tag := by
  by_cases here : own = tag
  · subst here
    refine ⟨?_, ?_⟩
    · rw [offers_ask, if_pos rfl, List.pairwise_append]
      refine ⟨h.offers, List.pairwise_singleton .., fun t mem u new => ?_⟩
      rw [List.mem_singleton.1 new]
      exact fits rfl t mem
    · intro t waiting
      rw [slot_ask, if_pos rfl] at waiting
      exact fun _ _ => .inr (waits rfl t waiting)
  · have same : (a.ask own purpose slot ticket).offers tag = a.offers tag := by
      rw [offers_ask, if_neg here]
    refine ⟨same ▸ h.offers, fun t waiting => ?_⟩
    rw [Next, same]
    rw [slot_ask, if_neg (Ne.symm here)] at waiting
    exact h.waiting t waiting

end Ordered

section Entry
variable (sorted : a.Ordered overtaken tag) (fits : own = tag → a.Next overtaken tag ticket)
  (clear : own = tag → ∀ t, (a.slot tag).pending = some t → ¬a.Full tag → t ∈ overtaken)
include sorted fits clear

theorem Places.ordered (h : Places own ticket purpose a a') : a'.Ordered overtaken tag := by
  cases h with
  | wait reached =>
      apply sorted.tell
      intro here t waiting
      cases waiting
      exact fits here
  | offer room =>
      apply sorted.ask fits
      intro here t waiting
      subst here
      exact clear rfl t waiting (ne_true_of_eq_false room)

theorem Enters.ordered (h : Enters own ticket purpose a a') : a'.Ordered overtaken tag := by
  cases h with
  | overflow exceeded => exact sorted.tell sorted.waits
  | place kept placed => exact placed.ordered sorted fits clear

end Entry

theorem Ends.ordered (h : Ends own purpose a a') (ordered : a.Ordered overtaken tag) :
    a'.Ordered overtaken tag := by
  cases h with
  | underflow idle => exact ordered.tell ordered.waits
  | finish busy => exact ordered.tell ordered.waits

/-- What was offered has a smaller number than the next submission. -/
theorem next_of_fresh (balanced : a.Balanced []) (overtaken : Set Ticket) (tag : Tag) :
    a.Next overtaken tag a.tickets := by
  intro t mem
  have offered : 0 < a.times (.offered tag t) := List.count_pos_iff.2 (mem_offers.1 mem)
  have course := balanced.course tag t
  have offers := balanced.offers tag t
  have carried := Balanced.offering_le_carrying (a := a) tag t
  refine .inl (Nat.lt_of_not_le fun late => ?_)
  have fresh := balanced.fresh tag t late
  omega

theorem Step.ordered {limit : Nat} (h : Step (.overtaking tag overtaken) a a')
    (ordered : a.Ordered overtaken tag) (balanced : a.Balanced []) (settling : a.Settling limit) :
    a'.Ordered overtaken tag := by
  cases h with
  | @submit own a' may enters =>
      have made : ({ a with tickets := a.tickets + 1 }.mark [.submitted own a.tickets]).Ordered
          overtaken tag := ordered.next rfl (by simp) fun _ => id
      refine enters.ordered made (fun _ => ?_) fun here => may.2 (here ▸ rfl)
      rw [Next, offers_more rfl (by simp)]
      exact next_of_fresh balanced overtaken tag
  | complete may ends => exact ends.ordered ordered
  | overwrite may => exact may.1.elim
  | start may outside => exact ordered.next rfl (by simp) fun _ => id
  | @refuse own ticket purpose rest e may top =>
      have left : (a.back rest).Ordered overtaken tag := ⟨ordered.offers, ordered.waiting⟩
      exact left.tell left.waits
  | @accept own ticket purpose rest top =>
      have taken : ((a.back rest).mark [.accepted own ticket]).Ordered overtaken tag :=
        ordered.next rfl (by simp) fun _ => id
      exact taken.tell taken.waits
  | @take own ticket purpose rest prompt top =>
      have taken : (({ a with backlog := (own, ticket) ::ₘ a.backlog }.back rest).mark
          [.accepted own ticket]).Ordered overtaken tag := ordered.next rfl (by simp) fun _ => id
      exact taken.tell taken.waits
  | pump next => exact ordered.next rfl (by simp) fun _ => id
  | conclude next ends => exact ends.ordered (ordered.next rfl (by simp) fun _ => id)
  | place top places =>
      exact absurd (settling.kept _ (top ▸ List.mem_cons_self ..)) (by simp [Pause.places])
  | @release own purpose rest top =>
      have freed : ((a.back rest).setSlot own { a.slot own with running := 1 }).Ordered
          overtaken tag :=
        ordered.next (List.append_nil _).symm (by simp) (pending_setSlot fun _ => id)
      exact freed.tell freed.waits
  | @handOver own ticket purpose rest a' top waiting enters =>
      have taken : ((a.back rest).setSlot own { a.slot own with pending := none }).Ordered
          overtaken tag :=
        ordered.next (List.append_nil _).symm (by simp) (pending_setSlot (by simp))
      refine enters.ordered taken (fun here => ordered.waits here ticket waiting)
        fun here t pending => ?_
      rw [slot_setSlot, if_pos here.symm] at pending
      cases pending
  | @rest own purpose rest top free =>
      exact ordered.next rfl (by cases purpose <;> simp [Purpose.marks])
        (pending_setSlot fun _ => id)
  | @answer own purpose queued rest top =>
      exact ordered.next rfl (by cases purpose <;> simp [Purpose.marks])
        (pending_setSlot fun _ => id)
  | number => exact ordered.next (List.append_nil _).symm (by simp) fun _ => id

/-- A submission that finds room is offered at once. -/
theorem Enters.offers {limit : Nat} (h : Enters tag ticket purpose a a')
    (settling : a.Settling limit) (room : ¬a.Full tag) :
    a'.offers tag = a.offers tag ++ [ticket] := by
  cases h with
  | overflow exceeded =>
      obtain ⟨k, counted, bounded, -⟩ := settling.within tag
      rw [settling.bound, counted, Limit.isExceeded_ofInt] at exceeded
      exact absurd bounded (Nat.not_le.2 exceeded)
  | place kept placed =>
      cases placed with
      | wait reached => exact absurd reached room
      | offer room => rw [offers_ask, if_pos rfl]

end Admission

namespace History
variable {s : System} {ms : List Move} {tag : Tag}
open Admission

/-- This submission waits although there is room: one that is made now overtakes it. -/
def Overtakable (h : History) (tag : Tag) (ticket : Ticket) : Prop :=
  (h.system.limiter.slot tag).pending = some ticket ∧
    h.system.limiter.limit.isReached (h.system.limiter.slot tag).running = false

/-- A submission that is made while another waits and could be overtaken is offered before it. -/
theorem not_sorted_of_overtaken {h : History} {limit : Nat} {ticket : Ticket}
    (balanced : h.admission.Balanced []) (settling : h.admission.Settling limit)
    (overtakable : h.Overtakable tag ticket) {last : History}
    (run : (h.play (.submit tag)).marks <+: last.marks) (offered : .offered tag ticket ∈ last.marks) :
    ¬(last.admission.offers tag).Pairwise (· < ·) := by
  intro sorted
  obtain ⟨waiting, room⟩ := overtakable
  obtain ⟨below, unoffered⟩ := balanced.waiting waiting
  obtain ⟨a, enters, steps⟩ := System.submit_enters (c := fun _ _ => True) h.system h.marks tag
  have made : ({ h.admission with tickets := h.system.tickets + 1 }.mark
      [.submitted tag h.system.tickets]).Settling limit :=
    settling.next rfl (fun _ => rfl) rfl rfl (by simp)
  have first := enters.offers made (ne_true_of_eq_false room)
  have early : ticket ∉ ({ h.admission with tickets := h.system.tickets + 1 }.mark
      [.submitted tag h.system.tickets]).offers tag := by
    rw [mem_offers]
    simpa using unoffered
  have played : ((h.system.submit tag).admission h.marks).marks = (h.play (.submit tag)).marks :=
    congrArg Admission.marks (admission_play h (.submit tag)).symm
  have grown : a.marks <+: last.admission.marks := (played ▸ steps.marks).trans run
  obtain ⟨later, all⟩ : a.offers tag <+: last.admission.offers tag := grown.filterMap _
  rw [← all, first, List.append_assoc, List.pairwise_append] at sorted
  have mem : ticket ∈ last.admission.offers tag := mem_offers.2 offered
  rw [← all, first, List.append_assoc, List.mem_append, List.singleton_append, List.mem_cons] at mem
  rcases mem with old | rfl | new
  · exact early old
  · exact Nat.lt_irrefl _ below
  · have above := List.rel_of_pairwise_cons sorted.2.1 new
    exact Nat.lt_asymm below above

/-- Where nothing that waits with room is offered after a submission, the order is kept. -/
theorem sorted_of_not_overtaken (begins : s.Begins) (kept : Conduct.orderly.Keeps ⟨s, []⟩ ms)
    (clear : ∀ before after ticket, ms = before ++ .submit tag :: after →
      ((⟨s, []⟩ : History).plays before).Overtakable tag ticket →
        .offered tag ticket ∉ ((⟨s, []⟩ : History).plays ms).admission.marks) :
    (((⟨s, []⟩ : History).plays ms).admission.offers tag).Pairwise (· < ·) := by
  obtain ⟨limit, logger, start⟩ := begins.admission
  let overtaken : Set Ticket := {t | ∃ before after, ms = before ++ .submit tag :: after ∧
    ((⟨s, []⟩ : History).plays before).Overtakable tag t}
  have kept' : (Conduct.overtaking tag overtaken).Keeps ⟨s, []⟩ ms := by
    apply Conduct.keeps_iff.2
    intro before m after split d deed
    refine ⟨Conduct.keeps_iff.1 kept before m after split d deed, fun same t waiting room => ?_⟩
    obtain rfl := System.eq_submit_of_deed? (same ▸ deed)
    exact ⟨before, after, split, waiting, eq_false_of_ne_true room⟩
  have all := plays_induction
    (P := fun a => a.Ordered overtaken tag ∧ a.Balanced [] ∧ a.Settling limit)
    (fun _ _ held step => ⟨step.ordered held.1 held.2.1 held.2.2, step.balanced held.2.1,
      (step.mono fun _ _ => And.left).settling held.2.2⟩) kept'
    (start ▸ ⟨.at_start overtaken limit logger tag, .at_start limit logger,
      .at_start limit logger⟩)
  refine all.1.offers.imp_of_mem fun _ mem before => before.resolve_right ?_
  rintro ⟨first, rest, split, overtakable⟩
  exact clear first rest _ split overtakable (mem_offers.1 mem)

/-- There is room beside a waiting task only while a step of the tag that was told of an end has
yet to take up what waits. -/
theorem handingOver_of_overtakable (begins : s.Begins)
    (kept : Conduct.orderly.Keeps ⟨s, []⟩ ms) {ticket : Ticket}
    (overtakable : ((⟨s, []⟩ : History).plays ms).Overtakable tag ticket) :
    ((⟨s, []⟩ : History).plays ms).admission.HandingOver tag := by
  obtain ⟨limit, logger, start⟩ := begins.admission
  have settling := settling start kept
  have waits : (((⟨s, []⟩ : History).plays ms).admission.slot tag).pending ≠ none := by
    rw [show (((⟨s, []⟩ : History).plays ms).admission.slot tag).pending = some ticket from
      overtakable.1]
    exact Option.some_ne_none ticket
  exact (settling.full tag waits).resolve_left (ne_true_of_eq_false overtakable.2)

/-- Submissions that are made while no step of their slot is open are offered in their order. -/
theorem offered_in_order (begins : s.Begins) (kept : Conduct.orderly.Keeps ⟨s, []⟩ ms)
    (outside : ∀ before after, ms = before ++ .submit tag :: after →
      ((⟨s, []⟩ : History).plays before).admission.Closed tag) :
    (((⟨s, []⟩ : History).plays ms).admission.offers tag).Pairwise (· < ·) := by
  apply sorted_of_not_overtaken begins kept
  intro before after ticket split overtakable
  obtain ⟨p, mem, hands⟩ :=
    handingOver_of_overtakable begins (split ▸ kept).of_append overtakable
  exact absurd (Pause.tag_of_handsOver hands) (outside before after split p mem)

/-- The submissions of a tag are offered in the order in which they were made if and only if none
that waits while another is made, although there is room, is offered later. Only a step of the tag
that was told of an end leaves such room. -/
theorem offered_in_order_iff (begins : s.Begins) (kept : Conduct.orderly.Keeps ⟨s, []⟩ ms)
    (tag : Tag) :
    let h := (⟨s, []⟩ : History).plays ms
    ((h.admission.offers tag).Pairwise (· < ·) ↔
      ∀ before after ticket, ms = before ++ .submit tag :: after →
        ((⟨s, []⟩ : History).plays before).Overtakable tag ticket →
          .offered tag ticket ∉ h.admission.marks) ∧
    ∀ ticket, h.Overtakable tag ticket → h.admission.HandingOver tag := by
  intro h
  obtain ⟨limit, logger, start⟩ := begins.admission
  refine ⟨⟨fun sorted before after ticket split overtakable offered => ?_,
    sorted_of_not_overtaken begins kept⟩, fun _ => handingOver_of_overtakable begins kept⟩
  have kept' : Conduct.orderly.Keeps ⟨s, []⟩ before := (split ▸ kept).of_append
  refine not_sorted_of_overtaken (balanced begins before) (settling start kept') overtakable ?_
    offered sorted
  obtain ⟨later, more⟩ := marks_plays (((⟨s, []⟩ : History).plays before).play (.submit tag)) after
  rw [← plays_cons, ← plays_append, ← split] at more
  exact ⟨later, more.symm⟩

/-- While one task waits and listeners hear that the running one has ended, one of them submits. -/
def overtakingRun : List Move :=
  [.submit "t", .reply .accept, .reply (.heard none), .submit "t", .reply (.heard none),
    .start (.limited "t" 0), .reply (.task (.threw (.value .undefined))),
    .submit "t", .reply .accept, .reply (.heard none), .reply (.heard none), .reply (.heard none),
    .start (.limited "t" 2), .reply (.task (.threw (.value .undefined))), .reply (.heard none),
    .reply .accept, .reply (.heard none)]

theorem waiting_task_is_overtaken :
    ¬∀ before after ticket, overtakingRun = before ++ .submit "t" :: after →
      ((⟨.oneAtATime, []⟩ : History).plays before).Overtakable "t" ticket →
        .offered "t" ticket ∉
          ((⟨.oneAtATime, []⟩ : History).plays overtakingRun).admission.marks := by
  have kept : Conduct.orderly.Keeps ⟨.oneAtATime, []⟩ overtakingRun := by decide +kernel
  rw [← (offered_in_order_iff System.oneAtATime_begins kept "t").1]
  have offers : ((⟨.oneAtATime, []⟩ : History).plays overtakingRun).admission.offers "t" =
      [0, 2, 1] := by decide +kernel
  rw [offers]
  decide

/-- Even an obliging runner is asked to take submissions of a tag out of their order. -/
theorem not_always_offered_in_order :
    ¬∀ s ms tag, s.Begins → Conduct.obliging.Keeps ⟨s, []⟩ ms →
      (((⟨s, []⟩ : History).plays ms).admission.offers tag).Pairwise (· < ·) := by
  intro all
  have sorted := all .oneAtATime overtakingRun "t" System.oneAtATime_begins (by decide +kernel)
  have offers : ((⟨.oneAtATime, []⟩ : History).plays overtakingRun).admission.offers "t" =
      [0, 2, 1] := by decide +kernel
  rw [offers] at sorted
  revert sorted
  decide

end History
end Turnstile
