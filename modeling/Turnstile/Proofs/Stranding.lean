import Turnstile.Proofs.Courses
import Turnstile.Proofs.Handover

/-!
What is counted as running is out with the runner: a slot counts no more tasks than there are works of
its tag that were offered and have neither been refused nor ended since. So where a task waits and
one may run at all, some work is out, and an end hands the task over.
-/
namespace Turnstile

/-- Marks that a work goes out or comes back with. -/
def Mark.ofHolding : Mark → Bool
  | .offered .. | .rejected .. | .concluded .. => true
  | _ => false

/-- The works of a tag that are out once a mark was made. -/
def Mark.turn (tag : Tag) (works : Finset Ticket) : Mark → Finset Ticket
  | .offered own t => if own = tag then insert t works else works
  | .rejected own t | .concluded own t => if own = tag then works.erase t else works
  | _ => works

namespace Mark
variable {tag : Tag} {t : Ticket} {m : Mark} {marks : List Mark} {works : Finset Ticket}

theorem turn_of_quiet (quiet : m.ofHolding = false) : m.turn tag works = works := by
  cases m with
  | offered | rejected | concluded => cases quiet
  | _ => rfl

theorem foldl_turn_of_quiet (quiet : ∀ m ∈ marks, m.ofHolding = false) :
    marks.foldl (turn tag) works = works := by
  induction marks with
  | nil => rfl
  | cons m rest ih =>
      rw [List.foldl_cons, turn_of_quiet (quiet m List.mem_cons_self)]
      exact ih fun m' mem => quiet m' (List.mem_cons_of_mem _ mem)

theorem foldl_turn_filter :
    (marks.filter ofHolding).foldl (turn tag) works = marks.foldl (turn tag) works := by
  induction marks generalizing works with
  | nil => rfl
  | cons m rest ih =>
      cases held : m.ofHolding with
      | true => rw [List.filter_cons_of_pos held, List.foldl_cons, List.foldl_cons, ih]
      | false =>
          rw [List.filter_cons_of_neg (by simp [held]), List.foldl_cons, turn_of_quiet held, ih]

/-- What is out was so before, or is offered with the mark. -/
theorem mem_turn (mem : t ∈ m.turn tag works) :
    t ∈ works ∧ m ≠ .rejected tag t ∧ m ≠ .concluded tag t ∨ m = .offered tag t := by
  cases m with
  | offered own own' =>
      rw [turn] at mem
      grind
  | rejected own own' | concluded own own' =>
      rw [turn] at mem
      grind
  | _ => exact .inl ⟨mem, nofun, nofun⟩

theorem offered_of_mem_foldl_turn (mem : t ∈ marks.foldl (turn tag) ∅) : .offered tag t ∈ marks := by
  induction marks using List.reverseRecOn with
  | nil => exact absurd mem (Finset.notMem_empty t)
  | append_singleton rest m ih =>
      rw [List.foldl_append] at mem
      obtain ⟨before, -⟩ | rfl := mem_turn mem
      · exact List.mem_append_left _ (ih before)
      · exact List.mem_append_right _ (List.mem_singleton_self _)

/-- A mark brings back no more than one work. -/
theorem card_le_turn (kept : ∀ t, m ≠ .offered tag t) :
    works.card ≤ (m.turn tag works).card + 1 := by
  have erased (t : Ticket) : works.card ≤ (works.erase t).card + 1 := by
    have := Finset.pred_card_le_card_erase (s := works) (a := t)
    omega
  cases m with
  | offered own t =>
      rw [turn]
      split
      · rename_i here
        exact absurd (here ▸ rfl) (kept t)
      · exact Nat.le_succ _
  | rejected own t | concluded own t =>
      rw [turn]
      split
      · exact erased t
      · exact Nat.le_succ _
  | _ => exact Nat.le_succ _

end Mark

namespace Admission
variable {a a' : Admission} {limit : Nat} {tag : Tag} {ticket : Ticket} {purpose : Purpose}

/-- Setting a slot without changing its count. -/
theorem running_setSlot {slot : Slot} (same : slot.running = (a.slot tag).running) (own : Tag) :
    ((a.setSlot tag slot).slot own).running = (a.slot own).running := by
  rw [slot_setSlot]
  split
  · rename_i here
    rw [same, here]
  · rfl

theorem running_tell {slot : Slot} {notice : Slot.Notice} {resume : Slot.Resume}
    (same : slot.running = (a.slot tag).running) (own : Tag) :
    ((a.tell tag purpose slot notice resume).slot own).running = (a.slot own).running :=
  running_setSlot same own

/-- Works of the tag that were offered, and have neither been refused nor ended since. -/
def out (a : Admission) (tag : Tag) : Finset Ticket := a.marks.foldl (Mark.turn tag) ∅

theorem out_more {m : Mark} {marks : List Mark} (more : a'.marks = a.marks ++ m :: marks)
    (quiet : ∀ m ∈ marks, m.ofHolding = false) : a'.out tag = m.turn tag (a.out tag) := by
  rw [out, more, List.foldl_append, List.foldl_cons, Mark.foldl_turn_of_quiet quiet, out]

/-- No more is counted for a tag than works of it are out. -/
def Backed (a : Admission) : Prop :=
  ∀ tag (k : Nat), (a.slot tag).running = .ofInt k → k ≤ (a.out tag).card

namespace Backed

theorem at_start (limit : Nat) (logger : Option Logging.Threshold) :
    (initial limit logger).Backed := by
  intro tag k counted
  have none : Number.ofInt (0 : Nat) = .ofInt k := counted
  simp only [Number.ofInt_inj, Nat.cast_inj] at none
  exact none ▸ Nat.zero_le _

/-- The counts stay, and the marks say of the same works that they are out. -/
theorem next {marks : List Mark} (backed : a.Backed) (more : a'.marks = a.marks ++ marks)
    (quiet : ∀ m ∈ marks, m.ofHolding = false)
    (slots : ∀ own, (a'.slot own).running = (a.slot own).running) : a'.Backed := by
  intro own k counted
  rw [out, more, List.foldl_append, Mark.foldl_turn_of_quiet quiet]
  exact backed own k (slots own ▸ counted)

/-- One more work is out: it is being offered. -/
theorem ask (backed : a.Backed) (within : Within limit (a.slot tag).running)
    (balanced : a.Balanced [(tag, ticket)]) :
    (a.ask tag purpose { a.slot tag with running := (a.slot tag).running.plus 1 }
      ticket).Backed := by
  have fresh : ticket ∉ a.out tag := fun mem =>
    List.count_eq_zero.1 balanced.offered_in_hand (Mark.offered_of_mem_foldl_turn mem)
  have more : (a.ask tag purpose { a.slot tag with running := (a.slot tag).running.plus 1 }
      ticket).marks = a.marks ++ [.offered tag ticket] := rfl
  intro own k counted
  rw [out_more more (by simp), Mark.turn]
  rw [slot_ask] at counted
  by_cases here : own = tag
  · obtain ⟨n, before, -, exactly⟩ := within
    have bound := backed tag n before
    rw [if_pos here, before, Number.ofInt_plus_one exactly, Number.ofInt_inj, Nat.cast_inj]
      at counted
    rw [if_pos here.symm, here, Finset.card_insert_of_notMem fresh, ← counted]
    exact (Nat.min_le_left _ _).trans (Nat.succ_le_succ bound)
  · rw [if_neg here] at counted
    rw [if_neg (Ne.symm here)]
    exact backed own k counted

/-- The count of one tag falls, and no more than one work of it comes back. -/
theorem less {m : Mark} {marks : List Mark} (backed : a.Backed)
    (within : Within limit (a.slot tag).running) (more : a'.marks = a.marks ++ m :: marks)
    (quiet : ∀ m ∈ marks, m.ofHolding = false) (kept : ∀ t, m ≠ .offered tag t)
    (others : ∀ own, own ≠ tag → m.turn own (a.out own) = a.out own)
    (slots : ∀ own, own ≠ tag → (a'.slot own).running = (a.slot own).running)
    (slot : (a'.slot tag).running = (a.slot tag).running.plus (-1) ∨
      (a'.slot tag).running = .ofInt 0) : a'.Backed := by
  intro own k counted
  rw [out_more more quiet]
  by_cases here : own = tag
  · subst here
    obtain ⟨n, before, -, exactly⟩ := within
    have bound := backed own n before
    have fewer : (a.out own).card ≤ (m.turn own (a.out own)).card + 1 := Mark.card_le_turn kept
    rcases slot with one | none
    · have positive : 0 < Number.lastCount := by decide
      rw [one, before, Number.ofInt_plus (by omega), Number.ofInt_inj] at counted
      omega
    · rw [none, Number.ofInt_inj] at counted
      omega
  · rw [others own here]
    exact backed own k (slots own here ▸ counted)

end Backed

section Entry
variable (held : a.Backed) (within : Within limit (a.slot tag).running)
  (balanced : a.Balanced [(tag, ticket)])
include held within balanced

theorem Places.backed (h : Places tag ticket purpose a a') : a'.Backed := by
  cases h with
  | wait reached =>
      refine held.next rfl ?_ fun own => running_tell (by rfl) own
      cases (a.slot tag).pending <;> simp [Slot.Notice.marks, Mark.ofHolding]
  | offer room => exact held.ask within balanced

theorem Enters.backed (h : Enters tag ticket purpose a a') : a'.Backed := by
  cases h with
  | overflow exceeded =>
      exact held.next rfl (by simp [Slot.Notice.marks, Mark.ofHolding])
        fun own => running_tell (by rfl) own
  | place kept placed => exact placed.backed held within balanced

end Entry

/-- An end lowers the count, if it is not down already. -/
theorem Ends.running (h : Ends tag purpose a a') (within : Within limit (a.slot tag).running) :
    ((a'.slot tag).running = (a.slot tag).running.plus (-1) ∨ (a'.slot tag).running = .ofInt 0) ∧
      ∀ own, own ≠ tag → a'.slot own = a.slot own := by
  cases h with
  | underflow idle =>
      obtain ⟨n, counted, -, -⟩ := within
      rw [counted, Number.ofInt_le_zero] at idle
      refine ⟨.inr ?_, fun own other => by rw [slot_tell, if_neg other]⟩
      rw [slot_tell, if_pos rfl, counted, idle]
      rfl
  | finish busy =>
      refine ⟨.inl ?_, fun own other => by rw [Admission.finish, slot_tell, if_neg other]⟩
      rw [Admission.finish, slot_tell, if_pos rfl]

theorem Ends.marks_eq (h : Ends tag purpose a a') :
    ∃ m, a'.marks = a.marks ++ [m] ∧ m.ofHolding = false := by
  cases h with
  | underflow idle => exact ⟨_, rfl, rfl⟩
  | finish busy => exact ⟨_, rfl, rfl⟩

theorem Step.backed (h : Step .orderly a a') (backed : a.Backed) (settling : a.Settling limit)
    (balanced : a.Balanced []) : a'.Backed := by
  cases h with
  | @submit tag a' may enters =>
      have made : ({ a with tickets := a.tickets + 1 }.mark [.submitted tag a.tickets]).Backed :=
        backed.next rfl (by simp [Mark.ofHolding]) fun _ => rfl
      exact enters.backed made (settling.within tag) balanced.submitted
  | @complete tag a' may ends =>
      obtain ⟨slot, slots⟩ := ends.running (settling.within tag)
      obtain ⟨m, more, quiet⟩ := ends.marks_eq
      refine backed.less (settling.within tag) more (by simp) (fun t here => ?_)
        (fun own _ => Mark.turn_of_quiet quiet) (fun own other => by rw [slots own other]) slot
      rw [here] at quiet
      cases quiet
  | overwrite may => exact may.elim
  | start may outside => exact backed.next rfl (by simp [Mark.ofHolding]) fun _ => rfl
  | @refuse tag ticket purpose rest e may top =>
      refine backed.less (settling.within tag) rfl (by simp) (by simp) (fun own other => ?_)
        (fun own other => ?_) (.inl ?_)
      · rw [Mark.turn, if_neg (Ne.symm other)]
      · rw [slot_tell, if_neg other, slot_back]
      · rw [slot_tell, if_pos rfl]
  | accept top | take prompt top =>
      exact backed.next (List.append_assoc ..) (by simp [Slot.Notice.marks, Mark.ofHolding])
        fun own => running_tell (by rfl) own
  | pump next => exact backed.next rfl (by simp [Mark.ofHolding]) fun _ => rfl
  | @conclude tag ticket starter outcome inCall inFlight a' next ends =>
      obtain ⟨slot, slots⟩ := ends.running (settling.within tag)
      obtain ⟨m, more, quiet⟩ := ends.marks_eq
      have more' : a'.marks = a.marks ++ .concluded tag ticket :: [m] := by
        rw [more]
        exact List.append_assoc ..
      refine backed.less (settling.within tag) more' (by simpa using quiet) (by simp)
        (fun own other => ?_) (fun own other => by rw [slots own other]; rfl) slot
      rw [Mark.turn, if_neg (Ne.symm other)]
  | place top places =>
      exact absurd (settling.kept _ (top ▸ List.mem_cons_self ..)) (by simp [Pause.places])
  | @release tag purpose rest top =>
      have none : (1 : Number).plus (-1) = .ofInt (0 : Nat) :=
        Number.ofInt_plus_neg_one (k := 1) (by decide) Nat.one_pos
      refine backed.less (settling.within tag) rfl (by simp) (by simp)
        (fun own _ => Mark.turn_of_quiet rfl) (fun own other => ?_) (.inr ?_)
      · rw [Admission.finish, slot_tell, if_neg other, slot_setSlot, if_neg other, slot_back]
      · rw [Admission.finish, slot_tell, if_pos rfl, slot_setSlot, if_pos rfl, none]
        rfl
  | @handOver tag ticket purpose rest a' top waiting enters =>
      have left := (alike_back top rfl).balanced balanced
      have taken : ((a.back rest).setSlot tag { a.slot tag with pending := none }).Backed :=
        backed.next (List.append_nil _).symm (by simp) fun own => running_setSlot (by rfl) own
      have within : Within limit
          (((a.back rest).setSlot tag { a.slot tag with pending := none }).slot tag).running := by
        rw [slot_setSlot, if_pos rfl]
        exact settling.within tag
      exact enters.backed taken within (left.taken waiting)
  | @rest tag purpose rest top free =>
      exact backed.next rfl (by cases purpose <;> simp [Purpose.marks, Mark.ofHolding])
        fun own => running_setSlot (by rfl) own
  | @answer tag purpose queued rest top =>
      exact backed.next rfl (by cases purpose <;> simp [Purpose.marks, Mark.ofHolding])
        fun own => running_setSlot (by rfl) own
  | number => exact backed.next (List.append_nil _).symm (by simp) fun _ => rfl

theorem Places.holding (h : Places tag ticket purpose a a') :
    ∃ marks, a'.marks = a.marks ++ marks ∧ marks.countP Mark.ofHolding ≤ 1 := by
  cases h with
  | wait reached =>
      refine ⟨_, rfl, ?_⟩
      cases (a.slot tag).pending <;> simp [Slot.Notice.marks, Mark.ofHolding]
  | offer room => exact ⟨_, rfl, List.countP_le_length⟩

theorem Enters.holding (h : Enters tag ticket purpose a a') :
    ∃ marks, a'.marks = a.marks ++ marks ∧ marks.countP Mark.ofHolding ≤ 1 := by
  cases h with
  | overflow exceeded => exact ⟨_, rfl, by simp [Slot.Notice.marks, Mark.ofHolding]⟩
  | place kept placed => exact placed.holding

/-- No step says of more than one work that it goes out or comes back. -/
theorem Step.holding {c : Conduct} (h : Step c a a') :
    ∃ marks, a'.marks = a.marks ++ marks ∧ marks.countP Mark.ofHolding ≤ 1 := by
  cases h with
  | submit may enters =>
      obtain ⟨marks, more, one⟩ := enters.holding
      refine ⟨_, more.trans (List.append_assoc ..), ?_⟩
      simpa [Mark.ofHolding] using one
  | complete may ends =>
      obtain ⟨m, more, quiet⟩ := ends.marks_eq
      exact ⟨_, more, by simp [quiet]⟩
  | conclude next ends =>
      obtain ⟨m, more, quiet⟩ := ends.marks_eq
      have none : [m].countP Mark.ofHolding = 0 := by simp [quiet]
      refine ⟨_, more.trans (List.append_assoc ..), ?_⟩
      rw [List.countP_append, none]
      exact List.countP_le_length
  | place top places => exact places.holding
  | handOver top waiting enters => exact enters.holding
  | overwrite | number => exact ⟨[], (List.append_nil _).symm, Nat.zero_le _⟩
  | accept top | take prompt top =>
      exact ⟨_, List.append_assoc .., by simp [Slot.Notice.marks, Mark.ofHolding]⟩
  | start | refuse | pump | release => exact ⟨_, rfl, List.countP_le_length⟩
  | @rest tag purpose | @answer tag purpose =>
      exact ⟨_, rfl, by cases purpose <;> simp [Purpose.marks, Mark.ofHolding]⟩

/-- No work is out of which this was said, that it was refused or that it has ended. -/
def Unsaid (f : Tag → Ticket → Mark) (a : Admission) : Prop :=
  ∀ tag, ∀ t ∈ a.out tag, a.times (f tag t) = 0

/-- If it is not said of what was not offered, it is not said of what is out: each submission is
offered once only. -/
theorem Step.unsaid {c : Conduct} {f : Tag → Ticket → Mark} (h : Step c a a')
    (kind : f = .rejected ∨ f = .concluded) (balanced : a.Balanced [])
    (fresh : ∀ tag t, a.times (.offered tag t) = 0 → a.times (f tag t) = 0) (held : a.Unsaid f) :
    a'.Unsaid f := by
  intro tag t mem
  obtain ⟨marks, more, one⟩ := h.holding
  have once := (h.balanced balanced).offered_le_one tag t
  have said (m : Mark) (work : m.ofHolding = true) :
      a'.times m = a.times m + (marks.filter Mark.ofHolding).count m := by
    rw [times_more more, List.count_filter work]
  have work : (f tag t).ofHolding = true := by rcases kind with rfl | rfl <;> rfl
  rw [out, more, List.foldl_append, ← Mark.foldl_turn_filter, ← out] at mem
  rw [said _ rfl] at once
  rw [said _ work]
  rw [List.countP_eq_length_filter] at one
  generalize marks.filter Mark.ofHolding = told at *
  obtain - | ⟨m, - | ⟨m', rest⟩⟩ := told
  · exact held tag t mem
  · obtain ⟨before, unrefused, unended⟩ | rfl := Mark.mem_turn mem
    · have other : m ≠ f tag t := by rcases kind with rfl | rfl <;> assumption
      simp [held tag t before, other]
    · -- It is offered with this mark, so it was not before.
      have unoffered : a.times (.offered tag t) = 0 := by
        rw [List.count_singleton_self] at once
        omega
      rcases kind with rfl | rfl <;> simp [fresh tag t unoffered]
  · simp at one

/-- While no step of the slot is open, what is out was accepted. -/
theorem accepted_of_out {t : Ticket} (balanced : a.Balanced []) (unrefused : a.Unsaid .rejected)
    (closed : a.Closed tag) (mem : t ∈ a.out tag) : .accepted tag t ∈ a.marks := by
  have offered : 0 < a.times (.offered tag t) :=
    List.count_pos_iff.2 (Mark.offered_of_mem_foldl_turn mem)
  have offers := balanced.offers tag t
  have unrefused := unrefused tag t mem
  have alone : a.offering tag t = 0 := by
    refine List.countP_eq_zero.2 fun p mem offers => closed p mem ?_
    obtain ⟨own, _, ⟨_⟩ | _⟩ := p <;> simp_all [Pause.offers]
  apply List.count_pos_iff.1
  change 0 < a.times (.accepted tag t)
  omega

/-- Everything that is kept of counts and of the works that are out. -/
structure Stocked (limit : Nat) (a : Admission) : Prop where
  settling : a.Settling limit
  backed : a.Backed
  unrefused : a.Unsaid .rejected
  balanced : a.Balanced []

theorem Stocked.at_start (limit : Nat) (logger : Option Logging.Threshold) :
    (initial limit logger).Stocked limit where
  settling := .at_start limit logger
  backed := .at_start limit logger
  unrefused _ t mem := absurd mem (Finset.notMem_empty t)
  balanced := .at_start limit logger

theorem Step.stocked (h : Step .orderly a a') (held : a.Stocked limit) : a'.Stocked limit where
  settling := h.settling held.settling
  backed := h.backed held.backed held.settling held.balanced
  unrefused := by
    refine h.unsaid (.inl rfl) held.balanced (fun tag t unoffered => ?_) held.unrefused
    have offers := held.balanced.offers tag t
    omega
  balanced := h.balanced held.balanced

end Admission

namespace History
open Admission

/-- While no step of its tag's slot is open, no more is counted than works of the tag are out, each of
them accepted. A task waits only where the count is the limit, so some work is out then, if any may
run at all; and the end of a work hands the task over. -/
theorem no_task_is_stranded {s : System} (begins : s.Begins) {ms : List Move}
    (kept : Conduct.orderly.Keeps ⟨s, []⟩ ms) :
    let h := (⟨s, []⟩ : History).plays ms
    ∃ limit : Nat, s.limiter.limit = some (.ofInt limit) ∧
      ∀ tag, h.admission.Closed tag →
        (∀ t ∈ h.admission.out tag, .accepted tag t ∈ h.marks) ∧
        ∃ k : Nat, (h.system.limiter.slot tag).running = .ofInt k ∧ k ≤ limit ∧
          k ≤ (h.admission.out tag).card ∧
          ∀ ticket, (h.system.limiter.slot tag).pending = some ticket →
            k = limit ∧ (0 < limit → (h.admission.out tag).Nonempty ∧
              ∀ m, h.system.Ends tag m → ∀ thrown,
                .offered tag ticket ∈ ((h.play m).play (.reply (.heard thrown))).marks) := by
  intro h
  obtain ⟨limit, logger, start⟩ := begins.admission
  have balanced : h.admission.Balanced [] := History.balanced begins ms
  obtain ⟨settling, backed, unrefused, -⟩ : h.admission.Stocked limit :=
    plays_induction (fun _ _ held step => step.stocked held) kept (start ▸ .at_start limit logger)
  have bound : s.limiter.limit = some (.ofInt limit) :=
    congrArg (fun a : Admission => a.limiter.limit) start
  refine ⟨limit, bound, fun tag closed =>
    ⟨fun t mem => accepted_of_out balanced unrefused closed mem, ?_⟩⟩
  obtain ⟨k, counted, bounded, exactly⟩ := settling.within tag
  have works := backed tag k counted
  refine ⟨k, counted, bounded, works, fun ticket waiting => ?_⟩
  have waits : (h.admission.slot tag).pending = some ticket := waiting
  have full : h.admission.Full tag := by
    apply (settling.full tag (waits ▸ Option.some_ne_none ticket)).resolve_right
    rintro ⟨p, mem, hands⟩
    exact closed p mem (Pause.tag_of_handsOver hands)
  rw [Full, settling.bound, counted, Limit.isReached_ofInt] at full
  subst full
  refine ⟨rfl, fun positive => ⟨Finset.card_pos.1 (positive.trans_le works),
    fun m ends thrown => ?_⟩⟩
  obtain ⟨s', purpose, notes, react, same⟩ := ends.complete (slot?_isSome waiting)
  have offered : .offered (.limited tag ticket) ∈
      ((s'.complete tag purpose).system.reply (.heard thrown)).notes := by
    refine System.complete_offers ?_ ?_ positive exactly ?_ purpose thrown <;> rw [same]
    · exact settling.bound
    · exact counted
    · exact waiting
  have noted : .offered (.limited tag ticket) ∈
      ((h.play m).play (.reply (.heard thrown))).notes := by
    apply List.mem_append_right _
    rwa [play, react]
  exact List.mem_flatMap.2 ⟨_, noted, List.mem_singleton_self _⟩

/-- One task was accepted and another one waits. -/
def oneWaits : List Move :=
  [.submit "t", .reply .accept, .reply (.heard none), .submit "t", .reply (.heard none)]

theorem waiting_task_is_handed_over :
    let h := (⟨.oneAtATime, []⟩ : History).plays oneWaits
    (h.system.limiter.slot "t").pending = some 1 ∧
      (∃ t ∈ h.admission.out "t", .accepted "t" t ∈ h.marks) ∧
      .offered "t" 1 ∈ ((h.play (.complete "t")).play (.reply (.heard none))).marks := by
  intro h
  have waiting : (h.system.limiter.slot "t").pending = some 1 := by decide +kernel
  have closed : h.admission.pauses = [] := by decide +kernel
  have kept : Conduct.orderly.Keeps ⟨.oneAtATime, []⟩ oneWaits := by decide +kernel
  obtain ⟨limit, bound, each⟩ := no_task_is_stranded System.oneAtATime_begins kept
  obtain rfl : limit = 1 := by
    have same : Number.ofInt (1 : Nat) = .ofInt limit := Option.some.inj bound
    simpa using same.symm
  obtain ⟨accepted, k, -, -, -, handed⟩ := each "t" fun p mem => by
    rw [closed] at mem
    cases mem
  obtain ⟨-, handed⟩ := handed 1 waiting
  obtain ⟨⟨t, out⟩, offered⟩ := handed Nat.one_pos
  exact ⟨waiting, ⟨t, out, accepted t out⟩, offered (.complete "t") rfl none⟩

end History
end Turnstile
