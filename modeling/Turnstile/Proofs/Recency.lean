import Turnstile.Proofs.Courses
import Turnstile.Proofs.Handover

/-!
The most recent submission wins. A submission is dropped only by a later one to the same tag, which
waits in its place from then on; a waiting task that was taken up and has to wait again replaces
nothing. Slots may be told of ends that never were, and a runner outside may do as it likes, but
counts are not overwritten.
-/
namespace Turnstile

/-- Counts are left alone. -/
def Conduct.fair : Conduct
  | _, .overwrite .. => False
  | _, _ => True

instance : ∀ a d, Decidable (Conduct.fair a d)
  | _, .overwrite .. => .isFalse id
  | _, .submit _ | _, .complete _ | _, .start .. | _, .refuse .. => .isTrue trivial

/-- Marks that tell how old submissions are, or that one was dropped. -/
def Mark.ofAge : Mark → Bool
  | .submitted .. | .dropped .. => true
  | _ => false

/-- The submission to the tag that is made with this mark. -/
def Mark.made? (tag : Tag) : Mark → Option Ticket
  | .submitted own ticket => if own = tag then some ticket else none
  | _ => none

namespace Admission
variable {a a' b : Admission} {limit : Nat} {tag : Tag} {ticket : Ticket} {purpose : Purpose}
  {slot : Slot} {notice : Slot.Notice} {resume : Slot.Resume} {rest : List Pause}

/-- Counts are whole and no more than the limit, so none is found over it. They may be negative: a
runner outside may refuse what it has told the end of. -/
structure Bounded (limit : Nat) (a : Admission) : Prop where
  bound : a.limiter.limit = some (.ofInt limit)
  within : ∀ tag, (a.slot tag).running.Whole limit
  kept : ∀ p ∈ a.pauses, p.places = false

namespace Bounded

theorem at_start (limit : Nat) (logger : Option Logging.Threshold) :
    (initial limit logger).Bounded limit where
  bound := rfl
  within _ := ⟨0, rfl, Int.natCast_nonneg limit, Nat.zero_le _⟩
  kept _ mem := absurd mem List.not_mem_nil

/-- Works and marks make no difference. -/
theorem next (h : a.Bounded limit) (limiter : b.limiter = a.limiter) (pauses : b.pauses = a.pauses) :
    b.Bounded limit where
  bound := limiter ▸ h.bound
  within own := by
    rw [Admission.slot, limiter]
    exact h.within own
  kept p mem := h.kept p (pauses ▸ mem)

theorem setSlot (h : a.Bounded limit) (within : slot.running.Whole limit) :
    (a.setSlot tag slot).Bounded limit where
  bound := h.bound
  within own := by
    rw [slot_setSlot]
    split
    · exact within
    · exact h.within own
  kept := h.kept

theorem tell (h : a.Bounded limit) (within : slot.running.Whole limit)
    (kept : Pause.places ⟨tag, purpose, .heard resume⟩ = false) :
    (a.tell tag purpose slot notice resume).Bounded limit where
  bound := h.bound
  within := (h.setSlot within).within
  kept p mem := (List.mem_cons.1 mem).elim (fun new => new ▸ kept) (h.kept p)

theorem ask (h : a.Bounded limit) (within : slot.running.Whole limit) :
    (a.ask tag purpose slot ticket).Bounded limit where
  bound := h.bound
  within := (h.setSlot within).within
  kept p mem := (List.mem_cons.1 mem).elim (fun new => new ▸ rfl) (h.kept p)

theorem back {p : Pause} (h : a.Bounded limit) (top : a.pauses = p :: rest) :
    (a.back rest).Bounded limit where
  bound := h.bound
  within := h.within
  kept q mem := h.kept q (top ▸ List.mem_cons_of_mem p mem)

end Bounded

theorem not_exceeded (bounded : a.Bounded limit) (tag : Tag) :
    a.limiter.limit.isExceeded (a.slot tag).running = false := by
  rw [bounded.bound]
  exact Limit.isExceeded_of_whole (bounded.within tag)

theorem Places.bounded (h : Places tag ticket purpose a a') (bounded : a.Bounded limit) :
    a'.Bounded limit := by
  cases h with
  | wait reached => exact bounded.tell (bounded.within tag) rfl
  | offer room =>
      rw [bounded.bound] at room
      exact bounded.ask (Limit.whole_plus_one (bounded.within tag) room)

/-- What enters a slot is placed there: no count is found over the limit. -/
theorem Enters.places (h : Enters tag ticket purpose a a') (bounded : a.Bounded limit) :
    Places tag ticket purpose a a' := by
  cases h with
  | overflow exceeded => simp [not_exceeded bounded tag] at exceeded
  | place kept placed => exact placed

theorem Enters.bounded (h : Enters tag ticket purpose a a') (bounded : a.Bounded limit) :
    a'.Bounded limit :=
  (h.places bounded).bounded bounded

theorem bounded_finish (bounded : a.Bounded limit) : (a.finish tag purpose).Bounded limit :=
  bounded.tell (bounded.within tag).plus_neg_one rfl

theorem Ends.bounded (h : Ends tag purpose a a') (bounded : a.Bounded limit) :
    a'.Bounded limit := by
  cases h with
  | underflow idle => exact bounded.tell (bounded.within tag) rfl
  | finish busy => exact bounded_finish bounded

/-- One task that never ran is counted for a moment, so that it can be counted as ended. -/
theorem bounded_release (bounded : a.Bounded limit) :
    ((a.setSlot tag { a.slot tag with running := 1 }).finish tag purpose).Bounded limit := by
  have idle : ((1 : Number).plus (-1)).Whole limit :=
    ⟨0, Number.ofInt_plus (n := 1) (k := -1) (by decide), Int.natCast_nonneg limit, Nat.zero_le _⟩
  refine ⟨bounded.bound, fun own => ?_, ?_⟩
  · rw [finish, slot_tell, slot_setSlot, slot_setSlot, if_pos rfl]
    split
    · exact idle
    · exact bounded.within own
  · exact fun p mem => (List.mem_cons.1 mem).elim (fun new => new ▸ rfl) (bounded.kept p)

theorem Step.bounded (h : Step .fair a a') (bounded : a.Bounded limit) : a'.Bounded limit := by
  cases h with
  | submit may enters => exact enters.bounded (bounded.next rfl rfl)
  | complete may ends => exact ends.bounded bounded
  | overwrite may => exact may.elim
  | start may outside => exact bounded.next rfl rfl
  | @refuse tag ticket purpose rest e may top =>
      exact (bounded.back top).tell (bounded.within tag).plus_neg_one rfl
  | @accept tag ticket purpose rest top =>
      have taken : ((a.back rest).mark [.accepted tag ticket]).Bounded limit :=
        (bounded.back top).next rfl rfl
      exact taken.tell (bounded.within tag) rfl
  | @take tag ticket purpose rest prompt top =>
      have taken : (({ a with backlog := (tag, ticket) ::ₘ a.backlog }.back rest).mark
          [.accepted tag ticket]).Bounded limit := (bounded.back top).next rfl rfl
      exact taken.tell (bounded.within tag) rfl
  | pump next => exact bounded.next rfl rfl
  | conclude next ends => exact ends.bounded (bounded.next rfl rfl)
  | place top places =>
      exact absurd (bounded.kept _ (top ▸ List.mem_cons_self ..)) (by simp [Pause.places])
  | release top => exact bounded_release (bounded.back top)
  | @handOver tag ticket purpose rest a' top waiting enters =>
      exact enters.bounded ((bounded.back top).setSlot (bounded.within tag))
  | @rest tag purpose rest top free =>
      have left : ((a.back rest).mark (purpose.marks tag false)).Bounded limit :=
        (bounded.back top).next rfl rfl
      exact left.setSlot (bounded.within tag)
  | @answer tag purpose queued rest top =>
      have left : ((a.back rest).mark (purpose.marks tag queued)).Bounded limit :=
        (bounded.back top).next rfl rfl
      exact left.setSlot (bounded.within tag)
  | number => exact bounded.next rfl rfl

/-- The submissions to the tag in the order in which they were made. -/
def made (a : Admission) (tag : Tag) : List Ticket := a.marks.filterMap (Mark.made? tag)

theorem mem_made {t : Ticket} : t ∈ a.made tag ↔ .submitted tag t ∈ a.marks := by
  refine List.mem_filterMap.trans ⟨?_, fun mem => ⟨_, mem, if_pos rfl⟩⟩
  rintro ⟨m, mem, made⟩
  unfold Mark.made? at made
  split at made
  · split at made
    · rename_i here
      cases made
      exact here ▸ mem
    · cases made
  · cases made

theorem made_more {marks : List Mark} (more : a'.marks = a.marks ++ marks)
    (quiet : ∀ t, .submitted tag t ∉ marks) : a'.made tag = a.made tag := by
  have silent : marks.filterMap (Mark.made? tag) = [] := by
    apply List.filterMap_eq_nil_iff.2
    intro m mem
    unfold Mark.made?
    split
    · rename_i own t
      exact if_neg fun here : own = tag => quiet t (here ▸ mem)
    · rfl
  rw [made, more, List.filterMap_append, silent, List.append_nil, made]

/-- Submissions are numbered as they are made; a dropped one is older than another one to its tag,
and than the one that waits there. -/
structure Recent (a : Admission) : Prop where
  order : ∀ tag, (a.made tag).Pairwise (· < ·)
  beaten : ∀ tag t, .dropped tag t ∈ a.marks → ∃ later ∈ a.made tag, t < later
  older : ∀ tag t waiting, .dropped tag t ∈ a.marks → (a.slot tag).pending = some waiting →
    t < waiting

/-- The submission is newer than all that were dropped, and than the one that waits. -/
structure Newest (a : Admission) (tag : Tag) (ticket : Ticket) : Prop where
  made : ticket ∈ a.made tag
  dropped : ∀ t, .dropped tag t ∈ a.marks → t < ticket
  waiting : ∀ t, (a.slot tag).pending = some t → t < ticket

namespace Recent

theorem at_start (limit : Nat) (logger : Option Logging.Threshold) :
    (initial limit logger).Recent where
  order _ := List.Pairwise.nil
  beaten _ _ mem := absurd mem List.not_mem_nil
  older _ _ _ mem := absurd mem List.not_mem_nil

/-- Nothing is submitted or dropped, and nothing waits but what has waited. -/
theorem next {marks : List Mark} (h : a.Recent) (more : b.marks = a.marks ++ marks)
    (quiet : ∀ m ∈ marks, m.ofAge = false)
    (waits : ∀ tag t, (b.slot tag).pending = some t → (a.slot tag).pending = some t) :
    b.Recent := by
  have same (tag : Tag) : b.made tag = a.made tag :=
    made_more more fun t mem => by simpa [Mark.ofAge] using quiet _ mem
  have old {tag : Tag} {t : Ticket} (mem : .dropped tag t ∈ b.marks) : .dropped tag t ∈ a.marks := by
    rw [more, List.mem_append] at mem
    exact mem.resolve_right fun new => by simpa [Mark.ofAge] using quiet _ new
  refine ⟨fun tag => same tag ▸ h.order tag, fun tag t mem => ?_, fun tag t waiting mem pending => ?_⟩
  · rw [same]
    exact h.beaten tag t (old mem)
  · exact h.older tag t waiting (old mem) (waits tag waiting pending)

theorem tell (h : a.Recent) (pending : slot.pending = (a.slot tag).pending)
    (quiet : ∀ m ∈ notice.marks tag, m.ofAge = false) :
    (a.tell tag purpose slot notice resume).Recent := by
  refine h.next rfl quiet fun own t waiting => ?_
  rw [slot_tell] at waiting
  split at waiting
  · rename_i here
    rw [here, ← pending, waiting]
  · exact waiting

theorem setSlot (h : a.Recent)
    (kept : ∀ t, slot.pending = some t → (a.slot tag).pending = some t) :
    (a.setSlot tag slot).Recent := by
  refine h.next (List.append_nil _).symm (by simp) fun own t waiting => ?_
  rw [slot_setSlot] at waiting
  split at waiting
  · rename_i here
    exact here ▸ kept t waiting
  · exact waiting

/-- The newest submission waits in place of the one that waited before. -/
theorem queue (h : a.Recent) (newest : a.Newest tag ticket) (free : slot.pending = some ticket) :
    (a.tell tag purpose slot (.queued ticket (a.slot tag).pending) resume).Recent := by
  have dropped {own : Tag} {t : Ticket}
      (mem : .dropped own t ∈ (a.tell tag purpose slot (.queued ticket (a.slot tag).pending)
        resume).marks) : .dropped own t ∈ a.marks ∨ own = tag ∧ (a.slot tag).pending = some t := by
    cases hp : (a.slot tag).pending <;> simp [hp, Slot.Notice.marks] at mem ⊢
    · exact mem
    · exact mem.imp id (And.imp_right Eq.symm)
  have same (own : Tag) : (a.tell tag purpose slot (.queued ticket (a.slot tag).pending)
      resume).made own = a.made own := by
    refine made_more rfl fun t mem => ?_
    cases hp : (a.slot tag).pending <;> simp [hp, Slot.Notice.marks] at mem
  refine ⟨fun own => same own ▸ h.order own, fun own t mem => ?_, fun own t waiting mem pending => ?_⟩
  · rw [same]
    rcases dropped mem with old | ⟨rfl, beaten⟩
    · exact h.beaten own t old
    · exact ⟨ticket, newest.made, newest.waiting t beaten⟩
  · rw [slot_tell] at pending
    split at pending
    · rename_i here
      subst here
      obtain rfl : ticket = waiting := Option.some.inj (free ▸ pending)
      rcases dropped mem with old | ⟨-, beaten⟩
      · exact newest.dropped t old
      · exact newest.waiting t beaten
    · rename_i elsewhere
      exact h.older own t waiting ((dropped mem).resolve_right fun here => elsewhere here.1) pending

/-- A new submission is the newest one. -/
theorem submitted (h : a.Recent) (balanced : a.Balanced []) (tag : Tag) :
    ({ a with tickets := a.tickets + 1 }.mark [.submitted tag a.tickets]).Recent ∧
      ({ a with tickets := a.tickets + 1 }.mark [.submitted tag a.tickets]).Newest tag
        a.tickets := by
  let made : Admission := { a with tickets := a.tickets + 1 }.mark [.submitted tag a.tickets]
  have below {own : Tag} {t : Ticket} (mem : .submitted own t ∈ a.marks) : t < a.tickets := by
    refine Nat.lt_of_not_le fun late => ?_
    have fresh := balanced.fresh own t late
    exact absurd mem (List.count_eq_zero.1 fresh)
  have old {own : Tag} {t : Ticket} (mem : .dropped own t ∈ made.marks) : .dropped own t ∈ a.marks := by
    simpa [made] using mem
  have now (own : Tag) : made.made own = a.made own ++ if own = tag then [a.tickets] else [] := by
    by_cases here : own = tag
    · simp [Admission.made, made, Mark.made?, here]
    · simp [Admission.made, made, Mark.made?, here, Ne.symm here]
  refine ⟨⟨fun own => ?_, fun own t mem => ?_, fun own t waiting mem => ?_⟩, ?_, fun t mem => ?_,
    fun t waiting => ?_⟩
  · change (made.made own).Pairwise (· < ·)
    rw [now, List.pairwise_append]
    refine ⟨h.order own, by split <;> simp, fun t mem u last => ?_⟩
    split at last
    · rw [List.mem_singleton.1 last]
      exact below (mem_made.1 mem)
    · cases last
  · obtain ⟨later, mem, less⟩ := h.beaten own t (old mem)
    refine ⟨later, ?_, less⟩
    change later ∈ made.made own
    exact now own ▸ List.mem_append_left _ mem
  · exact h.older own t waiting (old mem)
  · change a.tickets ∈ made.made tag
    simp [now]
  · obtain ⟨later, mem, less⟩ := h.beaten tag t (old mem)
    exact less.trans (below (mem_made.1 mem))
  · exact (balanced.waiting waiting).1

/-- A waiting submission that is taken up is the newest one. -/
theorem taken (h : a.Recent) (balanced : a.Balanced [])
    (waiting : (a.slot tag).pending = some ticket) :
    (a.setSlot tag { a.slot tag with pending := none }).Recent ∧
      (a.setSlot tag { a.slot tag with pending := none }).Newest tag ticket := by
  refine ⟨h.setSlot (by simp), mem_made.2 ?_, fun t mem => h.older tag t ticket mem waiting,
    fun t pending => ?_⟩
  · have course := balanced.course tag ticket
    rw [waits, if_pos waiting] at course
    have submitted : 0 < a.times (.submitted tag ticket) := by omega
    exact List.count_pos_iff.1 submitted
  · rw [slot_setSlot, if_pos rfl] at pending
    cases pending

end Recent

theorem Places.recent (h : Places tag ticket purpose a a') (recent : a.Recent)
    (newest : a.Newest tag ticket) : a'.Recent := by
  cases h with
  | wait reached => exact recent.queue newest rfl
  | offer room =>
      refine recent.next rfl (by simp [Mark.ofAge]) fun own t waiting => ?_
      rw [slot_ask] at waiting
      split at waiting
      · rename_i here
        exact here ▸ waiting
      · exact waiting

theorem recent_finish (recent : a.Recent) : (a.finish tag purpose).Recent :=
  recent.tell rfl (by simp [Slot.Notice.marks, Mark.ofAge])

theorem Ends.recent (h : Ends tag purpose a a') (recent : a.Recent) : a'.Recent := by
  cases h with
  | underflow idle => exact recent.tell rfl (by simp [Slot.Notice.marks, Mark.ofAge])
  | finish busy => exact recent_finish recent

theorem Step.recent (h : Step .fair a a') (recent : a.Recent) (balanced : a.Balanced [])
    (bounded : a.Bounded limit) : a'.Recent := by
  have quiet {marks : List Mark} (b : Admission) (more : b.marks = a.marks ++ marks)
      (silent : ∀ m ∈ marks, m.ofAge = false) (limiter : b.limiter = a.limiter) : b.Recent :=
    recent.next more silent fun own t waiting => by
      rwa [Admission.slot, limiter] at waiting
  cases h with
  | @submit tag a' may enters =>
      have made := recent.submitted balanced tag
      exact (enters.places (bounded.next rfl rfl)).recent made.1 made.2
  | complete may ends => exact ends.recent recent
  | overwrite may => exact may.elim
  | start may outside => exact quiet _ rfl (by simp [Mark.ofAge]) rfl
  | @refuse tag ticket purpose rest e may top =>
      have left : (a.back rest).Recent := quiet _ (List.append_nil _).symm (by simp) rfl
      exact left.tell rfl (by simp [Slot.Notice.marks, Mark.ofAge])
  | @accept tag ticket purpose rest top =>
      have taken : ((a.back rest).mark [.accepted tag ticket]).Recent :=
        quiet _ rfl (by simp [Mark.ofAge]) rfl
      exact taken.tell rfl (by simp [Slot.Notice.marks])
  | @take tag ticket purpose rest prompt top =>
      have taken : (({ a with backlog := (tag, ticket) ::ₘ a.backlog }.back rest).mark
          [.accepted tag ticket]).Recent := quiet _ rfl (by simp [Mark.ofAge]) rfl
      exact taken.tell rfl (by simp [Slot.Notice.marks])
  | pump next => exact quiet _ rfl (by simp [Mark.ofAge]) rfl
  | conclude next ends => exact ends.recent (quiet _ rfl (by simp [Mark.ofAge]) rfl)
  | place top places =>
      exact absurd (bounded.kept _ (top ▸ List.mem_cons_self ..)) (by simp [Pause.places])
  | @release tag purpose rest top =>
      have left : (a.back rest).Recent := quiet _ (List.append_nil _).symm (by simp) rfl
      have freed : ((a.back rest).setSlot tag { a.slot tag with running := 1 }).Recent :=
        left.setSlot fun _ => id
      exact recent_finish freed
  | @handOver tag ticket purpose rest a' top waiting enters =>
      have left : (a.back rest).Recent := quiet _ (List.append_nil _).symm (by simp) rfl
      have taken := left.taken ((alike_back top rfl).balanced balanced) waiting
      exact (enters.places ((bounded.back top).setSlot (bounded.within tag))).recent taken.1 taken.2
  | @rest tag purpose rest top free =>
      have left : ((a.back rest).mark (purpose.marks tag false)).Recent :=
        quiet _ rfl (by cases purpose <;> simp [Purpose.marks, Mark.ofAge]) rfl
      exact left.setSlot fun _ => id
  | @answer tag purpose queued rest top =>
      have left : ((a.back rest).mark (purpose.marks tag queued)).Recent :=
        quiet _ rfl (by cases purpose <;> simp [Purpose.marks, Mark.ofAge]) rfl
      exact left.setSlot fun _ => id
  | number => exact quiet _ (List.append_nil _).symm (by simp) rfl

section Drops
variable {c : Conduct} {own : Tag} {t : Ticket}

/-- Where nothing waits, nothing is replaced. -/
theorem Places.drops (h : Places tag ticket purpose a a') (free : (a.slot tag).pending = none) :
    a'.times (.dropped own t) = a.times (.dropped own t) := by
  cases h with
  | wait reached => simp [free, Slot.Notice.marks]
  | offer room => simp

theorem Ends.drops (h : Ends tag purpose a a') :
    a'.times (.dropped own t) = a.times (.dropped own t) := by
  cases h with
  | underflow idle => simp [Slot.Notice.marks]
  | finish busy => simp [Admission.finish, Slot.Notice.marks]

theorem Step.drops (h : Step c a a') (silent : ∀ a tag, ¬c a (.submit tag))
    (bounded : a.Bounded limit) : a'.times (.dropped own t) = a.times (.dropped own t) := by
  have quiet {marks : List Mark} (b : Admission) (more : b.marks = a.marks ++ marks)
      (still : ∀ m ∈ marks, m.ofAge = false) :
      b.times (.dropped own t) = a.times (.dropped own t) :=
    times_of_quiet more still rfl
  cases h with
  | submit may enters => exact (silent _ _ may).elim
  | complete may ends => exact ends.drops
  | overwrite may => rfl
  | start may outside => exact quiet _ rfl (by simp [Mark.ofAge])
  | refuse e may top => exact quiet _ rfl (by simp [Slot.Notice.marks, Mark.ofAge])
  | @accept tag ticket purpose rest top | @take tag ticket purpose rest prompt top =>
      exact quiet _ (List.append_assoc ..) (by simp [Slot.Notice.marks, Mark.ofAge])
  | pump next => exact quiet _ rfl (by simp [Mark.ofAge])
  | conclude next ends => exact ends.drops.trans (quiet _ rfl (by simp [Mark.ofAge]))
  | place top places =>
      exact absurd (bounded.kept _ (top ▸ List.mem_cons_self ..)) (by simp [Pause.places])
  | release top => exact quiet _ rfl (by simp [Slot.Notice.marks, Mark.ofAge])
  | @handOver tag ticket purpose rest a' top waiting enters =>
      refine (enters.places ((bounded.back top).setSlot (bounded.within tag))).drops ?_
      rw [slot_setSlot, if_pos rfl]
  | @rest tag purpose rest top free | @answer tag purpose queued rest top =>
      exact quiet _ rfl (by cases purpose <;> simp [Purpose.marks, Mark.ofAge])
  | number => rfl

theorem Steps.drops (steps : Steps c a b) (silent : ∀ a tag, ¬c a (.submit tag))
    (sub : ∀ a d, c a d → Conduct.fair a d) (bounded : a.Bounded limit) :
    b.times (.dropped own t) = a.times (.dropped own t) :=
  (steps.keep (P := fun b => b.Bounded limit ∧ b.times (.dropped own t) = a.times (.dropped own t))
    (fun _ _ held step => ⟨(step.mono sub).bounded held.1,
      (step.drops silent held.1).trans held.2⟩) ⟨bounded, rfl⟩).2

end Drops
end Admission

/-- A submission to a tag that is full waits in place of the one that waited before. -/
theorem System.submit_waits (s : System) (before : List Mark) (tag : Tag)
    (kept : s.limiter.limit.isExceeded (s.limiter.slot tag).running = false)
    (reached : s.limiter.limit.isReached (s.limiter.slot tag).running = true) :
    (s.submit tag).admission before =
      ({ s.admission before with tickets := s.tickets + 1 }.mark [.submitted tag s.tickets]).tell tag
        (.submit s.tickets) { s.limiter.slot tag with pending := some s.tickets }
        (.queued s.tickets (s.limiter.slot tag).pending) (.answer true) := by
  have waits : Slot.submit (s.limiter.setting tag) (s.limiter.slot tag) s.tickets =
      (Slot.place (s.limiter.setting tag) (s.limiter.slot tag) s.tickets).after
        (Slot.debug (s.limiter.setting tag) "run()"
          [Slot.tagEntry (s.limiter.setting tag), Slot.runningEntry (s.limiter.slot tag)]) := by
    simp [Slot.submit, Limiter.setting, kept]
  have placed : s.limiter.limit = (s.limiter.setting tag).limit := rfl
  rw [placed] at reached
  rw [submit, waits, Reaction.admission_after, admission_follow_after, Slot.place, if_pos reached,
    follow, admission_announce]
  rfl

namespace History
variable {s : System} {ms : List Move}
open Admission

theorem recent {limit : Nat} {logger : Option Logging.Threshold}
    (start : (⟨s, []⟩ : History).admission = .initial limit logger)
    (kept : Conduct.fair.Keeps ⟨s, []⟩ ms) :
    ((⟨s, []⟩ : History).plays ms).admission.Bounded limit ∧
      ((⟨s, []⟩ : History).plays ms).admission.Recent := by
  have all := plays_induction
    (P := fun a => a.Bounded limit ∧ a.Recent ∧ a.Balanced [])
    (fun _ _ held step => ⟨step.bounded held.1, step.recent held.2.1 held.2.2 held.1,
      step.balanced held.2.2⟩) kept
    (start ▸ ⟨.at_start limit logger, .at_start limit logger, .at_start limit logger⟩)
  exact ⟨all.1, all.2.1⟩

/-- A move that adds no such mark to those made before makes none. -/
theorem not_mem_marks_of_times {h : History} {m : Move} {mark : Mark}
    (same : (h.play m).admission.times mark = h.admission.times mark) :
    mark ∉ (h.system.react m).marks := by
  have more : (h.play m).admission.marks = h.admission.marks ++ (h.system.react m).marks :=
    congrArg Admission.marks (admission_play h m)
  rw [times_more more] at same
  exact List.count_eq_zero.1 (by omega)

/-- Only a submission drops another one: the one that waited at its tag, in whose place it waits. -/
theorem submits_of_dropped {h : History} {m : Move} {limit : Nat} {tag : Tag} {t : Ticket}
    (balanced : h.admission.Balanced []) (bounded : h.admission.Bounded limit)
    (may : Conduct.fair.Permits h m) (dropped : .dropped tag t ∈ (h.system.react m).marks) :
    m = .submit tag ∧ (h.system.limiter.slot tag).pending = some t ∧ t < h.system.tickets ∧
      (h.system.react m).marks = [.submitted tag h.system.tickets, .dropped tag t,
        .queued tag h.system.tickets] ∧
      ((h.play m).system.limiter.slot tag).pending = some h.system.tickets := by
  by_cases submits : ∃ own, m = .submit own
  · obtain ⟨own, rfl⟩ := submits
    have kept := not_exceeded bounded own
    cases reached : h.system.limiter.limit.isReached (h.system.limiter.slot own).running with
    | true =>
        have waits := System.submit_waits h.system [] own kept reached
        have marks : (h.system.react (.submit own)).marks = .submitted own h.system.tickets ::
            Slot.Notice.marks own (.queued h.system.tickets (h.system.limiter.slot own).pending) :=
          congrArg Admission.marks waits
        have slot : (h.play (.submit own)).system.limiter.slot own =
            { h.system.limiter.slot own with pending := some h.system.tickets } := by
          have told := congrArg (fun a : Admission => a.slot own) waits
          rwa [slot_tell, if_pos rfl] at told
        cases waiting : (h.system.limiter.slot own).pending with
        | none => simp [marks, waiting, Slot.Notice.marks] at dropped
        | some beaten =>
            obtain ⟨rfl, rfl⟩ : tag = own ∧ t = beaten := by
              simpa [marks, waiting, Slot.Notice.marks] using dropped
            refine ⟨rfl, waiting, (balanced.waiting waiting).1, ?_, by rw [slot]⟩
            rw [marks, waiting]
            rfl
    | false =>
        obtain ⟨a, enters, steps⟩ :=
          System.submit_enters (c := fun _ _ => False) h.system h.marks own
        have made : ({ h.admission with tickets := h.system.tickets + 1 }.mark
            [.submitted own h.system.tickets]).Bounded limit := bounded.next rfl rfl
        refine absurd dropped (not_mem_marks_of_times ?_)
        rw [admission_play]
        refine (steps.drops (fun _ _ => id) (fun _ _ => False.elim) (enters.bounded made)).trans ?_
        cases enters.places made with
        | wait full => exact absurd full (ne_true_of_eq_false reached)
        | offer room =>
            rw [times_ask, times_mark]
            simp [times, History.admission]
  · refine absurd dropped (not_mem_marks_of_times ?_)
    have steps : Steps (fun a d => Conduct.fair a d ∧ ∀ own, d ≠ .submit own) h.admission
        (h.play m).admission := by
      refine play_steps fun d deed => ⟨may d deed, fun own same => submits ⟨own, ?_⟩⟩
      exact System.eq_submit_of_deed? (same ▸ deed)
    exact steps.drops (fun _ own may => may.2 own rfl) (fun _ _ => And.left) bounded

/-- The most recent submission of a tag wins: a submission is dropped only by a later one to its tag,
which waits instead; a task that has to wait again replaces none; the latest submission of a tag is
never dropped, and the one that waits is later than all that were. -/
theorem most_recent_wins (begins : s.Begins) (kept : Conduct.fair.Keeps ⟨s, []⟩ ms) :
    let h := (⟨s, []⟩ : History).plays ms
    (∀ before m after, ms = before ++ m :: after →
      let now := (⟨s, []⟩ : History).plays before
      (∀ tag t, .dropped tag t ∈ (now.system.react m).marks →
        m = .submit tag ∧ (now.system.limiter.slot tag).pending = some t ∧
          t < now.system.tickets ∧
          (now.system.react m).marks = [.submitted tag now.system.tickets, .dropped tag t,
            .queued tag now.system.tickets] ∧
          ((now.play m).system.limiter.slot tag).pending = some now.system.tickets) ∧
      ((∀ tag, m ≠ .submit tag) → ∀ tag ticket replaced,
        .noticed tag (.queued ticket replaced) ∈ (now.system.react m).notes → replaced = none)) ∧
    ∀ tag, (h.admission.made tag).Pairwise (· < ·) ∧
      (∀ latest, (h.admission.made tag).getLast? = some latest → .dropped tag latest ∉ h.marks) ∧
      ∀ t waiting, .dropped tag t ∈ h.marks →
        (h.system.limiter.slot tag).pending = some waiting → t < waiting := by
  intro h
  obtain ⟨limit, logger, start⟩ := begins.admission
  refine ⟨?_, fun tag => ?_⟩
  · intro before m after split now
    have kept' : Conduct.fair.Keeps ⟨s, []⟩ before := (split ▸ kept).of_append
    have may : Conduct.fair.Permits now m := Conduct.keeps_iff.1 kept before m after split
    have only {tag : Tag} {t : Ticket} (dropped : .dropped tag t ∈ (now.system.react m).marks) :=
      submits_of_dropped (balanced begins before) (recent start kept').1 may dropped
    refine ⟨fun tag t => only, fun other tag ticket replaced noticed => ?_⟩
    cases replaced with
    | none => rfl
    | some t =>
        have dropped : .dropped tag t ∈ (now.system.react m).marks :=
          List.mem_flatMap.2 ⟨_, noticed, List.mem_cons_self ..⟩
        exact absurd (only dropped).1 (other tag)
  · have last : h.admission.Recent := (recent start kept).2
    refine ⟨last.order tag, fun latest end_ dropped => ?_, last.older tag⟩
    obtain ⟨later, mem, less⟩ := last.beaten tag latest dropped
    obtain ⟨earlier, split⟩ := List.getLast?_eq_some_iff.1 end_
    have order := last.order tag
    rw [split, List.pairwise_append] at order
    rw [split, List.mem_append, List.mem_singleton] at mem
    rcases mem with old | rfl
    · exact Nat.lt_asymm less (order.2.2 later old latest (List.mem_singleton_self _))
    · exact Nat.lt_irrefl _ less

/-- While one task runs and another waits, listeners that hear of the end submit two more: one finds
room, and the other one takes the place of the one that waits. -/
def busyRun : List Move :=
  [.submit "t", .reply .accept, .reply (.heard none), .submit "t", .reply (.heard none),
    .complete "t", .submit "t", .reply .accept, .reply (.heard none), .submit "t",
    .reply (.heard none), .reply (.heard none), .reply (.heard none)]

theorem third_of_four_is_kept :
    let h := (⟨.oneAtATime, []⟩ : History).plays busyRun
    h.admission.made "t" = [0, 1, 2, 3] ∧ .dropped "t" 1 ∈ h.marks ∧ .dropped "t" 3 ∉ h.marks ∧
      (h.system.limiter.slot "t").pending = some 3 ∧ 1 < 3 := by
  intro h
  have kept : Conduct.fair.Keeps ⟨.oneAtATime, []⟩ busyRun := by decide +kernel
  obtain ⟨-, each⟩ := most_recent_wins System.oneAtATime_begins kept
  obtain ⟨-, latest, older⟩ := each "t"
  have made : h.admission.made "t" = [0, 1, 2, 3] := by decide +kernel
  have dropped : .dropped "t" 1 ∈ h.marks := by decide +kernel
  have waiting : (h.system.limiter.slot "t").pending = some 3 := by decide +kernel
  exact ⟨made, dropped, latest 3 (by rw [made]; rfl), waiting, older 1 3 dropped waiting⟩

end History
end Turnstile
