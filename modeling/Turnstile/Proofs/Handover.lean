import Turnstile.Proofs.Counts
import Turnstile.Proofs.Reactions

/-!
When a task waits. While no step of its tag's slot is open, a task waits only where the count has
reached the limit, and whatever tells the slot of an end then hands the task over. Within a step that
is told of an end this is false: the count is down and the waiting task is not yet taken up.
-/
namespace Turnstile

/-- Counts are left alone, and a runner outside refuses before it does anything else. -/
def Conduct.orderly : Conduct
  | _, .overwrite .. => False
  | a, .refuse tag ticket => a.Prompt tag ticket
  | _, _ => True

instance : ∀ a d, Decidable (Conduct.orderly a d)
  | _, .overwrite .. => .isFalse id
  | a, .refuse tag ticket =>
    inferInstanceAs (Decidable (a.marks.getLast? = some (.offered tag ticket)))
  | _, .submit _ | _, .complete _ | _, .start .. => .isTrue trivial

/-- The step has found a count over the limit and will place its task then. -/
def Pause.places : Pause → Bool
  | ⟨_, _, .heard (.place _)⟩ => true
  | _ => false

theorem Pause.tag_of_handsOver {p : Pause} {tag : Tag} (h : p.handsOver tag = true) :
    p.tag = tag := by
  obtain ⟨own, _, ⟨_ | _ | _ | _⟩ | _⟩ := p <;> simp_all [Pause.handsOver]

namespace Admission
variable {a a' b : Admission} {limit : Nat} {tag : Tag} {ticket : Ticket} {purpose : Purpose}
  {slot : Slot} {notice : Slot.Notice} {resume : Slot.Resume} {rest : List Pause}

/-- The count of the tag has reached the limit. -/
def Full (a : Admission) (tag : Tag) : Prop :=
  a.limiter.limit.isReached (a.slot tag).running = true

/-- Some step will take up the task that waits by then. -/
def HandingOver (a : Admission) (tag : Tag) : Prop := ∃ p ∈ a.pauses, p.handsOver tag = true

/-- A count that is no more than the limit. -/
def Within (limit : Nat) (running : Number) : Prop :=
  ∃ k : Nat, running = .ofInt k ∧ k ≤ limit ∧ k ≤ Number.lastCount

/-- Where a task waits the tag is full, or the task is about to be taken up. -/
structure Settling (limit : Nat) (a : Admission) : Prop where
  bound : a.limiter.limit = some (.ofInt limit)
  within : ∀ tag, Within limit (a.slot tag).running
  kept : ∀ p ∈ a.pauses, p.places = false
  full : ∀ tag, (a.slot tag).pending ≠ none → a.Full tag ∨ a.HandingOver tag
  /-- A refusal that comes now leaves no waiting task behind. -/
  prompt : ∀ tag t, a.Prompt tag t → Within limit ((a.slot tag).running.plus (-1)) ∧
    ((a.slot tag).pending ≠ none → a.HandingOver tag)

namespace Settling

theorem at_start (limit : Nat) (logger : Option Logging.Threshold) :
    (initial limit logger).Settling limit where
  bound := rfl
  within _ := ⟨0, rfl, Nat.zero_le _, Nat.zero_le _⟩
  kept _ mem := absurd mem List.not_mem_nil
  full _ waits := absurd rfl waits
  prompt _ _ prompt := by simp [Prompt, initial] at prompt

/-- The same slots and pauses, and no new offer. -/
theorem next {marks : List Mark} (h : a.Settling limit)
    (bound : b.limiter.limit = a.limiter.limit) (slots : ∀ own, b.slot own = a.slot own)
    (pauses : b.pauses = a.pauses) (more : b.marks = a.marks ++ marks)
    (quiet : ∀ own t, .offered own t ∉ marks) : b.Settling limit where
  bound := bound.trans h.bound
  within own := slots own ▸ h.within own
  kept p mem := h.kept p (pauses ▸ mem)
  full own waits := by
    rw [Full, HandingOver, bound, slots, pauses]
    exact h.full own (slots own ▸ waits)
  prompt own t prompt := by
    rw [HandingOver, slots, pauses]
    exact h.prompt own t (prompt.earlier more (quiet own t))

/-- The slot's count is as it was, and what waits there waits for good reason. -/
theorem tell (h : a.Settling limit) (within : Within limit slot.running)
    (full : slot.pending ≠ none → a.limiter.limit.isReached slot.running = true ∨
      a.HandingOver tag)
    (kept : Pause.places ⟨tag, purpose, .heard resume⟩ = false)
    (quiet : ∀ own t, ¬(a.tell tag purpose slot notice resume).Prompt own t) :
    (a.tell tag purpose slot notice resume).Settling limit where
  bound := h.bound
  within own := by
    rw [slot_tell]
    split
    · exact within
    · exact h.within own
  kept p mem := (List.mem_cons.1 mem).elim (fun new => new ▸ kept) (h.kept p)
  full own waits := by
    have later : a.HandingOver own → (a.tell tag purpose slot notice resume).HandingOver own :=
      fun ⟨p, mem, hands⟩ => ⟨p, List.mem_cons_of_mem _ mem, hands⟩
    rw [slot_tell] at waits
    rw [Full, slot_tell]
    split at waits
    · rename_i here
      subst here
      rw [if_pos rfl]
      exact (full waits).imp_right later
    · rename_i elsewhere
      rw [if_neg elsewhere]
      exact (h.full own waits).imp_right later
  prompt own t prompt := absurd prompt (quiet own t)

/-- Offering a task counts it; what waits meanwhile will be taken up. -/
theorem ask (h : a.Settling limit)
    (room : a.limiter.limit.isReached (a.slot tag).running = false) :
    (a.ask tag purpose { a.slot tag with running := (a.slot tag).running.plus 1 }
      ticket).Settling limit := by
  obtain ⟨k, counted, bounded, exactly⟩ := h.within tag
  have below : k < limit := by
    apply Nat.lt_of_le_of_ne bounded
    intro reached
    rw [h.bound, counted, reached] at room
    exact absurd (Limit.isReached_ofInt.2 rfl) (ne_true_of_eq_false room)
  have spare : ¬a.Full tag := ne_true_of_eq_false room
  have more := Number.ofInt_plus_one exactly
  have positive : 0 < Number.lastCount := by decide
  refine ⟨h.bound, ?_, ?_, ?_, ?_⟩
  · intro own
    rw [slot_ask]
    split
    · exact ⟨_, counted ▸ more, by omega, Nat.min_le_right _ _⟩
    · exact h.within own
  · intro p mem
    exact (List.mem_cons.1 mem).elim (fun new => new ▸ rfl) (h.kept p)
  · intro own waits
    have waited : (a.slot own).pending ≠ none := by
      rw [slot_ask] at waits
      split at waits
      · rename_i here
        exact here ▸ waits
      · exact waits
    have later : a.HandingOver own → (a.ask tag purpose
        { a.slot tag with running := (a.slot tag).running.plus 1 } ticket).HandingOver own :=
      fun ⟨p, mem, hands⟩ => ⟨p, List.mem_cons_of_mem _ mem, hands⟩
    rw [Full, slot_ask]
    split
    · rename_i here
      subst here
      exact .inr (later ((h.full own waited).resolve_left spare))
    · exact (h.full own waited).imp_right later
  · intro own t prompt
    obtain ⟨rfl, rfl⟩ : tag = own ∧ ticket = t := by simpa [Prompt] using prompt
    rw [slot_ask, if_pos rfl]
    refine ⟨⟨min (k + 1) Number.lastCount - 1, ?_, ?_, ?_⟩, fun waits => ?_⟩
    · rw [counted, more]
      exact Number.ofInt_plus_neg_one (Nat.min_le_right _ _) (by omega)
    · omega
    · omega
    · obtain ⟨p, mem, hands⟩ := (h.full tag waits).resolve_left spare
      exact ⟨p, List.mem_cons_of_mem _ mem, hands⟩

/-- A step of the tag goes on, and what waits there will be taken up after its notice. -/
theorem free (h : a.Settling limit) (bound : b.limiter.limit = a.limiter.limit)
    (slots : ∀ own, own ≠ tag → b.slot own = a.slot own)
    (sub : ∀ p ∈ b.pauses, p ∈ a.pauses)
    (left : ∀ p ∈ a.pauses, p.tag ≠ tag → p ∈ b.pauses)
    (within : Within limit slot.running) (late : resume = .handOver ∨ resume = .release)
    (quiet : ∀ own t, ¬(b.tell tag purpose slot notice resume).Prompt own t) :
    (b.tell tag purpose slot notice resume).Settling limit := by
  refine ⟨bound.trans h.bound, ?_, ?_, ?_, fun own t prompt => absurd prompt (quiet own t)⟩
  · intro own
    rw [slot_tell]
    split
    · exact within
    · rename_i elsewhere
      rw [slots own elsewhere]
      exact h.within own
  · intro p mem
    rcases List.mem_cons.1 mem with rfl | old
    · rcases late with rfl | rfl <;> rfl
    · exact h.kept p (sub p old)
  · intro own waits
    by_cases here : own = tag
    · refine .inr ⟨_, List.mem_cons_self .., ?_⟩
      rcases late with rfl | rfl <;> simp [Pause.handsOver, here]
    · rw [slot_tell, if_neg here, slots own here] at waits
      rw [Full, slot_tell, if_neg here, slots own here]
      refine (h.full own waits).imp (fun full => ?_) fun ⟨p, mem, hands⟩ => ?_
      · exact bound ▸ full
      · refine ⟨p, List.mem_cons_of_mem _ (left p mem fun same => here ?_), hands⟩
        exact (Pause.tag_of_handsOver hands).symm.trans same

/-- Leaving a step that takes up no waiting task. -/
theorem back {p : Pause} (h : a.Settling limit) (top : a.pauses = p :: rest)
    (calm : ∀ own, p.handsOver own = false) : (a.back rest).Settling limit := by
  have later (own : Tag) : a.HandingOver own → (a.back rest).HandingOver own := by
    rintro ⟨q, mem, hands⟩
    rw [top] at mem
    rcases List.mem_cons.1 mem with rfl | old
    · rw [calm own] at hands
      cases hands
    · exact ⟨q, old, hands⟩
  exact ⟨h.bound, h.within, fun q mem => h.kept q (top ▸ List.mem_cons_of_mem _ mem),
    fun own waits => (h.full own waits).imp_right (later own),
    fun own t prompt => (h.prompt own t prompt).imp_right fun waits => later own ∘ waits⟩

/-- Taking up the waiting task leaves none behind. -/
theorem taken {p : Pause} (h : a.Settling limit) (top : a.pauses = p :: rest)
    (here : p.tag = tag) :
    ((a.back rest).setSlot tag { a.slot tag with pending := none }).Settling limit := by
  have elsewhere (own : Tag) (other : own ≠ tag) : a.HandingOver own →
      ((a.back rest).setSlot tag { a.slot tag with pending := none }).HandingOver own := by
    rintro ⟨q, mem, hands⟩
    rw [top] at mem
    rcases List.mem_cons.1 mem with rfl | old
    · exact absurd ((Pause.tag_of_handsOver hands).symm.trans here) other
    · exact ⟨q, old, hands⟩
  refine ⟨h.bound, ?_, fun q mem => h.kept q (top ▸ List.mem_cons_of_mem _ mem), ?_, ?_⟩
  · intro own
    rw [slot_setSlot]
    split
    · exact h.within tag
    · exact h.within own
  · intro own waits
    by_cases same : own = tag
    · rw [slot_setSlot, if_pos same] at waits
      exact absurd rfl waits
    · rw [slot_setSlot, if_neg same] at waits
      rw [Full, slot_setSlot, if_neg same]
      exact (h.full own waits).imp_right (elsewhere own same)
  · intro own t prompt
    obtain ⟨within, waits⟩ := h.prompt own t prompt
    rw [slot_setSlot]
    by_cases same : own = tag
    · subst same
      rw [if_pos rfl]
      exact ⟨within, fun waits => absurd rfl waits⟩
    · rw [if_neg same]
      exact ⟨within, fun pending => elsewhere own same (waits pending)⟩

end Settling

theorem Places.settling (h : Places tag ticket purpose a a') (settling : a.Settling limit) :
    a'.Settling limit := by
  cases h with
  | wait reached =>
      refine settling.tell (settling.within tag) (fun _ => .inl reached) rfl fun own t => ?_
      cases hp : (a.slot tag).pending <;> simp [Prompt, Slot.Notice.marks]
  | offer room => exact settling.ask room

theorem Enters.settling (h : Enters tag ticket purpose a a') (settling : a.Settling limit) :
    a'.Settling limit := by
  cases h with
  | overflow exceeded =>
      obtain ⟨k, counted, bounded, -⟩ := settling.within tag
      rw [settling.bound, counted, Limit.isExceeded_ofInt] at exceeded
      exact absurd bounded (Nat.not_le.2 exceeded)
  | place kept placed => exact placed.settling settling

theorem Ends.settling (h : Ends tag purpose a a') (settling : a.Settling limit) :
    a'.Settling limit := by
  obtain ⟨k, counted, bounded, exactly⟩ := settling.within tag
  cases h with
  | underflow idle =>
      exact settling.free rfl (fun _ _ => rfl) (fun _ => id) (fun _ mem _ => mem)
        (settling.within tag) (.inr rfl) (by simp [Prompt, Slot.Notice.marks])
  | finish busy =>
      have positive : 0 < k := by
        apply Nat.pos_of_ne_zero
        intro zero
        rw [counted, Number.ofInt_le_zero.2 zero] at busy
        cases busy
      refine settling.free rfl (fun _ _ => rfl) (fun _ => id) (fun _ mem _ => mem)
        ⟨k - 1, ?_, by omega, by omega⟩ (.inl rfl) (by simp [Prompt, Slot.Notice.marks])
      rw [counted]
      exact Number.ofInt_plus_neg_one exactly positive

theorem Step.settling (h : Step .orderly a a') (settling : a.Settling limit) :
    a'.Settling limit := by
  cases h with
  | submit may enters => exact enters.settling (settling.next rfl (fun _ => rfl) rfl rfl (by simp))
  | complete may ends => exact ends.settling settling
  | overwrite may => exact may.elim
  | start may outside => exact settling.next rfl (fun _ => rfl) rfl rfl (by simp)
  | @refuse tag ticket purpose rest e may top =>
      have prompt : a.Prompt tag ticket := may.elim id id
      obtain ⟨within, waits⟩ := settling.prompt tag ticket prompt
      have left := settling.back top fun _ => rfl
      refine left.tell within (fun pending => .inr ?_) rfl (by simp [Prompt, Slot.Notice.marks])
      obtain ⟨p, mem, hands⟩ := waits pending
      rw [top] at mem
      rcases List.mem_cons.1 mem with rfl | old
      · simp [Pause.handsOver] at hands
      · exact ⟨p, old, hands⟩
  | @accept tag ticket purpose rest top =>
      have left := settling.back top fun _ => rfl
      have taken : ((a.back rest).mark [.accepted tag ticket]).Settling limit :=
        left.next rfl (fun _ => rfl) rfl rfl (by simp)
      exact taken.tell (left.within tag) (left.full tag) rfl
        (by simp [Prompt, Slot.Notice.marks])
  | @take tag ticket purpose rest prompt top =>
      have left := settling.back top fun _ => rfl
      have taken : (({ a with backlog := (tag, ticket) ::ₘ a.backlog }.back rest).mark
          [.accepted tag ticket]).Settling limit :=
        left.next rfl (fun _ => rfl) rfl rfl (by simp)
      exact taken.tell (left.within tag) (left.full tag) rfl
        (by simp [Prompt, Slot.Notice.marks])
  | pump next => exact settling.next rfl (fun _ => rfl) rfl rfl (by simp)
  | conclude next ends => exact ends.settling (settling.next rfl (fun _ => rfl) rfl rfl (by simp))
  | place top places =>
      exact absurd (settling.kept _ (top ▸ List.mem_cons_self ..)) (by simp [Pause.places])
  | @release tag purpose rest top =>
      have idle : ((1 : Number).plus (-1)) = .ofInt (0 : Nat) :=
        Number.ofInt_plus_neg_one (k := 1) (by decide) Nat.one_pos
      refine settling.free rfl (fun own other => ?_) (fun p mem => top ▸ List.mem_cons_of_mem _ mem)
        (fun p mem other => ?_) ⟨0, ?_, Nat.zero_le _, Nat.zero_le _⟩ (.inl rfl)
        (by simp [Prompt, Slot.Notice.marks])
      · rw [slot_setSlot, if_neg other, slot_back]
      · rw [top] at mem
        exact (List.mem_cons.1 mem).resolve_left fun here => other (here ▸ rfl)
      · rw [slot_setSlot, if_pos rfl]
        exact idle
  | handOver top waiting enters => exact enters.settling (settling.taken top rfl)
  | @rest tag purpose rest top free =>
      have taken := settling.taken top rfl
      have slot : ({ a.slot tag with pending := none } : Slot) = a.slot tag := by
        rw [← free]
      rw [slot] at taken
      exact taken.next rfl (fun _ => rfl) rfl rfl
        (by cases purpose <;> simp [Purpose.marks])
  | @answer tag purpose queued rest top =>
      have left := settling.back top fun _ => rfl
      refine left.next rfl (fun own => ?_) rfl rfl (by cases purpose <;> simp [Purpose.marks])
      rw [slot_setSlot]
      split
      · rename_i here
        rw [here, slot_back]
      · rfl
  | number => exact settling.next rfl (fun _ => rfl) rfl (List.append_nil _).symm (by simp)

end Admission

namespace System
variable {s : System} {tag : Tag} {ticket : Ticket}

/-- With this move the slot of the tag is told that a task has ended. -/
def Ends (s : System) (tag : Tag) : Move → Prop
  | .complete own => own = tag
  | .job => s.stack = [] ∧ ∃ ticket starter outcome rest,
      s.loop.jobs = .conclude tag ticket starter outcome :: rest
  | .reply (.task (.threw _)) => ∃ ticket starter rest,
      s.stack = .task { work := .limited tag ticket, starter } :: rest
  | _ => False

/-- Whatever tells of the end, the slot completes one task. -/
theorem Ends.complete {m : Move} (h : s.Ends tag m) (made : (s.limiter.slot? tag).isSome) :
    ∃ s' purpose notes, s.react m = (System.complete s' tag purpose).after notes ∧
      s'.limiter = s.limiter := by
  unfold Ends at h
  split at h
  · subst h
    exact ⟨s, .complete, [], by simp [react, made, Reaction.after], rfl⟩
  · obtain ⟨free, ticket, starter, outcome, rest, jobs⟩ := h
    exact ⟨{ s with loop := { s.loop with jobs := rest } }, _, _,
      by simp only [react, runJob, free, jobs, conclude]; rfl, rfl⟩
  · obtain ⟨ticket, starter, rest, stack⟩ := h
    exact ⟨{ s with stack := rest }, _, _,
      by simp only [react, reply, stack, goOnFrom, taskReturned, conclude, Option.getD_some]; rfl, rfl⟩
  · exact h.elim

/-- With room, the waiting task is offered when its slot goes on. -/
theorem handOver_offers {limit k : Nat} (bound : s.limiter.limit = some (.ofInt limit))
    (counted : (s.limiter.slot tag).running = .ofInt k) (room : k < limit)
    (waiting : (s.limiter.slot tag).pending = some ticket) (purpose : Purpose) :
    .offered (.limited tag ticket) ∈ (s.resumeStep tag .handOver purpose).notes := by
  have kept : s.limiter.limit.isExceeded (.ofInt k) = false := by
    rw [bound, ← Bool.not_eq_true, Limit.isExceeded_ofInt]
    omega
  have free : s.limiter.limit.isReached (.ofInt k) = false := by
    rw [bound, ← Bool.not_eq_true, Limit.isReached_ofInt]
    omega
  simp [resumeStep, Slot.resume, Slot.handOver, waiting, Slot.submit, counted, Limiter.setting,
    kept, Slot.place, free, Slot.Progress.after, follow, offer, Reaction.afterRecords,
    Reaction.after]

/-- Once the end was heard the waiting task is offered, as the ended one has left room. -/
theorem complete_offers {limit : Nat} (bound : s.limiter.limit = some (.ofInt limit))
    (counted : (s.limiter.slot tag).running = .ofInt limit) (positive : 0 < limit)
    (exactly : limit ≤ Number.lastCount) (waiting : (s.limiter.slot tag).pending = some ticket)
    (purpose : Purpose) (thrown : Option Thrown) :
    .offered (.limited tag ticket) ∈
      ((s.complete tag purpose).system.reply (.heard thrown)).notes := by
  have busy : (s.limiter.slot tag).running.le 0 = false := by
    rw [counted, ← Bool.not_eq_true, Number.ofInt_le_zero]
    omega
  let freed : Slot := { s.limiter.slot tag with running := (s.limiter.slot tag).running.plus (-1) }
  let told : System :=
    { s with limiter := (s.limiter.setSlot tag freed).count (.finished freed.running) }
  obtain ⟨message, opened⟩ : ∃ message, (s.complete tag purpose).system =
      { told with stack := .message tag message [] .handOver purpose :: s.stack } := by
    refine ⟨(s.messages tag (.finished freed.running)).1, ?_⟩
    simp only [complete, Slot.complete, busy]
    cases h : s.audience <;> simp [announce, messages, h, LimiterEvent.ofNotice, callOut, told,
      Slot.finish, freed, Reaction.afterRecords, Reaction.after]
  have here : told.limiter.slot tag = freed := by simp [told]
  have less : (told.limiter.slot tag).running = .ofInt (limit - 1 : Nat) := by
    rw [here]
    simp only [freed, counted]
    exact Number.ofInt_plus_neg_one exactly positive
  have still : (told.limiter.slot tag).pending = some ticket := here ▸ waiting
  have offered := handOver_offers (s := told) bound less (by omega) still purpose
  rw [opened]
  simp only [reply, goOnFrom, Option.getD_some, Reaction.afterRecords, Reaction.after,
    List.mem_append]
  exact .inr offered

end System

namespace History
open Admission

theorem settling {s : System} {ms : List Move} {limit : Nat} {logger : Option Logging.Threshold}
    (start : (⟨s, []⟩ : History).admission = .initial limit logger)
    (kept : Conduct.orderly.Keeps ⟨s, []⟩ ms) :
    ((⟨s, []⟩ : History).plays ms).admission.Settling limit :=
  plays_induction (P := fun a => a.Settling limit) (fun _ _ held step => step.settling held) kept
    (start ▸ .at_start limit logger)

/-- A slot that holds a task has made an entry. -/
theorem slot?_isSome {l : Limiter} {tag : Tag} {ticket : Ticket}
    (waiting : (l.slot tag).pending = some ticket) : (l.slot? tag).isSome = true := by
  cases h : l.slot? tag with
  | none => simp [Limiter.slot, h] at waiting
  | some slot => rfl

end History
end Turnstile
