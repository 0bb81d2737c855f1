import Turnstile.Proofs.Limits
import Turnstile.Proofs.Merges

/-!
Where slots hear of ends from works alone, no more is counted for a tag than works of it are
outstanding. Unlike the exact count this needs no bound on the numbers: a count that has stopped at
`Number.lastCount` is too low from then on, never too high.
-/
namespace Turnstile

/-- Submissions are all that is made from outside, and a runner outside does nothing. -/
def Conduct.submitting : Conduct
  | _, .submit _ => True
  | _, _ => False

theorem Conduct.submitting_careful {a : Admission} {d : Deed} (h : submitting a d) :
    careful a d := by
  cases d with
  | submit => trivial
  | complete | overwrite | start | refuse => exact h.elim

theorem Conduct.submitting_orderly {a : Admission} {d : Deed} (h : submitting a d) :
    orderly a d := by
  cases d with
  | submit => trivial
  | complete | overwrite | start | refuse => exact h.elim

namespace Limiter
variable {slots : List (Tag × Slot)} {tag other : Tag} {slot : Slot}

theorem mem_keys_putSlot :
    other ∈ (putSlot slots tag slot).map Prod.fst ↔
      other = tag ∨ other ∈ slots.map Prod.fst := by
  induction slots with
  | nil => simp [putSlot]
  | cons entry rest ih =>
      by_cases here : entry.1 = tag
      · simp [putSlot, here]
      · simp only [putSlot, if_neg here, List.map_cons, List.mem_cons, ih]
        tauto

theorem nodup_keys_putSlot (nodup : (slots.map Prod.fst).Nodup) :
    ((putSlot slots tag slot).map Prod.fst).Nodup := by
  induction slots with
  | nil => simp [putSlot]
  | cons entry rest ih =>
      rw [List.map_cons, List.nodup_cons] at nodup
      by_cases here : entry.1 = tag
      · rw [putSlot, if_pos here, List.map_cons, List.nodup_cons]
        exact here ▸ nodup
      · rw [putSlot, if_neg here, List.map_cons, List.nodup_cons, mem_keys_putSlot]
        exact ⟨not_or.2 ⟨here, nodup.1⟩, ih nodup.2⟩

/-- No tag has two slots. -/
def Keyed (l : Limiter) : Prop := (l.slots.map Prod.fst).Nodup

theorem Keyed.setSlot {l : Limiter} (keyed : l.Keyed) (tag : Tag) (slot : Slot) :
    (l.setSlot tag slot).Keyed :=
  nodup_keys_putSlot keyed

/-- An entry is the slot of its tag. -/
theorem Keyed.slot_of_mem {l : Limiter} (keyed : l.Keyed) {entry : Tag × Slot}
    (mem : entry ∈ l.slots) : l.slot entry.1 = entry.2 := by
  rw [Limiter.slot, slot?, lookup_of_mem keyed mem, Option.getD_some]

end Limiter

namespace Admission
variable {a a' : Admission} {limit : Nat} {tag : Tag} {ticket : Ticket} {purpose : Purpose}

theorem Places.pauses (h : Places tag ticket purpose a a') :
    ∃ wait, a'.pauses = ⟨tag, purpose, wait⟩ :: a.pauses := by
  cases h with
  | wait reached => exact ⟨_, rfl⟩
  | offer room => exact ⟨_, rfl⟩

theorem Enters.pauses (h : Enters tag ticket purpose a a') :
    ∃ wait, a'.pauses = ⟨tag, purpose, wait⟩ :: a.pauses := by
  cases h with
  | overflow exceeded => exact ⟨_, rfl⟩
  | place kept placed => exact placed.pauses

theorem Ends.pauses (h : Ends tag purpose a a') :
    ∃ wait, a'.pauses = ⟨tag, purpose, wait⟩ :: a.pauses := by
  cases h with
  | underflow idle => exact ⟨_, rfl⟩
  | finish busy => exact ⟨_, rfl⟩

/-- No open step was told of an end from outside. -/
def OfWorks (a : Admission) : Prop := ∀ p ∈ a.pauses, p.purpose ≠ .complete

theorem OfWorks.next {wait : Wait} {pauses : List Pause}
    (same : a'.pauses = ⟨tag, purpose, wait⟩ :: pauses)
    (works : ∀ p ∈ pauses, p.purpose ≠ .complete) (own : purpose ≠ .complete) : a'.OfWorks := by
  intro p mem
  rw [same] at mem
  rcases List.mem_cons.1 mem with rfl | old
  · exact own
  · exact works p old

theorem Step.ofWorks (h : Step .submitting a a') (works : a.OfWorks) : a'.OfWorks := by
  have later {p : Pause} {rest : List Pause} (top : a.pauses = p :: rest) :
      ∀ q ∈ rest, q.purpose ≠ .complete := fun q mem => works q (top ▸ List.mem_cons_of_mem _ mem)
  have first {p : Pause} {rest : List Pause} (top : a.pauses = p :: rest) :
      p.purpose ≠ .complete := works p (top ▸ List.mem_cons_self ..)
  cases h with
  | submit may enters =>
      obtain ⟨wait, pauses⟩ := enters.pauses
      exact .next pauses works nofun
  | complete may ends => exact may.elim
  | conclude next ends =>
      obtain ⟨wait, pauses⟩ := ends.pauses
      exact .next pauses works nofun
  | refuse e may top => exact .next rfl (later top) (first top)
  | accept top => exact .next rfl (later top) (first top)
  | take prompt top => exact .next rfl (later top) (first top)
  | place top places =>
      obtain ⟨wait, pauses⟩ := places.pauses
      exact .next pauses (later top) (first top)
  | release top => exact .next rfl (later top) (first top)
  | handOver top waiting enters =>
      obtain ⟨wait, pauses⟩ := enters.pauses
      exact .next pauses (later top) (first top)
  | rest top free => exact later top
  | answer top => exact later top
  | overwrite | start | pump | number => exact works

theorem Places.keyed (h : Places tag ticket purpose a a') (keyed : a.limiter.Keyed) :
    a'.limiter.Keyed := by
  cases h <;> exact keyed.setSlot ..

theorem Enters.keyed (h : Enters tag ticket purpose a a') (keyed : a.limiter.Keyed) :
    a'.limiter.Keyed := by
  cases h with
  | overflow exceeded => exact keyed.setSlot ..
  | place kept placed => exact placed.keyed keyed

theorem Ends.keyed (h : Ends tag purpose a a') (keyed : a.limiter.Keyed) :
    a'.limiter.Keyed := by
  cases h <;> exact keyed.setSlot ..

theorem Step.keyed {c : Conduct} (h : Step c a a') (keyed : a.limiter.Keyed) :
    a'.limiter.Keyed := by
  cases h with
  | submit may enters => exact enters.keyed keyed
  | complete may ends => exact ends.keyed keyed
  | conclude next ends => exact ends.keyed keyed
  | place top places => exact places.keyed (keyed.setSlot ..)
  | release top => exact (keyed.setSlot ..).setSlot ..
  | handOver top waiting enters => exact enters.keyed (keyed.setSlot ..)
  | overwrite | refuse | accept | take | rest | answer => exact keyed.setSlot ..
  | start | pump | number => exact keyed

/-- No work is out that has ended. -/
theorem Step.unended (h : Step .submitting a a') (kept : a.Kept limit)
    (held : a.Unsaid .concluded) : a'.Unsaid .concluded := by
  refine h.unsaid (.inr rfl) kept.balanced (fun tag t unoffered => ?_) held
  have flight := kept.shared.flight tag t
  have share := kept.shared.share tag t
  omega

/-- Everything that is kept where submissions are all that is made from outside. -/
structure Undisturbed (limit : Nat) (a : Admission) : Prop where
  kept : a.Kept limit
  stocked : a.Stocked limit
  unended : a.Unsaid .concluded
  answered : a.Answered
  ofWorks : a.OfWorks
  keyed : a.limiter.Keyed

theorem Step.undisturbed (h : Step .submitting a a') (all : a.Undisturbed limit) :
    a'.Undisturbed limit where
  kept := (h.mono fun _ _ => Conduct.submitting_careful).kept all.kept
  stocked := (h.mono fun _ _ => Conduct.submitting_orderly).stocked all.stocked
  unended := h.unended all.kept all.unended
  answered := h.answered all.answered
  ofWorks := h.ofWorks all.ofWorks
  keyed := h.keyed all.keyed

theorem Undisturbed.at_start (limit : Nat) (logger : Option Logging.Threshold) :
    (initial limit logger).Undisturbed limit where
  kept := .at_start limit logger
  stocked := .at_start limit logger
  unended _ t mem := absurd mem (Finset.notMem_empty t)
  answered := .at_start limit logger
  ofWorks _ mem := absurd mem List.not_mem_nil
  keyed := List.nodup_nil

/-- What is out is outstanding, so no more is counted for a tag than works of it are outstanding. -/
theorem Undisturbed.covered (all : a.Undisturbed limit) (tag : Tag) (k : Nat)
    (counted : (a.slot tag).running = .ofInt k) : k ≤ (a.outstanding tag).card := by
  refine (all.stocked.backed tag k counted).trans (Finset.card_le_card fun t mem => ?_)
  have offered : 0 < a.times (.offered tag t) :=
    List.count_pos_iff.2 (Mark.offered_of_mem_foldl_turn mem)
  rw [mem_outstanding all.kept.balanced, all.stocked.unrefused tag t mem]
  exact ⟨offered, all.unended tag t mem⟩

end Admission

theorem History.undisturbed {s : System} (begins : s.Begins) {ms : List Move}
    (kept : Conduct.submitting.Keeps ⟨s, []⟩ ms) :
    ∃ limit : Nat, s.limiter.limit = some (.ofInt limit) ∧
      ((⟨s, []⟩ : History).plays ms).admission.Undisturbed limit := by
  obtain ⟨limit, logger, hs⟩ := begins.admission
  exact ⟨limit, congrArg (fun a : Admission => a.limiter.limit) hs,
    plays_induction (P := fun a => a.Undisturbed limit) (fun _ _ held step => step.undisturbed held)
      kept (hs ▸ .at_start limit logger)⟩

end Turnstile
