import Mathlib
import Turnstile.Limiter

/-!
Slots by tag: what a look-up finds after a slot was put, and how many slots hold a waiting task.
-/
namespace Turnstile.Limiter

theorem lookup_putSlot (slots : List (Tag × Slot)) (tag other : Tag) (slot : Slot) :
    (putSlot slots tag slot).lookup other =
      if other = tag then some slot else slots.lookup other := by
  induction slots with
  | nil =>
      by_cases h : other = tag
      · simp [putSlot, h]
      · simp [putSlot, List.lookup_cons, beq_false_of_ne h, h]
  | cons entry rest ih =>
      obtain ⟨key, old⟩ := entry
      simp only [putSlot]
      by_cases hk : key = tag <;> by_cases ho : other = key <;>
        simp_all [List.lookup_cons, beq_false_of_ne]

theorem putSlot_putSlot (slots : List (Tag × Slot)) (tag : Tag) (first second : Slot) :
    putSlot (putSlot slots tag first) tag second = putSlot slots tag second := by
  induction slots with
  | nil => simp [putSlot]
  | cons entry rest ih => by_cases h : entry.1 = tag <;> simp [putSlot, h, ih]

@[simp] theorem setSlot_setSlot (l : Limiter) (tag : Tag) (first second : Slot) :
    (l.setSlot tag first).setSlot tag second = l.setSlot tag second := by
  simp [setSlot, putSlot_putSlot]

@[simp] theorem setSlot_tally (l : Limiter) (tag : Tag) (slot : Slot) :
    (l.setSlot tag slot).tally = l.tally := rfl

@[simp] theorem count_tally (l : Limiter) (notice : Slot.Notice) :
    (l.count notice).tally = l.tally.count notice := rfl

@[simp] theorem slot_count (l : Limiter) (notice : Slot.Notice) (tag : Tag) :
    (l.count notice).slot tag = l.slot tag := rfl

theorem slot_setSlot (l : Limiter) (tag other : Tag) (slot : Slot) :
    (l.setSlot tag slot).slot other = if other = tag then slot else l.slot other := by
  simp only [Limiter.slot, slot?, setSlot, lookup_putSlot]
  split <;> rfl

@[simp] theorem slot_setSlot_self (l : Limiter) (tag : Tag) (slot : Slot) :
    (l.setSlot tag slot).slot tag = slot := by
  simp [slot_setSlot]

/-- How many slots hold a waiting task. -/
def waiting (l : Limiter) : Nat := l.slots.countP fun entry => entry.2.pending.isSome

@[simp] theorem waiting_count (l : Limiter) (notice : Slot.Notice) :
    (l.count notice).waiting = l.waiting := rfl

/-- Putting a slot changes the number by what that slot held and holds. -/
theorem waiting_setSlot (l : Limiter) (tag : Tag) (slot : Slot) :
    (l.setSlot tag slot).waiting + (l.slot tag).pending.toList.length =
      l.waiting + slot.pending.toList.length := by
  simp only [waiting, setSlot, Limiter.slot, slot?]
  induction l.slots with
  | nil => cases h : slot.pending <;> simp [putSlot, h]
  | cons entry rest ih =>
      obtain ⟨key, old⟩ := entry
      by_cases h : key = tag
      · subst h
        cases ho : old.pending <;> cases hs : slot.pending <;>
          simp [putSlot, ho, hs]
      · have ne : (tag == key) = false := by simpa using Ne.symm h
        simp only [putSlot, h, if_false, List.lookup_cons, ne, List.countP_cons]
        omega

/-- The snapshots of a limiter show as many waiting tasks. -/
theorem waiting_eq_stats (l : Limiter) :
    l.waiting = l.stats.perTag.countP fun entry => entry.2.hasPending := by
  simp only [waiting, stats, List.countP_map]
  rfl

end Turnstile.Limiter
