import Mathlib
import Turnstile.Slot

/-!
Counting with numbers of a binary64 cell. Up to `Number.lastCount` every whole number has a cell of
its own; counting up stays there from then on. Limits are compared with counts up to that one only.
-/
namespace Turnstile

namespace Number

/-- The first whole number that has no successor of its own. -/
def lastCount : Nat := 2 ^ 53

@[simp] theorem ofInt_inj {n k : Int} : ofInt n = ofInt k ↔ n = k := by
  simp [ofInt]

theorem nearest_intCast {k : Int} (h : k.natAbs ≤ lastCount) : nearest (k : Rat) = .ofInt k := by
  have whole : isExactInteger (k : Rat) = true := by
    rw [isExactInteger, Bool.and_eq_true, decide_eq_true_eq, decide_eq_true_eq]
    exact ⟨Rat.den_intCast k, h⟩
  simp only [nearest, whole, if_true, ofInt]

theorem ofInt_plus {n k : Int} (h : (n + k).natAbs ≤ lastCount) :
    (ofInt n).plus k = .ofInt (n + k) := by
  simp only [ofInt, plus, ← Int.cast_add]
  exact nearest_intCast h

theorem lastCount_plus_one : (ofInt lastCount).plus 1 = .ofInt lastCount := by
  decide +kernel

theorem ofInt_plus_one {k : Nat} (h : k ≤ lastCount) :
    (ofInt k).plus 1 = .ofInt (min (k + 1) lastCount : Nat) := by
  rcases Nat.lt_or_eq_of_le h with below | rfl
  · rw [Nat.min_eq_left below, ofInt_plus (by omega)]
    rfl
  · rw [Nat.min_eq_right (Nat.le_succ _), lastCount_plus_one]

theorem ofInt_plus_neg_one {k : Nat} (h : k ≤ lastCount) (positive : 0 < k) :
    (ofInt k).plus (-1) = .ofInt (k - 1 : Nat) := by
  rw [ofInt_plus (by omega), ofInt_inj]
  omega

/-- A whole number that has a cell and neighbours, up to the bound. -/
def Whole (bound : Int) (n : Number) : Prop :=
  ∃ k : Int, n = .ofInt k ∧ k ≤ bound ∧ k.natAbs ≤ lastCount

theorem minus_lastCount_plus_neg_one : (ofInt (-lastCount)).plus (-1) = .ofInt (-lastCount) := by
  decide +kernel

theorem Whole.plus_one {bound : Int} {n : Number} (h : n.Whole bound) :
    (n.plus 1).Whole (bound + 1) := by
  obtain ⟨k, rfl, le, small⟩ := h
  by_cases room : (k + 1).natAbs ≤ lastCount
  · exact ⟨k + 1, ofInt_plus room, by omega, room⟩
  · obtain rfl : k = lastCount := by omega
    exact ⟨lastCount, lastCount_plus_one, by omega, small⟩

theorem Whole.plus_neg_one {bound : Int} {n : Number} (h : n.Whole bound) :
    (n.plus (-1)).Whole bound := by
  obtain ⟨k, rfl, le, small⟩ := h
  by_cases room : (k + -1).natAbs ≤ lastCount
  · exact ⟨k + -1, ofInt_plus room, by omega, room⟩
  · obtain rfl : k = -lastCount := by omega
    exact ⟨-lastCount, minus_lastCount_plus_neg_one, le, small⟩

/-- One less than a number that may be as large as one more. -/
theorem Whole.plus_neg_one_of_succ {bound : Int} {n : Number} (h : n.Whole (bound + 1))
    (positive : 0 ≤ bound) : (n.plus (-1)).Whole bound := by
  obtain ⟨k, rfl, le, small⟩ := h
  by_cases room : (k + -1).natAbs ≤ lastCount
  · exact ⟨k + -1, ofInt_plus room, by omega, room⟩
  · obtain rfl : k = -lastCount := by omega
    exact ⟨-lastCount, minus_lastCount_plus_neg_one, by omega, small⟩

@[simp] theorem ofInt_le_zero {k : Nat} : (ofInt k).le 0 = true ↔ k = 0 := by
  simp [ofInt, le]

@[simp] theorem ofInt_below {n k : Nat} : (ofInt n).below (ofInt k) = true ↔ n < k := by
  simp [ofInt, below]

@[simp] theorem ofInt_equals {n k : Nat} : (ofInt n).equals (ofInt k) = true ↔ n = k := by
  simp [equals, ofInt]

end Number

namespace Limit

@[simp] theorem isExceeded_ofInt {n k : Nat} :
    isExceeded (some (.ofInt n)) (.ofInt k) = true ↔ n < k := by
  simp [isExceeded]

theorem isExceeded_of_whole {n : Nat} {running : Number} (h : running.Whole n) :
    isExceeded (some (.ofInt n)) running = false := by
  obtain ⟨k, rfl, le, -⟩ := h
  have kept : (k : Rat) ≤ (n : Rat) := by exact_mod_cast le
  simpa [isExceeded, Number.below, Number.ofInt] using kept

/-- A count within the limit that has not reached it stays within when one is added. -/
theorem whole_plus_one {n : Nat} {running : Number} (h : running.Whole n)
    (room : isReached (some (.ofInt n)) running = false) : (running.plus 1).Whole n := by
  obtain ⟨k, rfl, le, small⟩ := h
  have other : k ≠ n := by
    rintro rfl
    simp [isReached, Number.equals, Number.ofInt] at room
  have exactly : (Number.ofInt k).Whole k := ⟨k, rfl, Int.le_refl k, small⟩
  obtain ⟨j, same, above, few⟩ := exactly.plus_one
  exact ⟨j, same, by omega, few⟩

@[simp] theorem isReached_ofInt {n k : Nat} :
    isReached (some (.ofInt n)) (.ofInt k) = true ↔ n = k := by
  simp [isReached]

end Limit
end Turnstile
