import Turnstile.Pool

/-!
Pools: what a new one is, when one is idle, what it accepts and starts, and what a shutdown leaves
as it is.
-/
namespace Turnstile

/-- A number that passes a rule is no smaller than the rule's bound. -/
theorem Config.CountRule.le_of_check {least n : Nat} {v : Value}
    (h : (CountRule.atLeast least).check v = .ok n) : least ≤ n := by
  rw [check.eq_def] at h
  split at h
  · cases h
  · rename_i number _
    split at h
    · rename_i passed
      cases h
      rw [violations, List.append_eq_nil_iff] at passed
      obtain ⟨whole, large⟩ := passed
      cases number with
      | finite q =>
          have den : q.den = 1 := by simpa [Number.isInteger] using whole
          have bound : (least : Rat) ≤ q := by
            simpa [atLeast, Number.lt, Rat.not_lt] using large
          have num : (q.num : Rat) = q := Rat.ext (Rat.num_intCast _) (den ▸ Rat.den_intCast _)
          rw [← num] at bound
          have lower : (least : Int) ≤ q.num := Rat.intCast_le_intCast.1 bound
          simp only [Number.toInt?, den, if_true, Option.getD_some]
          omega
      | nan | infinite => simp [Number.isInteger] at whole
    · cases h
  · cases h

namespace Pool
variable {p q : Pool} {work : Work}

theorem create_eq_ok {concurrency : Value} {logger : Option Logging.Threshold} {p : Pool}
    (h : create concurrency logger = .ok p) : ∃ n, p = { concurrency := n, logger } := by
  rw [create] at h
  cases hc : (Config.checkConcurrency concurrency).orFault "concurrency" with
  | error e => simp [hc, Except.map] at h
  | ok n =>
      simp only [hc, Except.map, Except.ok.injEq] at h
      exact ⟨n, h.symm⟩

/-- A pool has a lane. -/
theorem concurrency_pos {concurrency : Value} {logger : Option Logging.Threshold} {p : Pool}
    (h : create concurrency logger = .ok p) : 0 < p.concurrency := by
  rw [create] at h
  cases hc : Config.checkConcurrency concurrency with
  | error problems => simp [hc, Config.Verdict.orFault, Except.map] at h
  | ok n =>
      simp only [hc, Config.Verdict.orFault, Except.map, Except.ok.injEq] at h
      subst h
      exact Config.CountRule.le_of_check hc

theorem isIdle_iff : p.isIdle = true ↔ p.active = 0 ∧ p.backlog = [] := by
  rw [isIdle, Bool.and_eq_true, beq_iff_eq, List.isEmpty_iff]

theorem accept_eq_ok (h : p.accept work = .ok q) :
    p.isShutdown = false ∧ q = { p with backlog := p.backlog ++ [work] } := by
  rw [accept] at h
  split at h
  · cases h
  · rename_i up
    cases h
    exact ⟨eq_false_of_ne_true up, rfl⟩

theorem accept_of_isShutdown (down : p.isShutdown = true) :
    p.accept work = .error (.shutdown Fault.shutdownMessage) := by
  rw [accept, if_pos down]

theorem next?_eq_some (h : p.next? = some (work, q)) :
    p.active < p.concurrency ∧ ∃ rest, p.backlog = work :: rest ∧
      q = { p with backlog := rest, active := p.active + 1 } := by
  rw [next?] at h
  split at h
  · rename_i room
    split at h
    · rename_i work rest queue
      cases h
      exact ⟨room, rest, queue, rfl⟩
    · cases h
  · cases h

theorem next?_eq_none (h : p.next? = none) : p.backlog = [] ∨ p.concurrency ≤ p.active := by
  rw [next?] at h
  split at h
  · split at h
    · cases h
    · rename_i empty
      exact .inl empty
  · rename_i full
    exact .inr (Nat.le_of_not_lt full)

@[simp] theorem shutdown_isShutdown (p : Pool) : p.shutdown.1.isShutdown = true := by
  rw [shutdown]
  split
  · assumption
  · rfl

@[simp] theorem shutdown_waiters (p : Pool) : p.shutdown.1.waiters = p.waiters := by
  rw [shutdown]
  split <;> rfl

@[simp] theorem shutdown_isIdle (p : Pool) : p.shutdown.1.isIdle = p.isIdle := by
  rw [shutdown]
  split <;> rfl

end Pool
end Turnstile
