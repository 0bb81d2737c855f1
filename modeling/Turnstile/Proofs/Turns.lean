import Turnstile.Proofs.Calls
import Turnstile.Proofs.Lanes

/-!
Turns. A turn is one callback of the event loop, with all jobs and calls that belong to it. Work that a
pool accepts is started in a later turn, but for one case: a pump that is under way takes up what is
accepted while it goes on, from a task that it calls or from the listeners that hear of its end. Such
work is started in the same turn if the pump comes to it while a lane is free.
-/
namespace Turnstile

/-- A call of a pump is open. -/
def System.pumping (s : System) : Bool := s.stack.any Frame.pumps

/-- With the move a new turn begins. -/
def System.turns (s : System) : Move → Bool
  | .immediate => s.quiet && !s.loop.immediates.isEmpty
  | .timer => s.quiet && s.loop.fire?.isSome
  | _ => false

namespace System
variable {s : System} {m : Move}

theorem turns_of_beginsPump (begins : s.beginsPump m = true) : s.turns m = true := by
  cases m with
  | immediate =>
      obtain ⟨quiet, pump⟩ := Bool.and_eq_true_iff.1 begins
      cases queue : s.loop.immediates with
      | nil => simp [queue] at pump
      | cons immediate rest => simp [turns, quiet, queue]
  | _ => cases begins

/-- Where a pump begins nothing is accepted. -/
theorem accepts_nothing_of_beginsPump (begins : s.beginsPump m = true) :
    (s.react m).stamps.filterMap Stamp.accepted? = [] := by
  cases m with
  | immediate =>
      rw [react, runImmediate]
      split
      · split
        · rw [pump]
          split <;> rfl
        · rfl
        · rfl
      · rfl
  | _ => cases begins

/-- Outside of a pump nothing is started, and none comes to be under way. -/
theorem still (own : s.pool.isSome = true) (calm : s.pumping = false)
    (none : s.beginsPump m = false) :
    (s.react m).system.pumping = false ∧ ∀ run, .started run ∉ (s.react m).notes := by
  rcases s.react_leaves m with leaves | ⟨reply, frame, rest, -, hs, answered⟩
  · rw [none] at leaves
    refine ⟨?_, leaves.starts rfl own⟩
    rcases leaves.stack with ⟨new, stack, pumps⟩ | ⟨stack, -⟩
    · rw [pumping, stack, List.any_cons, pumps, Bool.false_or]
      exact calm
    · rw [pumping, stack]
      exact calm
  · rw [pumping, hs, List.any_cons, Bool.or_eq_false_iff] at calm
    have leaves := goOnFrom_leaves _ answered
    rw [calm.1] at leaves
    refine ⟨?_, leaves.starts rfl own⟩
    rcases leaves.stack with ⟨new, stack, pumps⟩ | ⟨stack, -⟩
    · rw [pumping, stack, List.any_cons, pumps, Bool.false_or]
      exact calm.2
    · rw [pumping, stack]
      exact calm.2

/-- A pump is over where no lane is free or no work is left. -/
theorem drained (under : s.pumping = true) (past : (s.react m).system.pumping = false) :
    (s.react m).system.pool.bind Pool.next? = none := by
  rcases s.react_leaves m with leaves | ⟨reply, frame, rest, -, hs, answered⟩
  · rcases leaves.stack with ⟨new, stack, -⟩ | ⟨stack, -⟩
    · rw [pumping, stack, List.any_cons, Bool.or_eq_false_iff] at past
      exact absurd (under.symm.trans past.2) (by simp)
    · rw [pumping, stack] at past
      exact absurd (under.symm.trans past) (by simp)
  · have leaves := goOnFrom_leaves _ answered
    rw [pumping, hs, List.any_cons, Bool.or_eq_true] at under
    rcases leaves.stack with ⟨new, stack, pumps⟩ | ⟨stack, idle⟩
    · rw [pumping, stack, List.any_cons, Bool.or_eq_false_iff, pumps] at past
      rw [past.1] at under
      exact absurd (under.resolve_left (by simp)) (by simp [past.2])
    · rw [pumping, stack] at past
      exact idle (under.resolve_right (by simp [past]))

end System

namespace History
variable {s : System} {p : Pool} {h : History} {work : Work}

/-- No new turn begins with any of the moves. -/
def SameTurn : History → List Move → Prop
  | _, [] => True
  | h, m :: ms => h.system.turns m = false ∧ SameTurn (h.play m) ms

instance decidableSameTurn : ∀ h ms, Decidable (SameTurn h ms)
  | _, [] => .isTrue trivial
  | h, m :: ms =>
    have := decidableSameTurn (h.play m) ms
    inferInstanceAs (Decidable (h.system.turns m = false ∧ SameTurn (h.play m) ms))

theorem SameTurn.of_append {first rest : List Move} (same : h.SameTurn (first ++ rest)) :
    (h.plays first).SameTurn rest := by
  induction first generalizing h with
  | nil => exact same
  | cons m first ih => exact ih same.2

theorem started_play (h : History) (m : Move) :
    (h.play m).started = h.started ++ (h.system.react m).stamps.filterMap Stamp.started? := by
  simp [started, History.stamps, Reaction.stamps, play]

theorem accepted_play (h : History) (m : Move) :
    (h.play m).accepted = h.accepted ++ (h.system.react m).stamps.filterMap Stamp.accepted? := by
  simp [accepted, History.stamps, Reaction.stamps, play]

theorem starts_nothing {r : Reaction} (none : ∀ run, .started run ∉ r.notes) :
    r.stamps.filterMap Stamp.started? = [] := by
  rw [List.filterMap_eq_nil_iff]
  intro stamp mem
  obtain ⟨note, here, made⟩ := List.mem_flatMap.1 mem
  cases note with
  | started run => exact absurd here (none run)
  | record | submitted | noticed | answered | offered | concluding | settled =>
      simp [Note.stamps] at made
  | accepted | seen | terminated =>
      rw [List.mem_singleton.1 made]
      rfl

/-- A run from the beginning has come to the history. -/
def Reached (s : System) (h : History) : Prop := ∃ ms, h = (⟨s, []⟩ : History).plays ms

namespace Reached
variable (reached : Reached s h)
include reached

theorem play (m : Move) : Reached s (h.play m) := by
  obtain ⟨ms, rfl⟩ := reached
  exact ⟨ms ++ [m], by rw [plays_append]; rfl⟩

theorem plays (ms : List Move) : Reached s (h.plays ms) := by
  obtain ⟨before, rfl⟩ := reached
  exact ⟨before ++ ms, by rw [plays_append]⟩

theorem pool_isSome (begins : s.Begins) (own : s.pool = some p) : h.system.pool.isSome = true := by
  obtain ⟨ms, rfl⟩ := reached
  obtain ⟨pool, hp, -⟩ := lanes begins own ms
  rw [hp, Option.isSome_some]

/-- Work that was started does not wait. -/
theorem not_started_of_waiting (begins : s.Begins) (own : s.pool = some p) {pool : Pool}
    (hp : h.system.pool = some pool) (waits : work ∈ pool.backlog) : work ∉ h.started := by
  obtain ⟨ms, rfl⟩ := reached
  obtain ⟨pool', hp', once, queue, -⟩ := works_start_in_order begins own ms
  obtain rfl : pool = pool' := Option.some.inj (hp.symm.trans hp')
  rw [queue] at once
  exact fun started => (List.nodup_append.1 once).2.2 work started work waits rfl

/-- Only what was accepted is started. -/
theorem accepted_of_started (begins : s.Begins) (own : s.pool = some p) (started : work ∈ h.started) :
    work ∈ h.accepted := by
  obtain ⟨ms, rfl⟩ := reached
  obtain ⟨pool, -, -, queue, -⟩ := works_start_in_order begins own ms
  exact queue ▸ List.mem_append_left _ started

/-- Where a pool has nothing to start, what it accepted was started, or it has no lane free. -/
theorem started_or_full (begins : s.Begins) (own : s.pool = some p)
    (drained : h.system.pool.bind Pool.next? = none) (taken : work ∈ h.accepted) :
    work ∈ h.started ∨ ∃ pool, h.system.pool = some pool ∧ pool.active = p.concurrency ∧
      work ∈ pool.backlog := by
  obtain ⟨ms, rfl⟩ := reached
  obtain ⟨pool, hp, -, lanes⟩ := lanes begins own ms
  have counted := lanes.counted
  have queue : ((⟨s, []⟩ : History).plays ms).accepted =
      ((⟨s, []⟩ : History).plays ms).started ++ pool.backlog := counted.queue
  rcases List.mem_append.1 (queue ▸ taken) with started | left
  · exact .inl started
  · refine .inr ⟨pool, hp, Nat.le_antisymm counted.within ?_, left⟩
    rw [hp] at drained
    rcases Pool.next?_eq_none drained with empty | full
    · exact absurd (empty ▸ left) List.not_mem_nil
    · exact counted.lanes ▸ full

/-- As long as no new turn begins and no pump is under way, nothing is started. -/
theorem started_of_calm (begins : s.Begins) (own : s.pool = some p) {more : List Move}
    (same : h.SameTurn more) (calm : h.system.pumping = false) :
    (h.plays more).started = h.started := by
  induction more generalizing h with
  | nil => rfl
  | cons m more ih =>
      have none : h.system.beginsPump m = false := by
        by_contra pump
        have turns := System.turns_of_beginsPump (Bool.of_not_eq_false pump)
        exact absurd (turns.symm.trans same.1) (by simp)
      obtain ⟨calm', quiet⟩ := System.still (reached.pool_isSome begins own) calm none
      rw [plays_cons, ih (reached.play m) same.2 calm', started_play, starts_nothing quiet,
        List.append_nil]

/-- What is accepted before a pump is over is started by it, unless no lane is free then. -/
theorem started_or_left (begins : s.Begins) (own : s.pool = some p) (m : Move) {more : List Move}
    (same : (h.play m).SameTurn more) (under : h.system.pumping = true)
    (past : ((h.play m).plays more).system.pumping = false) (taken : work ∈ (h.play m).accepted) :
    work ∈ ((h.play m).plays more).started ∨
      ∃ first rest pool, more = first ++ rest ∧
        ((h.play m).plays first).system.pumping = false ∧
        ((h.play m).plays first).system.pool = some pool ∧
        pool.active = p.concurrency ∧ work ∈ pool.backlog := by
  induction more generalizing h m with
  | nil =>
      have drained : (h.play m).system.pool.bind Pool.next? = none := System.drained under past
      rcases (reached.play m).started_or_full begins own drained taken with
        started | ⟨pool, hp, full, left⟩
      · exact .inl started
      · exact .inr ⟨[], [], pool, rfl, past, hp, full, left⟩
  | cons m' more ih =>
      cases still : (h.play m).system.pumping with
      | true =>
          have kept : work ∈ ((h.play m).play m').accepted := by
            rw [accepted_play]
            exact List.mem_append_left _ taken
          rcases ih (reached.play m) m' same.2 still past kept with
            started | ⟨first, rest, pool, rfl, left⟩
          · exact .inl started
          · exact .inr ⟨m' :: first, rest, pool, rfl, left⟩
      | false =>
          have drained : (h.play m).system.pool.bind Pool.next? = none :=
            System.drained under still
          rcases (reached.play m).started_or_full begins own drained taken with
            started | ⟨pool, hp, full, left⟩
          · exact .inl ((reached.play m).started_of_calm begins own same still ▸ started)
          · exact .inr ⟨[], m' :: more, pool, rfl, still, hp, full, left⟩

end Reached

/-- Work that a pool accepts is started in the turn in which it was accepted just if a pump was under
way by then and does not leave it behind, with no lane free. -/
theorem started_in_its_turn_iff (begins : s.Begins) (own : s.pool = some p) (work : Work)
    (before : List Move) (m : Move) (more : List Move)
    (new : work ∉ ((⟨s, []⟩ : History).plays before).accepted)
    (taken : work ∈ (((⟨s, []⟩ : History).plays before).play m).accepted)
    (same : (((⟨s, []⟩ : History).plays before).play m).SameTurn more)
    (past : ((((⟨s, []⟩ : History).plays before).play m).plays more).system.pumping = false) :
    let h := (⟨s, []⟩ : History).plays before
    work ∈ ((h.play m).plays more).started ↔ h.system.pumping = true ∧
      ¬∃ first rest pool, more = first ++ rest ∧
        ((h.play m).plays first).system.pumping = false ∧
        ((h.play m).plays first).system.pool = some pool ∧
        pool.active = p.concurrency ∧ work ∈ pool.backlog := by
  intro h
  have reached : Reached s h := ⟨before, rfl⟩
  constructor
  · intro started
    constructor
    · by_contra calm
      have calm : h.system.pumping = false := Bool.of_not_eq_true calm
      have none : h.system.beginsPump m = false := by
        by_contra pump
        rw [accepted_play, System.accepts_nothing_of_beginsPump (Bool.of_not_eq_false pump),
          List.append_nil] at taken
        exact new taken
      obtain ⟨calm', quiet⟩ := System.still (reached.pool_isSome begins own) calm none
      rw [(reached.play m).started_of_calm begins own same calm', started_play,
        starts_nothing quiet, List.append_nil] at started
      exact new (reached.accepted_of_started begins own started)
    · rintro ⟨first, rest, pool, rfl, calm, hp, -, left⟩
      have reached' := (reached.play m).plays first
      rw [plays_append, reached'.started_of_calm begins own same.of_append calm] at started
      exact reached'.not_started_of_waiting begins own hp left started
  · rintro ⟨under, kept⟩
    exact (reached.started_or_left begins own m same under past taken).resolve_right kept

/-- A work handed over while no pump is under way, and what may come of it in the same turn. -/
def laterWork : List Move := [.settle 0 .fulfilled, .job, .execute]

theorem work_is_started_later :
    let after := ((⟨twoLanes, []⟩ : History).play .execute).plays laterWork
    .plain 0 ∈ after.accepted ∧ .plain 0 ∉ after.started := by
  intro after
  have same : ((⟨twoLanes, []⟩ : History).play .execute).SameTurn laterWork := by decide +kernel
  have past : after.system.pumping = false := by decide +kernel
  have either := started_in_its_turn_iff twoLanes_begins rfl (.plain 0) [] .execute laterWork
    (by decide) (by decide +kernel) same past
  refine ⟨by decide +kernel, fun started => ?_⟩
  obtain ⟨under, -⟩ := either.1 started
  exact absurd under (by decide)

/-- A task on one of two lanes hands over one more work, and the pump that called it starts that one
before the turn is over. -/
theorem not_always_started_later :
    ¬∀ {s : System} {p : Pool} (_ : s.Begins) (_ : s.pool = some p) (work : Work)
      (before : List Move) (m : Move) (more : List Move),
      let h := (⟨s, []⟩ : History).plays before
      work ∉ h.accepted → work ∈ (h.play m).accepted → (h.play m).SameTurn more →
        work ∉ ((h.play m).plays more).started := by
  intro later
  refine later twoLanes_begins rfl (.plain 1) [.execute, .immediate] .execute
    [.reply (.task (.later 0))] ?_ ?_ ?_ ?_ <;> decide +kernel

end History
end Turnstile
