import Turnstile.Proofs.Lanes

/-!
Calls that wait for a pool to be idle. What such a call is told stays true once the pool is shut
down: a pool that has nothing left by then accepts nothing more and starts nothing more.
-/
namespace Turnstile

/-- What a call that waited for an idle pool was told. -/
def Stamp.told? : Stamp → Option (Waiter × Bool)
  | .terminated waiter idle => some (waiter, idle)
  | .accepted _ | .started _ | .seen .. => none

/-- Calls that waited for an idle pool and were answered, each with whether it was idle. -/
def History.told (h : History) : List (Waiter × Bool) := h.stamps.filterMap Stamp.told?

namespace Traffic
variable {t t' : Traffic} {concurrency : Nat} {waiter own : Waiter} {idle : Bool}

@[simp] theorem free_waits (t : Traffic) : t.free.waits = t.waits := by
  unfold Traffic.free goOn
  split_ifs <;> rfl

@[simp] theorem free_isShutdown (t : Traffic) : t.free.pool.isShutdown = t.pool.isShutdown := by
  unfold Traffic.free goOn
  split_ifs <;> rfl

theorem free_waiters_subset (t : Traffic) : t.free.pool.waiters ⊆ t.pool.waiters := by
  unfold Traffic.free goOn
  split_ifs
  · exact List.Subset.refl _
  · exact List.Subset.refl _
  · exact List.nil_subset _

theorem free_alarms_le (t : Traffic) : t.free.alarms ≤ t.alarms := by
  unfold Traffic.free goOn
  split_ifs
  · exact le_rfl
  · exact le_rfl
  · exact Multiset.filter_le ..

/-- Freeing a lane answers those who wait only if the pool is idle by that. -/
theorem answered_of_free (h : .terminated waiter idle ∈ t.free.stamps) :
    .terminated waiter idle ∈ t.stamps ∨ waiter ∈ t.pool.waiters ∧ t.free.pool.isIdle = true := by
  unfold Traffic.free goOn at *
  split_ifs at * with left busy
  · exact .inl h
  · exact .inl h
  · rcases List.mem_append.1 h with old | new
    · exact .inl old
    · obtain ⟨w, waits, told⟩ := List.mem_map.1 new
      cases told
      refine .inr ⟨waits, Pool.isIdle_iff.2 ⟨Nat.eq_zero_of_not_pos busy, ?_⟩⟩
      simpa using left

/-- Calls that wait or were answered have numbers that were given already. -/
structure Awaited (t : Traffic) : Prop where
  waiting : ∀ waiter ∈ t.pool.waiters, waiter < t.waits
  armed : ∀ waiter ∈ t.alarms, waiter < t.waits
  answered : ∀ waiter idle, .terminated waiter idle ∈ t.stamps → waiter < t.waits

namespace Awaited

/-- Nobody else waits, and these stamps are of works. -/
theorem next (h : t.Awaited) {stamps : List Stamp} (waiters : t'.pool.waiters = t.pool.waiters)
    (alarms : t'.alarms = t.alarms) (waits : t'.waits = t.waits)
    (more : t'.stamps = t.stamps ++ stamps)
    (silent : ∀ waiter idle, .terminated waiter idle ∉ stamps) : t'.Awaited where
  waiting := by rw [waiters, waits]; exact h.waiting
  armed := by rw [alarms, waits]; exact h.armed
  answered waiter idle mem := by
    rw [more, List.mem_append] at mem
    rw [waits]
    exact h.answered waiter idle (mem.resolve_right (silent waiter idle))

theorem free (h : t.Awaited) : t.free.Awaited where
  waiting waiter mem := by
    rw [free_waits]
    exact h.waiting waiter (free_waiters_subset t mem)
  armed waiter mem := by
    rw [free_waits]
    exact h.armed waiter (Multiset.mem_of_le (free_alarms_le t) mem)
  answered waiter idle mem := by
    rw [free_waits]
    exact (answered_of_free mem).elim (h.answered waiter idle) fun told =>
      h.waiting waiter told.1

theorem at_start (pool : Pool) (none : pool.waiters = []) :
    Awaited ⟨pool, 0, 0, 0, 0, 0, 0, 0, 0, []⟩ where
  waiting waiter mem := by simp [none] at mem
  armed waiter mem := absurd mem (Multiset.notMem_zero _)
  answered waiter idle mem := absurd mem List.not_mem_nil

end Awaited

theorem Step.awaited (h : Step t t') (awaited : t.Awaited) : t'.Awaited := by
  cases h with
  | accept accepted later fresh =>
      obtain ⟨-, rfl⟩ := Pool.accept_eq_ok accepted
      exact awaited.next rfl rfl rfl rfl (by simp)
  | pump | stop | number =>
      exact awaited.next rfl rfl rfl (List.append_nil _).symm fun _ _ => List.not_mem_nil
  | start pumping next =>
      obtain ⟨-, rest, -, rfl⟩ := Pool.next?_eq_some next
      exact awaited.next rfl rfl rfl rfl (by simp)
  | @fulfilled run runs lane next =>
      have seen : ({ t with runs }.stamp [.seen run .fulfilled]).Awaited :=
        awaited.next rfl rfl rfl rfl (by simp)
      exact seen.free
  | rejected e lane next => exact awaited.next rfl rfl rfl rfl (by simp)
  | @heard failing next =>
      have heard : ({ t with failing } : Traffic).Awaited :=
        awaited.next rfl rfl rfl (List.append_nil _).symm fun _ _ => List.not_mem_nil
      exact heard.free
  | shutdown =>
      exact awaited.next (Pool.shutdown_waiters _) rfl rfl (List.append_nil _).symm
        fun _ _ => List.not_mem_nil
  | wait busy =>
      refine ⟨fun waiter mem => ?_, fun waiter mem => ?_, fun waiter idle mem => ?_⟩
      · rcases List.mem_append.1 mem with old | new
        · exact Nat.lt_succ_of_lt (awaited.waiting waiter old)
        · exact Nat.lt_succ_of_le (List.mem_singleton.1 new).le
      · rcases Multiset.mem_cons.1 mem with rfl | old
        · exact Nat.lt_succ_self _
        · exact Nat.lt_succ_of_lt (awaited.armed waiter old)
      · exact Nat.lt_succ_of_lt (awaited.answered waiter idle mem)
  | pass idle =>
      refine ⟨fun waiter mem => Nat.lt_succ_of_lt (awaited.waiting waiter mem),
        fun waiter mem => Nat.lt_succ_of_lt (awaited.armed waiter mem), fun waiter told mem => ?_⟩
      rcases List.mem_append.1 mem with old | new
      · exact Nat.lt_succ_of_lt (awaited.answered waiter told old)
      · cases List.mem_singleton.1 new
        exact Nat.lt_succ_self _
  | @giveUp own alarms next =>
      refine ⟨fun waiter mem => awaited.waiting waiter (List.mem_of_mem_erase mem),
        fun waiter mem => awaited.armed waiter (next ▸ Multiset.mem_cons_of_mem mem),
        fun waiter told mem => ?_⟩
      rcases List.mem_append.1 mem with old | new
      · exact awaited.answered waiter told old
      · cases List.mem_singleton.1 new
        exact awaited.armed _ (next ▸ Multiset.mem_cons_self own alarms)

/-- The pool is shut down, and idle if this call was told so. -/
structure Closed (waiter : Waiter) (t : Traffic) : Prop where
  down : t.pool.isShutdown = true
  told : .terminated waiter true ∈ t.stamps → t.pool.isIdle = true

theorem Step.isShutdown (h : Step t t') (down : t.pool.isShutdown = true) :
    t'.pool.isShutdown = true := by
  cases h with
  | accept accepted later fresh =>
      obtain ⟨-, rfl⟩ := Pool.accept_eq_ok accepted
      exact down
  | start pumping next =>
      obtain ⟨-, rest, -, rfl⟩ := Pool.next?_eq_some next
      exact down
  | fulfilled | heard => rwa [free_isShutdown]
  | shutdown => exact Pool.shutdown_isShutdown _
  | pump | stop | rejected | wait | pass | giveUp | number => exact down

/-- A pool that is shut down and idle stays so: it has nothing to start, and accepts nothing. -/
theorem Step.isIdle (h : Step t t') (counted : t.Counted concurrency 0)
    (down : t.pool.isShutdown = true) (idle : t.pool.isIdle = true) : t'.pool.isIdle = true := by
  obtain ⟨lanes, queue⟩ := Pool.isIdle_iff.1 idle
  have active := counted.active
  have nothing {run : Run} {runs : Multiset Run} : t.runs ≠ run ::ₘ runs := by
    intro next
    rw [next, Multiset.card_cons] at active
    omega
  cases h with
  | accept accepted later fresh =>
      exact absurd down (ne_true_of_eq_false (Pool.accept_eq_ok accepted).1)
  | start pumping next =>
      obtain ⟨-, rest, left, -⟩ := Pool.next?_eq_some next
      exact absurd (left.symm.trans queue) (List.cons_ne_nil _ _)
  | fulfilled lane next => exact absurd next nothing
  | rejected e lane next => exact absurd next nothing
  | heard next => omega
  | shutdown => exact (Pool.shutdown_isIdle _).trans idle
  | pump | stop | wait | pass | giveUp | number => exact idle

/-- What a step tells a call that waits is so after the step. -/
theorem Step.told (h : Step t t') (untold : .terminated waiter true ∉ t.stamps)
    (told : .terminated waiter true ∈ t'.stamps) : t'.pool.isIdle = true := by
  -- Stamps of works tell nobody anything.
  have earlier {stamps : List Stamp} (silent : .terminated waiter true ∉ stamps)
      (told : .terminated waiter true ∈ t.stamps ++ stamps) : False :=
    (List.mem_append.1 told).elim untold silent
  cases h with
  | fulfilled lane next => exact ((answered_of_free told).resolve_left (earlier (by simp))).2
  | heard next => exact ((answered_of_free told).resolve_left untold).2
  | pass idle => exact idle
  | accept | start | rejected | giveUp => exact (earlier (by simp) told).elim
  | pump | stop | shutdown | wait | number => exact absurd told untold

theorem Step.closed (h : Step t t') (counted : t.Counted concurrency 0)
    (closed : t.Closed waiter) : t'.Closed waiter := by
  refine ⟨h.isShutdown closed.down, fun told => ?_⟩
  by_cases earlier : .terminated waiter true ∈ t.stamps
  · exact h.isIdle counted closed.down (closed.told earlier)
  · exact h.told earlier told

/-- The pool is shut down and has accepted just these works. -/
def Shut (works : List Work) (t : Traffic) : Prop :=
  t.pool.isShutdown = true ∧ t.stamps.filterMap Stamp.accepted? = works

theorem Step.shut {works : List Work} (h : Step t t') (shut : t.Shut works) : t'.Shut works := by
  refine ⟨h.isShutdown shut.1, ?_⟩
  obtain ⟨-, same | ⟨work, -, up, -⟩⟩ := h.accepts
  · exact same.trans shut.2
  · exact absurd shut.1 (ne_true_of_eq_false up)

end Traffic

namespace History
variable {s : System} {p : Pool} {waiter : Waiter} {idle : Bool}

theorem mem_told {h : History} :
    (waiter, idle) ∈ h.told ↔ .terminated waiter idle ∈ h.stamps := by
  rw [told, List.mem_filterMap]
  refine ⟨fun ⟨stamp, mem, here⟩ => ?_, fun mem => ⟨_, mem, rfl⟩⟩
  cases stamp <;> cases here
  exact mem

/-- What a call was told is never taken back. -/
theorem told_plays (h : History) (ms : List Move) : h.told ⊆ (h.plays ms).told := by
  obtain ⟨later, more⟩ := notes_plays h ms
  rw [told, told, stamps, stamps, more, List.flatMap_append, List.filterMap_append]
  exact List.subset_append_left ..

theorem awaited (begins : s.Begins) (own : s.pool = some p) (ms : List Move) :
    ∃ pool, ((⟨s, []⟩ : History).plays ms).system.pool = some pool ∧
      (((⟨s, []⟩ : History).plays ms).traffic pool).Lawful ∧
      (((⟨s, []⟩ : History).plays ms).traffic pool).Awaited := by
  obtain ⟨concurrency, logger, rfl, start⟩ := begins.traffic own
  exact passes_induction (fun _ _ _ held step => step.awaited held) ms own
    (start ▸ ⟨by simp, rfl⟩) (start ▸ .at_start _ rfl)

/-- A shutdown makes no stamps. -/
theorem play_shutdown {h : History} {pool : Pool} (hp : h.system.pool = some pool) :
    (h.play .shutdown).system = h.system.setPool pool.shutdown.1 ∧
      (h.play .shutdown).stamps = h.stamps := by
  have reaction : h.system.react .shutdown =
      (h.system.setPool pool.shutdown.1).returned.afterRecords pool.shutdown.2 := by
    change h.system.shutdown = _
    rw [System.shutdown, hp]
  simp [play, reaction, stamps, System.returned, Reaction.afterRecords, Reaction.after]

/-- Whoever begins to wait after a shutdown is told of an idle pool only if it is idle for good. -/
theorem closed_after_shutdown (begins : s.Begins) (own : s.pool = some p)
    (before after : List Move) :
    let now := (⟨s, []⟩ : History).plays before
    let h := (⟨s, []⟩ : History).plays (before ++ .shutdown :: after)
    ∃ pool, h.system.pool = some pool ∧ (h.traffic pool).Closed now.system.waits := by
  intro now h
  obtain ⟨pool, hp, -, awaited⟩ := awaited begins own before
  obtain ⟨system, stamps⟩ := play_shutdown hp
  have later : h = (now.play .shutdown).plays after := plays_append ..
  obtain ⟨same, hs, lawful, lanes⟩ := lanes begins own (before ++ [.shutdown])
  rw [plays_append] at hs lawful lanes
  change (now.play .shutdown).system.pool = some same at hs
  have down : same = pool.shutdown.1 := by
    rw [system] at hs
    exact (Option.some.inj hs).symm
  have closed : ((now.play .shutdown).traffic same).Closed now.system.waits := by
    refine ⟨down ▸ Pool.shutdown_isShutdown _, fun told => ?_⟩
    have earlier : .terminated now.system.waits true ∈ now.stamps := stamps ▸ told
    exact absurd (awaited.answered _ _ earlier) (Nat.lt_irrefl _)
  obtain ⟨last, hl, -, -, closed⟩ := passes_induction
    (P := fun t => t.Lanes p.concurrency ∧ t.Closed now.system.waits)
    (fun _ _ _ held step => ⟨step.lanes held.1, step.closed held.1.counted held.2⟩) after hs
    lawful ⟨lanes, closed⟩
  exact ⟨last, later ▸ hl, later ▸ closed⟩

/-- A pool that is shut down accepts nothing more, whatever happens. -/
theorem accepted_of_isShutdown {h : History} {pool : Pool} (hp : h.system.pool = some pool)
    (lawful : (h.traffic pool).Lawful) (down : pool.isShutdown = true) (more : List Move) :
    (h.plays more).accepted = h.accepted := by
  obtain ⟨later, -, -, shut⟩ := passes_induction (P := Traffic.Shut h.accepted)
    (fun _ _ _ held step => step.shut held) more hp lawful ⟨down, rfl⟩
  exact shut.2

end History
end Turnstile
