import Turnstile.Proofs.Passages
import Turnstile.Proofs.Courses

/-!
A pool starts its works in the order in which it accepted them, each once, and on no more lanes than
it has. Its counters agree with what was started and what has ended.
-/
namespace Turnstile

namespace Stamp

def accepted? : Stamp → Option Work
  | .accepted work => some work
  | .started _ | .seen .. | .terminated .. => none

def started? : Stamp → Option Work
  | .started run => some run.work
  | .accepted _ | .seen .. | .terminated .. => none

def ended? : Stamp → Option Work
  | .seen run _ => some run.work
  | .accepted _ | .started _ | .terminated .. => none

def failed? : Stamp → Option Work
  | .seen run (.rejected _) => some run.work
  | .seen _ .fulfilled | .accepted _ | .started _ | .terminated .. => none

end Stamp

namespace History

/-- Works that the runner has taken, in this order. -/
def accepted (h : History) : List Work := h.stamps.filterMap Stamp.accepted?

def started (h : History) : List Work := h.stamps.filterMap Stamp.started?

/-- Works whose end was seen by whoever started them. -/
def ended (h : History) : List Work := h.stamps.filterMap Stamp.ended?

/-- Those of them that failed. -/
def failed (h : History) : List Work := h.stamps.filterMap Stamp.failed?

/-- Works that were started and whose end was not seen. -/
def unended (h : History) : List Work := h.started.filter (· ∉ h.ended)

/-- Open calls that tell of a failed work. Its lane is free only afterwards. -/
def telling (h : History) : Nat := h.system.stack.countP Frame.tellsFailure

end History

namespace Traffic
variable {t t' : Traffic} {concurrency leaving : Nat}

/-- The counters of the pool agree with its works; so many of its lanes are about to be free. -/
structure Counted (concurrency leaving : Nat) (t : Traffic) : Prop where
  lanes : t.pool.concurrency = concurrency
  queue : t.stamps.filterMap Stamp.accepted? =
    t.stamps.filterMap Stamp.started? ++ t.pool.backlog
  busy : (t.stamps.filterMap Stamp.started? : Multiset Work) =
    t.runs.map Run.work + (t.stamps.filterMap Stamp.ended? : List Work)
  active : t.pool.active = t.runs.card + t.failing + leaving
  within : t.pool.active ≤ concurrency
  completed : (t.stamps.filterMap Stamp.ended?).length = t.pool.completed + t.failing + leaving
  failed : t.pool.failed = (t.stamps.filterMap Stamp.failed?).length
  scheduled : t.pumps = t.pool.pumpScheduled.toNat

/-- Where work is left a pump is to come or under way, or no lane is free. -/
def Supplied (concurrency : Nat) (t : Traffic) : Prop :=
  t.pool.backlog = [] ∨ 0 < t.pumps + t.pumping ∨ concurrency ≤ t.pool.active

/-- Each plain work was accepted once, under a number that was given already. -/
structure Numbered (t : Traffic) : Prop where
  once : ∀ n, (t.stamps.filterMap Stamp.accepted?).count (.plain n) ≤ 1
  fresh : ∀ n, t.tickets ≤ n → (t.stamps.filterMap Stamp.accepted?).count (.plain n) = 0

/-- Answers to those who wait are of no work. -/
theorem filterMap_answers {α : Type} {stamps : List Stamp} {f : Stamp → Option α}
    (silent : ∀ waiter idle, f (.terminated waiter idle) = none)
    (answers : ∀ s ∈ stamps, ∃ waiter idle, s = .terminated waiter idle) :
    stamps.filterMap f = [] := by
  rw [List.filterMap_eq_nil_iff]
  intro s mem
  obtain ⟨waiter, idle, rfl⟩ := answers s mem
  exact silent waiter idle

namespace Counted

theorem schedule (h : t.Counted concurrency leaving) : t.schedule.Counted concurrency leaving :=
  { h with
    scheduled := by
      have scheduled := h.scheduled
      cases hs : t.pool.pumpScheduled <;> simp_all }

theorem answer (h : t.Counted concurrency leaving) {stamps : List Stamp}
    (answers : ∀ s ∈ stamps, ∃ waiter idle, s = .terminated waiter idle) :
    (t.stamp stamps).Counted concurrency leaving := by
  have accepted := filterMap_answers (f := Stamp.accepted?) (fun _ _ => rfl) answers
  have started := filterMap_answers (f := Stamp.started?) (fun _ _ => rfl) answers
  have ended := filterMap_answers (f := Stamp.ended?) (fun _ _ => rfl) answers
  have failed := filterMap_answers (f := Stamp.failed?) (fun _ _ => rfl) answers
  exact { h with
    queue := by simpa [accepted, started] using h.queue
    busy := by simpa [started, ended] using h.busy
    completed := by simpa [ended] using h.completed
    failed := by simpa [failed] using h.failed }

theorem idle (h : t.Counted concurrency leaving) : t.idle.Counted concurrency leaving := by
  have told : (t.stamp (t.pool.waiters.map (Stamp.terminated · true))).Counted concurrency
      leaving := h.answer (by simp)
  exact { told with }

/-- One lane is free again. -/
theorem free (h : t.Counted concurrency 1) : t.free.Counted concurrency 0 := by
  have active := h.active
  have completed := h.completed
  have freed : ({ t with pool := t.pool.free.1 } : Traffic).Counted concurrency 0 :=
    { h with
      active := by simp only [Pool.free]; omega
      within := (Nat.sub_le _ _).trans h.within
      completed := by simp only [Pool.free]; exact completed.trans (by omega) }
  unfold Traffic.free goOn
  split_ifs
  · exact freed.schedule
  · exact freed
  · exact freed.idle

/-- A run whose end is seen is no longer one of those on the lanes. -/
theorem busy_seen {run : Run} {runs : Multiset Run} (h : t.Counted concurrency leaving)
    (next : t.runs = run ::ₘ runs) (outcome : Outcome) :
    ((t.stamp [.seen run outcome]).stamps.filterMap Stamp.started? : Multiset Work) =
      runs.map Run.work +
        ((t.stamp [.seen run outcome]).stamps.filterMap Stamp.ended? : List Work) := by
  have busy := h.busy
  rw [next, Multiset.map_cons] at busy
  simp only [stamp_stamps, List.filterMap_append, List.filterMap_cons, List.filterMap_nil,
    Stamp.started?, Stamp.ended?, List.append_nil, ← Multiset.coe_add, Multiset.coe_singleton, busy,
    ← Multiset.singleton_add]
  abel

end Counted

theorem Step.counted (h : Step t t') (counted : t.Counted concurrency 0) :
    t'.Counted concurrency 0 := by
  have queue := counted.queue
  have busy := counted.busy
  have active := counted.active
  have completed := counted.completed
  have failed := counted.failed
  cases h with
  | @accept work pool tickets accepted later fresh =>
      obtain ⟨-, rfl⟩ := Pool.accept_eq_ok accepted
      have taken : ({ t with
          tickets, pool := { t.pool with backlog := t.pool.backlog ++ [work] } }.stamp
            [.accepted work]).Counted concurrency 0 := { counted with
        queue := by simp [List.filterMap_cons, Stamp.accepted?, Stamp.started?, queue]
        busy := by simp [List.filterMap_cons, Stamp.started?, Stamp.ended?, busy]
        completed := by simpa [List.filterMap_cons, Stamp.ended?] using completed
        failed := by simpa [List.filterMap_cons, Stamp.failed?] using failed }
      exact taken.schedule
  | pump next =>
      exact { counted with
        scheduled := by
          have scheduled := counted.scheduled
          cases hs : t.pool.pumpScheduled <;> simp_all [Pool.pumpBegun] }
  | @start work pool pumping next =>
      obtain ⟨room, rest, order, rfl⟩ := Pool.next?_eq_some next
      exact { counted with
        queue := by simp [List.filterMap_cons, Stamp.accepted?, Stamp.started?, queue, order]
        busy := by
          simp [List.filterMap_cons, Stamp.started?, Stamp.ended?, ← Multiset.coe_add, busy,
            add_comm]
        active := by simp [active]; omega
        within := counted.lanes ▸ room
        completed := by simpa [List.filterMap_cons, Stamp.ended?] using completed
        failed := by simpa [List.filterMap_cons, Stamp.failed?] using failed }
  | stop last full => exact { counted with }
  | @fulfilled run runs lane next =>
      have seen : ({ t with runs }.stamp [.seen run .fulfilled]).Counted concurrency 1 := {
        counted with
        queue := by simpa [List.filterMap_cons, Stamp.accepted?, Stamp.started?] using queue
        busy := counted.busy_seen next _
        active := by simp [active, next]; omega
        completed := by simp [Stamp.ended?, completed]
        failed := by simpa [List.filterMap_cons, Stamp.failed?] using failed }
      exact seen.free
  | @rejected run runs e lane next =>
      exact { counted with
        queue := by
          simpa [Pool.fail, List.filterMap_cons, Stamp.accepted?, Stamp.started?] using queue
        busy := counted.busy_seen next _
        active := by simp [Pool.fail, active, next]; omega
        completed := by simp [Pool.fail, Stamp.ended?, completed]; omega
        failed := by simp [Pool.fail, Stamp.failed?, failed] }
  | @heard failing next =>
      have heard : { t with failing }.Counted concurrency 1 := { counted with
        active := by simp [active, next]; omega
        completed := by simp [completed, next]; omega }
      exact heard.free
  | shutdown =>
      unfold Pool.shutdown
      split <;> exact { counted with }
  | wait busy => exact { counted with }
  | pass idle =>
      exact Counted.answer (t := { t with waits := t.waits + 1 }) { counted with } (by simp)
  | @giveUp waiter alarms next =>
      exact Counted.answer (t := { t with pool := t.pool.giveUp waiter, alarms })
        { counted with } (by simp)
  | number => exact { counted with }

theorem schedule_pumps_pos (scheduled : t.pumps = t.pool.pumpScheduled.toNat) :
    0 < t.schedule.pumps := by
  rw [schedule_pumps, scheduled]
  cases t.pool.pumpScheduled <;> decide

theorem free_supplied (scheduled : t.pumps = t.pool.pumpScheduled.toNat) :
    t.free.Supplied concurrency := by
  unfold Traffic.free goOn
  split_ifs with left busy
  · exact .inr (.inl (Nat.add_pos_left (schedule_pumps_pos scheduled) _))
  · exact .inl (by simpa using left)
  · exact .inl (by simpa using left)

theorem Step.supplied (h : Step t t') (counted : t.Counted concurrency 0)
    (supplied : t.Supplied concurrency) : t'.Supplied concurrency := by
  cases h with
  | @accept work pool tickets accepted later fresh =>
      obtain ⟨-, rfl⟩ := Pool.accept_eq_ok accepted
      exact .inr (.inl (Nat.add_pos_left (schedule_pumps_pos counted.scheduled) _))
  | pump next => exact .inr (.inl (Nat.add_pos_right _ (Nat.succ_pos _)))
  | start pumping next => exact .inr (.inl (Nat.add_pos_right _ pumping))
  | stop last full =>
      have left := Pool.next?_eq_none full
      rw [counted.lanes] at left
      exact left.imp_right .inr
  | fulfilled lane next => exact free_supplied counted.scheduled
  | rejected e lane next => exact supplied
  | heard next => exact free_supplied counted.scheduled
  | shutdown =>
      unfold Pool.shutdown
      split <;> exact supplied
  | wait busy | pass idle | giveUp next | number => exact supplied

/-- Freeing a lane answers those who wait, which is of no work. -/
theorem free_accepted (t : Traffic) :
    t.free.stamps.filterMap Stamp.accepted? = t.stamps.filterMap Stamp.accepted? := by
  unfold Traffic.free goOn
  split_ifs
  · rfl
  · rfl
  · simp [List.filterMap_map, Function.comp_def, Stamp.accepted?]

@[simp] theorem free_tickets (t : Traffic) : t.free.tickets = t.tickets := by
  unfold Traffic.free goOn
  split_ifs <;> rfl

/-- At most one more work is accepted, and none after a shutdown. -/
theorem Step.accepts (h : Step t t') : t.tickets ≤ t'.tickets ∧
    (t'.stamps.filterMap Stamp.accepted? = t.stamps.filterMap Stamp.accepted? ∨
      ∃ work, t'.stamps.filterMap Stamp.accepted? = t.stamps.filterMap Stamp.accepted? ++ [work] ∧
        t.pool.isShutdown = false ∧
        ∀ n, work = .plain n → t.tickets ≤ n ∧ n < t'.tickets) := by
  cases h with
  | @accept work pool tickets accepted later fresh =>
      refine ⟨later, .inr ⟨work, ?_, (Pool.accept_eq_ok accepted).1, fresh⟩⟩
      simp [Stamp.accepted?]
  | fulfilled lane next =>
      rw [free_tickets, free_accepted]
      exact ⟨Nat.le_refl _, .inl (by simp [List.filterMap_cons, Stamp.accepted?])⟩
  | heard next =>
      rw [free_tickets, free_accepted]
      exact ⟨Nat.le_refl _, .inl rfl⟩
  | number => exact ⟨Nat.le_succ _, .inl rfl⟩
  | pump | stop | shutdown | wait => exact ⟨Nat.le_refl _, .inl rfl⟩
  | start | rejected | pass | giveUp =>
      exact ⟨Nat.le_refl _, .inl (by simp [List.filterMap_cons, Stamp.accepted?])⟩

theorem Step.numbered (h : Step t t') (numbered : t.Numbered) : t'.Numbered := by
  obtain ⟨later, same | ⟨work, added, -, fresh⟩⟩ := h.accepts
  · exact ⟨fun n => same ▸ numbered.once n,
      fun n late => same ▸ numbered.fresh n (later.trans late)⟩
  · refine ⟨fun n => ?_, fun n late => ?_⟩ <;>
      simp only [added, List.count_append, List.count_singleton, beq_iff_eq]
    · split
      · rename_i plain
        rw [numbered.fresh n (fresh n plain).1]
      · exact numbered.once n
    · rw [numbered.fresh n (later.trans late), if_neg]
      intro plain
      exact absurd (fresh n plain).2 (Nat.not_lt.2 late)

/-- Everything about the lanes that holds whatever happens. -/
structure Lanes (concurrency : Nat) (t : Traffic) : Prop where
  counted : t.Counted concurrency 0
  supplied : t.Supplied concurrency
  numbered : t.Numbered

theorem Step.lanes (h : Step t t') (lanes : t.Lanes concurrency) : t'.Lanes concurrency where
  counted := h.counted lanes.counted
  supplied := h.supplied lanes.counted lanes.supplied
  numbered := h.numbered lanes.numbered

theorem Lanes.at_start (concurrency : Nat) (logger : Option Logging.Threshold) :
    Lanes concurrency ⟨{ concurrency, logger }, 0, 0, 0, 0, 0, 0, 0, 0, []⟩ where
  counted := ⟨rfl, rfl, rfl, rfl, Nat.zero_le _, rfl, rfl, rfl⟩
  supplied := .inl rfl
  numbered := ⟨fun _ => Nat.zero_le _, fun _ _ => rfl⟩

end Traffic

namespace History
variable {s : System} {p : Pool}

/-- A pool that a system begins with is there after every run, with its lanes in order. -/
theorem lanes (begins : s.Begins) (own : s.pool = some p) (ms : List Move) :
    ∃ pool, ((⟨s, []⟩ : History).plays ms).system.pool = some pool ∧
      (((⟨s, []⟩ : History).plays ms).traffic pool).Lawful ∧
      (((⟨s, []⟩ : History).plays ms).traffic pool).Lanes p.concurrency := by
  obtain ⟨concurrency, logger, rfl, start⟩ := begins.traffic own
  exact passes_induction (fun _ _ _ held step => step.lanes held) ms own
    (start ▸ ⟨by simp, rfl⟩) (start ▸ .at_start concurrency logger)

/-- Where each note has as many of these stamps as of this mark, so has a history. -/
theorem count_of_notes {f : Stamp → Option Work} {work : Work} {m : Mark}
    (each : ∀ note : Note, (note.stamps.filterMap f).count work = note.marks.count m)
    (h : History) : (h.stamps.filterMap f).count work = h.admission.times m := by
  change ((h.notes.flatMap Note.stamps).filterMap f).count work =
    (h.notes.flatMap Note.marks).count m
  induction h.notes with
  | nil => rfl
  | cons note rest ih => simp [each, ih]

theorem not_mem_notice {tag own : Tag} {t : Ticket} {notice : Slot.Notice} :
    .accepted tag t ∉ notice.marks own ∧ .started tag t ∉ notice.marks own := by
  unfold Slot.Notice.marks
  split <;> simp

section Counts
variable (h : History) (tag : Tag) (t : Ticket)

/-- What the marks say of a submission that the runner took, the stamps say too. -/
theorem count_accepted : h.accepted.count (.limited tag t) = h.admission.times (.accepted tag t) := by
  refine count_of_notes (fun note => ?_) h
  cases note with
  | accepted work => cases work <;> simp [Note.stamps, Note.marks, Stamp.accepted?, List.count_cons]
  | noticed own notice =>
      simp [Note.stamps, Note.marks, List.count_eq_zero_of_not_mem not_mem_notice.1]
  | offered work => cases work <;> simp [Note.stamps, Note.marks]
  | started run | concluding run =>
      obtain ⟨work, starter⟩ := run
      cases work <;> simp [Note.stamps, Note.marks, Stamp.accepted?, List.filterMap_cons]
  | record | submitted | answered | settled => simp [Note.stamps, Note.marks]
  | seen | terminated => simp [Note.stamps, Note.marks, Stamp.accepted?, List.filterMap_cons]

theorem count_started : h.started.count (.limited tag t) = h.admission.times (.started tag t) := by
  refine count_of_notes (fun note => ?_) h
  cases note with
  | started run =>
      obtain ⟨work, starter⟩ := run
      cases work <;> simp [Note.stamps, Note.marks, Stamp.started?, List.count_cons]
  | noticed own notice =>
      simp [Note.stamps, Note.marks, List.count_eq_zero_of_not_mem not_mem_notice.2]
  | offered work => cases work <;> simp [Note.stamps, Note.marks]
  | accepted work =>
      cases work <;> simp [Note.stamps, Note.marks, Stamp.started?, List.filterMap_cons]
  | concluding run =>
      obtain ⟨work, starter⟩ := run
      cases work <;> simp [Note.stamps, Note.marks]
  | record | submitted | answered | settled => simp [Note.stamps, Note.marks]
  | seen | terminated => simp [Note.stamps, Note.marks, Stamp.started?, List.filterMap_cons]

end Counts

theorem accepted_nodup (begins : s.Begins) (own : s.pool = some p) (ms : List Move) :
    ((⟨s, []⟩ : History).plays ms).accepted.Nodup := by
  obtain ⟨pool, -, -, lanes⟩ := lanes begins own ms
  have balanced := balanced begins ms
  rw [List.nodup_iff_count_le_one]
  rintro (⟨tag, t⟩ | n)
  · have course := balanced.course tag t
    have once := balanced.once tag t
    rw [count_accepted]
    omega
  · exact lanes.numbered.once n

/-- Where works were accepted once, those without an end are those on the lanes. -/
theorem unended_eq {h : History} {rest : List Work} {busy : Multiset Work}
    (once : h.accepted.Nodup) (queue : h.accepted = h.started ++ rest)
    (all : (h.started : Multiset Work) = busy + h.ended) :
    (h.unended : Multiset Work) = busy := by
  have started : (busy + (h.ended : Multiset Work)).Nodup := by
    rw [← all, Multiset.coe_nodup]
    exact (List.nodup_append.1 (queue ▸ once)).1
  have apart : Disjoint busy (h.ended : Multiset Work) := (Multiset.nodup_add.1 started).2.2
  have here : ∀ work ∈ busy, work ∉ h.ended := fun work mem seen =>
    Multiset.disjoint_left.1 apart mem (Multiset.mem_coe.2 seen)
  have gone : ∀ work ∈ (h.ended : Multiset Work), ¬work ∉ h.ended := fun work mem =>
    not_not.2 (Multiset.mem_coe.1 mem)
  have filtered : (h.unended : Multiset Work) =
      (h.started : Multiset Work).filter (· ∉ h.ended) := by
    simp [unended]
  rw [filtered, all, Multiset.filter_add, Multiset.filter_eq_self.2 here,
    Multiset.filter_eq_nil.2 gone, add_zero]

theorem pump_mem {immediates : List Immediate} (some : 0 < immediates.countP Immediate.isPump) :
    .pump ∈ immediates := by
  obtain ⟨immediate, mem, isPump⟩ := List.countP_pos_iff.1 some
  cases immediate with
  | pump => exact mem
  | countdown => cases isPump

/-- The works that a pool has started are the first ones that it accepted, each started once; those
whose lane is not free yet are as many as it counts, and no more than it has lanes. All works that
it accepted wait, are on a lane or are counted as completed, and the count of those that failed is
right while no lane is about to be free. What waits is to be started, or no lane is free for it. -/
theorem works_start_in_order (begins : s.Begins) (own : s.pool = some p) (ms : List Move) :
    let h := (⟨s, []⟩ : History).plays ms
    ∃ pool, h.system.pool = some pool ∧
      h.accepted.Nodup ∧ h.accepted = h.started ++ pool.backlog ∧ h.ended.Subperm h.started ∧
      pool.active = h.unended.length + h.telling ∧ pool.active ≤ p.concurrency ∧
      h.accepted.length = pool.backlog.length + pool.active + pool.completed ∧
      (h.telling = 0 → pool.completed = h.ended.length ∧ pool.failed = h.failed.length) ∧
      (pool.backlog = [] ∨ .pump ∈ h.system.loop.immediates ∨
        (∃ frame ∈ h.system.stack, frame.pumps = true) ∨ pool.active = p.concurrency) := by
  intro h
  obtain ⟨pool, hp, -, lanes⟩ := lanes begins own ms
  have counted : (h.traffic pool).Counted p.concurrency 0 := lanes.counted
  have once : h.accepted.Nodup := accepted_nodup begins own ms
  have queue : h.accepted = h.started ++ pool.backlog := counted.queue
  have busy : (h.started : Multiset Work) = (h.traffic pool).runs.map Run.work + h.ended :=
    counted.busy
  have active : pool.active = (h.traffic pool).runs.card + h.telling := counted.active
  have completed : h.ended.length = pool.completed + h.telling := counted.completed
  have all := congrArg Multiset.card busy
  have unended : h.unended.length = (h.traffic pool).runs.card := by
    have same := congrArg Multiset.card (unended_eq once queue busy)
    rwa [Multiset.coe_card, Multiset.card_map] at same
  refine ⟨pool, hp, once, queue, ?_, unended ▸ active, counted.within, ?_, fun still => ?_, ?_⟩
  · exact Multiset.coe_le.1 (busy ▸ Multiset.le_add_left _ _)
  · rw [Multiset.card_add, Multiset.card_map, Multiset.coe_card, Multiset.coe_card] at all
    rw [queue, List.length_append]
    omega
  · exact ⟨by omega, counted.failed⟩
  · rcases lanes.supplied with empty | pumps | full
    · exact .inl empty
    · refine .inr ((Nat.add_pos_iff_pos_or_pos.1 pumps).imp pump_mem fun goesOn => ?_)
      exact .inl (List.countP_pos_iff.1 goesOn)
    · exact .inr (.inr (.inr (Nat.le_antisymm counted.within full)))

/-- A pool of two lanes. The first work fails while its listeners hand over one more, and two others
are on the lanes by the end. -/
def twoLanes : System := { pool := some { concurrency := 2 } }

def fourWorks : List Move :=
  [.execute, .execute, .execute, .immediate, .reply (.task (.threw (.value .undefined))), .execute,
    .reply (.heard none), .reply (.task (.later 0)), .reply (.task (.later 1))]

theorem twoLanes_begins : twoLanes.Begins where
  limiter := ⟨.number 0, none, [], rfl⟩
  pool _ own := ⟨.number 2, none, by cases own; rfl⟩
  rest := rfl

theorem fourth_work_waits_for_a_lane :
    let h := (⟨twoLanes, []⟩ : History).plays fourWorks
    ∃ pool, h.system.pool = some pool ∧ h.started = [.plain 0, .plain 1, .plain 2] ∧
      pool.backlog = [.plain 3] ∧ pool.active = 2 ∧ pool.completed = 1 ∧ pool.failed = 1 := by
  intro h
  have started : h.started = [.plain 0, .plain 1, .plain 2] := by decide +kernel
  have accepted : h.accepted = [.plain 0, .plain 1, .plain 2, .plain 3] := by decide +kernel
  obtain ⟨pool, hp, -, queue, -, active, -, -, totals, -⟩ :=
    works_start_in_order twoLanes_begins rfl fourWorks
  obtain ⟨completed, failed⟩ := totals (by decide +kernel)
  refine ⟨pool, hp, started, ?_, active.trans (by decide +kernel),
    completed.trans (by decide +kernel), failed.trans (by decide +kernel)⟩
  have split : h.accepted = h.started ++ pool.backlog := queue
  rw [accepted, started] at split
  simpa using split.symm

/-- No work is forgotten. Of the immediates at most one is a pump, and there is one while the pool has
it noted as scheduled. Wherever no call is open, a pool that keeps works waiting has a pump to come or
no lane free; so without a pump to come and without a run, all that was ever accepted was started. -/
theorem waiting_work_has_a_pump (begins : s.Begins) (own : s.pool = some p) (ms : List Move) :
    let h := (⟨s, []⟩ : History).plays ms
    ∃ pool, h.system.pool = some pool ∧
      h.system.loop.immediates.countP Immediate.isPump = pool.pumpScheduled.toNat ∧
      (h.system.stack = [] →
        (pool.backlog ≠ [] → pool.pumpScheduled = true ∨ pool.active = p.concurrency) ∧
        (.pump ∉ h.system.loop.immediates → h.unended = [] →
          pool.backlog = [] ∧ h.started = h.accepted)) := by
  intro h
  obtain ⟨pool, hp, -, lanes⟩ := lanes begins own ms
  have counted : (h.traffic pool).Counted p.concurrency 0 := lanes.counted
  have scheduled : h.system.loop.immediates.countP Immediate.isPump = pool.pumpScheduled.toNat :=
    counted.scheduled
  have queue : h.accepted = h.started ++ pool.backlog := counted.queue
  refine ⟨pool, hp, scheduled, fun closed => ?_⟩
  have served : pool.backlog ≠ [] → pool.pumpScheduled = true ∨ pool.active = p.concurrency := by
    intro waiting
    have none : (h.traffic pool).pumping = 0 := by simp [traffic, System.traffic, closed]
    rcases lanes.supplied with empty | pumps | full
    · exact absurd empty waiting
    · rw [none, add_zero] at pumps
      have some : 0 < pool.pumpScheduled.toNat := scheduled ▸ pumps
      exact .inl (by simpa using Nat.ne_of_gt some)
    · exact .inr (Nat.le_antisymm counted.within full)
  refine ⟨served, fun still ended => ?_⟩
  have all : (h.unended : Multiset Work) = (h.traffic pool).runs.map Run.work :=
    unended_eq (accepted_nodup begins own ms) queue counted.busy
  have free : pool.active = 0 := by
    have runs : (h.traffic pool).runs.card = 0 := by
      rw [← Multiset.card_map Run.work, ← all, ended]
      rfl
    have told : (h.traffic pool).failing = 0 := by simp [traffic, System.traffic, closed]
    have active : pool.active = (h.traffic pool).runs.card + (h.traffic pool).failing :=
      counted.active
    omega
  have empty : pool.backlog = [] := by
    by_contra waiting
    rcases served waiting with set | full
    · exact still (pump_mem (by rw [scheduled, set]; exact Nat.one_pos))
    · obtain ⟨value, logger, made⟩ := begins.pool p own
      have lane := Pool.concurrency_pos made
      omega
  exact ⟨empty, by rw [queue, empty, List.append_nil]⟩

/-- The pool is shut down, and what it keeps is started when the lanes are free. -/
def lastWork : List Move :=
  [.shutdown, .settle 0 .fulfilled, .job, .settle 1 .fulfilled, .job, .immediate,
    .reply (.task (.settled .fulfilled)), .job, .reply (.heard none)]

theorem last_work_is_started_after_shutdown :
    let h := (⟨twoLanes, []⟩ : History).plays (fourWorks ++ lastWork)
    ∃ pool, h.system.pool = some pool ∧ pool.isShutdown = true ∧ pool.backlog = [] ∧
      h.started = [.plain 0, .plain 1, .plain 2, .plain 3] := by
  intro h
  have shut : h.system.pool.map Pool.isShutdown = some true := by decide +kernel
  obtain ⟨pool, hp, -, rest⟩ := waiting_work_has_a_pump twoLanes_begins rfl (fourWorks ++ lastWork)
  have closed : h.system.stack = [] := by decide +kernel
  have still : .pump ∉ h.system.loop.immediates := by
    have none : h.system.loop.immediates = [] := by decide +kernel
    simp [none]
  have ended : h.unended = [] := by decide +kernel
  obtain ⟨empty, started⟩ := (rest closed).2 still ended
  refine ⟨pool, hp, ?_, empty, started.trans (by decide +kernel)⟩
  exact Option.some.inj ((congrArg _ hp).symm.trans shut)

end History
end Turnstile
