import Turnstile.Proofs.Coverage
import Turnstile.Proofs.Lanes

/-!
A limiter and its pool agree on what is outstanding: what the slots count is what the pool has
waiting or on its lanes, but for works whose slot knows of their end and that still hold their lane.
-/
namespace Turnstile

/-- Whether the move tells a slot of an end, or sets its count, where the library does not. -/
def Move.meddles : Move → Bool
  | .complete _ | .overwrite .. => true
  | _ => false

/-- Nothing but an answer, or the rest of a pump, comes of the call's return. -/
def Frame.rests : Frame → Prop
  | .message _ _ _ (.answer _) (.submit _) | .idle _ => True
  | _ => False

theorem Work.submission?_eq_some {work : Work} {tag : Tag} {t : Ticket} :
    work.submission? = some (tag, t) ↔ work = .limited tag t := by
  cases work <;> simp [submission?]

namespace Limiter

/-- Sum of the running counts of slots, where all are whole. -/
def sumRunning? : List (Tag × Slot) → Option Int
  | [] => some 0
  | entry :: rest => do
    let running ← entry.2.running.toInt?
    let others ← sumRunning? rest
    pure (running + others)

def totalRunning? (l : Limiter) : Option Int := sumRunning? l.slots

theorem sumRunning?_eq {slots : List (Tag × Slot)} {count : Tag → Nat}
    (counted : ∀ entry ∈ slots, entry.2.running = .ofInt (count entry.1)) :
    sumRunning? slots = some (((slots.map Prod.fst).map count).sum : Nat) := by
  induction slots with
  | nil => rfl
  | cons entry rest ih =>
      have whole : entry.2.running.toInt? = some (count entry.1 : Int) := by
        rw [counted entry List.mem_cons_self]
        rfl
      have others := ih fun other mem => counted other (List.mem_cons_of_mem _ mem)
      simp [sumRunning?, whole, others]

theorem mem_keys_of_running {l : Limiter} {tag : Tag} (busy : (l.slot tag).running ≠ .ofInt 0) :
    tag ∈ l.slots.map Prod.fst := by
  by_contra absent
  have unknown : l.slot? tag = none := by
    rw [slot?, List.lookup_eq_none_iff]
    intro entry mem
    rw [bne_iff_ne]
    rintro rfl
    exact absent (List.mem_map_of_mem mem)
  rw [Limiter.slot, unknown] at busy
  exact busy rfl

end Limiter

section Sums
variable {tags : List Tag} {tickets : Tag → Finset Ticket} {works : List Work}

/-- Works of these tags that are among others are no more than those. -/
theorem sum_card_le (nodup : tags.Nodup)
    (mem : ∀ tag ∈ tags, ∀ t ∈ tickets tag, .limited tag t ∈ works) :
    (tags.map fun tag => (tickets tag).card).sum ≤ works.length := by
  let work (entry : (_ : Tag) × Ticket) : Work := .limited entry.1 entry.2
  rw [← List.sum_toFinset _ nodup, ← Finset.card_sigma]
  refine le_trans (Finset.card_le_card_of_injOn work ?_ ?_) (List.toFinset_card_le works)
  · rintro ⟨tag, t⟩ here
    simp only [Finset.coe_sigma, Set.mem_sigma_iff, Finset.mem_coe, List.mem_toFinset] at here ⊢
    exact mem tag here.1 t here.2
  · rintro ⟨tag, t⟩ - ⟨other, u⟩ - same
    cases same
    rfl

/-- Where there are no others, they are as many. -/
theorem sum_card_eq (nodup : tags.Nodup) (once : works.Nodup)
    (mem : ∀ tag ∈ tags, ∀ t ∈ tickets tag, .limited tag t ∈ works)
    (back : ∀ work ∈ works, ∃ tag ∈ tags, ∃ t ∈ tickets tag, work = .limited tag t) :
    (tags.map fun tag => (tickets tag).card).sum = works.length := by
  let work (entry : (_ : Tag) × Ticket) : Work := .limited entry.1 entry.2
  refine le_antisymm (sum_card_le nodup mem) ?_
  rw [← List.sum_toFinset _ nodup, ← Finset.card_sigma, ← List.toFinset_card_of_nodup once]
  refine Finset.card_le_card_of_surjOn work fun w here => ?_
  obtain ⟨tag, own, t, made, rfl⟩ := back w (List.mem_toFinset.1 here)
  refine ⟨⟨tag, t⟩, ?_, rfl⟩
  simp only [Finset.coe_sigma, Set.mem_sigma_iff, Finset.mem_coe, List.mem_toFinset]
  exact ⟨own, made⟩

end Sums

namespace System
variable {s : System} {tag : Tag} {t : Ticket}

/-- Submissions that were started and whose slot knows of no end are runs. -/
theorem mem_runs_of_inFlight (mem : (tag, t) ∈ s.inFlight) :
    .limited tag t ∈ s.runs.map Run.work := by
  simp only [inFlight, Multiset.mem_add, Multiset.mem_coe, List.mem_filterMap] at mem
  simp only [runs, Multiset.mem_map, Multiset.mem_add, Multiset.mem_coe]
  rcases mem with (⟨frame, mem, here⟩ | ⟨entry, mem, here⟩) | ⟨job, mem, here⟩
  · cases frame with
    | task run =>
        exact ⟨run, .inl (.inl (List.mem_filterMap.2 ⟨_, mem, rfl⟩)),
          Work.submission?_eq_some.1 here⟩
    | message | offer | hand | taskError | idle => cases here
  · exact ⟨entry.2, .inl (.inr (List.mem_map_of_mem mem)), Work.submission?_eq_some.1 here⟩
  · cases job with
    | conclude own ticket starter outcome =>
        cases here
        exact ⟨_, .inr (List.mem_map_of_mem mem), rfl⟩
    | goOn => cases here

/-- Where no call is open and no job is left, slots know of no end of a run. -/
theorem mem_inFlight_of_runs (quiet : s.quiet = true) (mem : .limited tag t ∈ s.runs.map Run.work) :
    (tag, t) ∈ s.inFlight := by
  rw [System.quiet, Bool.and_eq_true, List.isEmpty_iff, List.isEmpty_iff] at quiet
  simp only [runs, quiet.1, quiet.2, Multiset.mem_map, Multiset.mem_add, Multiset.mem_coe] at mem
  simp only [inFlight, Multiset.mem_add, Multiset.mem_coe, List.mem_filterMap]
  obtain ⟨run, here, work⟩ := mem
  simp only [List.filterMap_nil, List.map_nil, List.not_mem_nil, false_or, or_false,
    List.mem_map] at here
  obtain ⟨entry, mem, rfl⟩ := here
  exact .inl (.inr ⟨entry, mem, Work.submission?_eq_some.2 work⟩)

/-- A frame that asks a runner outside is all that offers. -/
theorem not_offering {pool : Pool} {stamps : List Stamp} {marks : List Mark}
    (lawful : (s.traffic pool stamps).Lawful) : (s.admission marks).offering tag t = 0 := by
  refine List.countP_eq_zero.2 fun p mem offers => ?_
  obtain ⟨frame, mem, pause⟩ := List.mem_filterMap.1 mem
  have inside := List.countP_eq_zero.1 lawful.inside frame mem
  cases frame with
  | message tag current rest resume purpose =>
      cases pause
      cases offers
  | offer => exact inside rfl
  | hand | task | taskError | idle => cases pause

end System

namespace History
variable {s : System} {p : Pool} {ms : List Move}

/-- Over a pool, whoever leaves the slots alone does no more than submit. -/
theorem submitting_keeps (begins : s.Begins) (own : s.pool = some p)
    (fair : ∀ m ∈ ms, m.meddles = false) : Conduct.submitting.Keeps ⟨s, []⟩ ms := by
  refine Conduct.keeps_iff.2 fun before m after split d deed => ?_
  obtain ⟨pool, hp, lawful, -⟩ := lanes begins own before
  have alone : m.meddles = false := fair m (split ▸ List.mem_append_right _ List.mem_cons_self)
  unfold System.deed? at deed
  split at deed
  · cases deed
    trivial
  · cases alone
  · cases alone
  · rw [hp] at deed
    cases deed
  · split at deed
    · rename_i stack
      have inside := lawful.inside
      simp [traffic, System.traffic, stack, Frame.asksOutside] at inside
    · cases deed
  · cases deed

/-- Everything that is kept on both sides, while nobody meddles with the slots. -/
structure Paired (h : History) (pool : Pool) (limit concurrency : Nat) : Prop where
  own : h.system.pool = some pool
  lawful : (h.traffic pool).Lawful
  lanes : (h.traffic pool).Lanes concurrency
  once : h.accepted.Nodup
  all : h.admission.Undisturbed limit

theorem paired (begins : s.Begins) (own : s.pool = some p)
    (fair : ∀ m ∈ ms, m.meddles = false) :
    ∃ pool, ∃ limit : Nat, s.limiter.limit = some (.ofInt limit) ∧
      ((⟨s, []⟩ : History).plays ms).Paired pool limit p.concurrency := by
  obtain ⟨pool, hp, lawful, lanes⟩ := lanes begins own ms
  obtain ⟨limit, bound, all⟩ := undisturbed begins (submitting_keeps begins own fair)
  exact ⟨pool, limit, bound, hp, lawful, lanes, accepted_nodup begins own ms, all⟩

/-- Works that the pool has waiting or on a lane. -/
def held (h : History) (pool : Pool) : List Work := pool.backlog ++ h.unended

namespace Paired
variable {h : History} {pool : Pool} {limit concurrency : Nat} {tag : Tag} {t : Ticket}
  (both : h.Paired pool limit concurrency)
include both

theorem queue : h.accepted = h.started ++ pool.backlog := both.lanes.counted.queue

theorem unended_eq_runs : (h.unended : Multiset Work) = h.system.runs.map Run.work :=
  unended_eq both.once both.queue both.lanes.counted.busy

theorem held_nodup : (h.held pool).Nodup := by
  have once := both.once
  rw [both.queue, List.nodup_append_comm] at once
  exact once.sublist ((List.Sublist.refl _).append List.filter_sublist)

/-- A failed work that listeners are being told of holds its lane as well. -/
theorem held_length : (h.held pool).length + h.telling = pool.active + pool.backlog.length := by
  have active : pool.active = h.system.runs.card + h.telling := both.lanes.counted.active
  have unended := congrArg Multiset.card both.unended_eq_runs
  rw [Multiset.coe_card, Multiset.card_map] at unended
  rw [held, List.length_append]
  omega

/-- The pool has the works that are outstanding. -/
theorem mem_held (mem : t ∈ h.admission.outstanding tag) : .limited tag t ∈ h.held pool := by
  obtain ⟨-, taken, unended⟩ := Finset.mem_filter.1 mem
  have unoffered : h.admission.offering tag t = 0 := System.not_offering both.lawful
  rw [unoffered, Nat.add_zero, ← count_accepted, List.count_pos_iff, both.queue,
    List.mem_append] at taken
  rcases taken with started | waiting
  · have flight := both.all.kept.shared.flight tag t
    have called := List.count_pos_iff.2 started
    rw [count_started] at called
    have inFlight : (tag, t) ∈ h.system.inFlight := by
      apply Multiset.count_pos.1
      change 0 < h.admission.inFlight.count (tag, t)
      omega
    apply List.mem_append_right
    rw [← Multiset.mem_coe, both.unended_eq_runs]
    exact System.mem_runs_of_inFlight inFlight
  · exact List.mem_append_left _ waiting

theorem accepted_of_held {work : Work} (mem : work ∈ h.held pool) : work ∈ h.accepted := by
  rw [both.queue, List.mem_append]
  exact (List.mem_append.1 mem).symm.imp_left List.mem_of_mem_filter

/-- Where no call is open and no job is left, the submissions that the pool has are outstanding. -/
theorem outstanding_of_mem_held (quiet : h.system.quiet = true)
    (mem : .limited tag t ∈ h.held pool) : t ∈ h.admission.outstanding tag := by
  have flight := both.all.kept.shared.flight tag t
  have offers := both.all.kept.balanced.offers tag t
  have course := both.all.kept.balanced.course tag t
  have made := both.all.kept.balanced.once tag t
  have apart := both.queue ▸ both.once
  rw [List.nodup_append'] at apart
  have accepted : 0 < h.admission.times (.accepted tag t) ∧
      h.admission.times (.concluded tag t) = 0 := by
    rw [← count_accepted, both.queue, List.count_pos_iff, List.mem_append]
    rcases List.mem_append.1 mem with waiting | onLane
    · have idle : .limited tag t ∉ h.started := fun started => apart.2.2 started waiting
      rw [← count_started, List.count_eq_zero_of_not_mem idle] at flight
      exact ⟨.inr waiting, by omega⟩
    · have started : .limited tag t ∈ h.started := List.mem_of_mem_filter onLane
      rw [← Multiset.mem_coe, both.unended_eq_runs] at onLane
      have inFlight := Multiset.count_pos.2 (System.mem_inFlight_of_runs quiet onLane)
      have one := List.nodup_iff_count_le_one.1 apart.1 (.limited tag t)
      rw [count_started] at one
      refine ⟨.inl started, ?_⟩
      change 0 < h.admission.inFlight.count (tag, t) at inFlight
      omega
  rw [Admission.mem_outstanding both.all.kept.balanced]
  omega

/-- What the slots count is no more than what the pool has, and as much where no call is open and no
job is left, if all works are submissions and counts are exact. -/
theorem total_running : ∃ total : Nat, h.system.limiter.totalRunning? = some (total : Int) ∧
    total ≤ pool.active + pool.backlog.length ∧
    (h.admission.Countable limit → (∀ n, .plain n ∉ h.accepted) → h.system.quiet = true →
      total = pool.active + pool.backlog.length) := by
  choose count counted _ _ using both.all.stocked.settling.within
  have keyed : (h.system.limiter.slots.map Prod.fst).Nodup := both.all.keyed
  have whole : h.system.limiter.totalRunning? =
      some (((h.system.limiter.slots.map Prod.fst).map count).sum : Nat) :=
    Limiter.sumRunning?_eq fun entry mem => by
      rw [← both.all.keyed.slot_of_mem mem]
      exact counted entry.1
  have bound := both.held_length
  refine ⟨_, whole, ?_, fun few limited quiet => ?_⟩
  · have less : ∀ tag ∈ h.system.limiter.slots.map Prod.fst,
        count tag ≤ (h.admission.outstanding tag).card :=
      fun tag _ => both.all.covered tag (count tag) (counted tag)
    have works := sum_card_le keyed fun tag _ t mem => both.mem_held mem
    have sum := List.sum_le_sum less
    omega
  · have exact := both.all.kept.counted few
    have same (tag : Tag) : count tag = (h.admission.outstanding tag).card := by
      have equal := (counted tag).symm.trans (exact.running tag)
      rwa [Number.ofInt_inj, Nat.cast_inj] at equal
    have still : h.telling = 0 := by
      rw [System.quiet, Bool.and_eq_true, List.isEmpty_iff] at quiet
      simp [telling, quiet.1]
    have back : ∀ work ∈ h.held pool, ∃ tag ∈ h.system.limiter.slots.map Prod.fst,
        ∃ t ∈ h.admission.outstanding tag, work = .limited tag t := by
      intro work mem
      cases work with
      | plain n => exact absurd (both.accepted_of_held mem) (limited n)
      | limited tag t =>
          have known := both.outstanding_of_mem_held quiet mem
          refine ⟨tag, Limiter.mem_keys_of_running fun none => ?_, t, known, rfl⟩
          have positive : 0 < (h.admission.outstanding tag).card := Finset.card_pos.2 ⟨t, known⟩
          have zero := (exact.running tag).symm.trans none
          rw [Number.ofInt_inj] at zero
          omega
    have works := sum_card_eq keyed both.held_nodup (fun tag _ t mem => both.mem_held mem) back
    rw [funext same, works]
    omega

section Idle
variable (idle : pool.isIdle = true)
include idle

theorem runs_eq_zero : h.system.runs = 0 ∧ h.telling = 0 := by
  have active : pool.active = h.system.runs.card + h.telling := both.lanes.counted.active
  have none : pool.active = 0 := (Pool.isIdle_iff.1 idle).1
  exact ⟨Multiset.card_eq_zero.1 (by omega), by omega⟩

/-- Open calls are of submissions that only wait for an answer, or tell that the pool is idle. -/
theorem rests {frame : Frame} (mem : frame ∈ h.system.stack) : frame.rests := by
  obtain ⟨none, still⟩ := both.runs_eq_zero idle
  have noRun (run : Run) : frame.run? ≠ some run := by
    intro here
    have among : run ∈ h.system.runs := by
      rw [System.runs, Multiset.mem_add, Multiset.mem_add]
      exact .inl (.inl (Multiset.mem_coe.2 (List.mem_filterMap.2 ⟨frame, mem, here⟩)))
    rw [none] at among
    exact Multiset.notMem_zero _ among
  have inside : frame.asksOutside = false :=
    eq_false_of_ne_true (List.countP_eq_zero.1 both.lawful.inside frame mem)
  have quiet : frame.tellsFailure = false :=
    eq_false_of_ne_true (List.countP_eq_zero.1 still frame mem)
  cases frame with
  | message own current rest resume purpose =>
      have pause : ⟨own, purpose, .heard resume⟩ ∈ h.admission.pauses :=
        List.mem_filterMap.2 ⟨_, mem, rfl⟩
      have leads := both.all.answered.pauses _ pause
      have places := both.all.stocked.settling.kept _ pause
      have works := both.all.ofWorks _ pause
      cases purpose with
      | submit ticket =>
          cases resume with
          | answer queued => trivial
          | place => cases places
          | release | handOver => exact leads.elim
      | complete => exact (works rfl).elim
      | conclude run outcome inCall => exact (noRun run rfl).elim
  | offer | hand => cases inside
  | task run => exact (noRun run rfl).elim
  | taskError => cases quiet
  | idle => trivial

/-- Open steps only wait to answer a submission. -/
theorem pause_answers {p : Pause} (mem : p ∈ h.admission.pauses) :
    ∃ own ticket queued, p = ⟨own, .submit ticket, .heard (.answer queued)⟩ := by
  obtain ⟨frame, here, pause⟩ := List.mem_filterMap.1 mem
  have rests := both.rests idle here
  cases frame with
  | message own current rest resume purpose =>
      cases pause
      cases resume <;> cases purpose <;> first | exact rests.elim | exact ⟨_, _, _, rfl⟩
  | offer | hand | task | taskError => exact rests.elim
  | idle => cases pause

theorem outstanding_eq_empty (tag : Tag) : h.admission.outstanding tag = ∅ := by
  obtain ⟨inactive, empty⟩ := Pool.isIdle_iff.1 idle
  have bound := both.held_length
  rw [inactive, empty, List.length_nil] at bound
  refine Finset.eq_empty_of_forall_notMem fun t mem => ?_
  have positive := List.length_pos_of_mem (both.mem_held mem)
  omega

/-- An idle pool leaves nothing with the slots. -/
theorem drained (tag : Tag) :
    (h.system.limiter.slot tag).running = 0 ∧
      (0 < limit → (h.system.limiter.slot tag).pending = none) := by
  have none : (h.admission.outstanding tag).card = 0 := by
    rw [both.outstanding_eq_empty idle, Finset.card_empty]
  obtain ⟨k, counted, -, -⟩ := both.all.stocked.settling.within tag
  have zero : k = 0 := Nat.eq_zero_of_le_zero (none ▸ both.all.covered tag k counted)
  subst zero
  refine ⟨counted, fun positive => ?_⟩
  by_contra waits
  rcases both.all.stocked.settling.full tag waits with full | ⟨p, mem, hands⟩
  · rw [Admission.Full, both.all.stocked.settling.bound, counted, Limit.isReached_ofInt] at full
    omega
  · obtain ⟨own, ticket, queued, rfl⟩ := both.pause_answers idle mem
    cases hands

end Idle
end Paired

/-- What all slots count is no more than what their pool has waiting and on its lanes, and as much
where no call is open and no job is left, if all works of the pool are submissions. So an idle pool
leaves nothing running and nothing waiting; and whenever somebody is told that it is idle, it is. -/
theorem limiter_and_pool_agree (begins : s.Begins) (own : s.pool = some p)
    (fair : ∀ m ∈ ms, m.meddles = false) :
    let h := (⟨s, []⟩ : History).plays ms
    ∃ pool, h.system.pool = some pool ∧ ∃ limit : Nat, s.limiter.limit = some (.ofInt limit) ∧
      (∃ total : Nat, h.system.limiter.totalRunning? = some (total : Int) ∧
        total ≤ pool.active + pool.backlog.length ∧
        ((limit ≤ Number.lastCount ∨ h.system.tickets ≤ Number.lastCount) →
          (∀ n, .plain n ∉ h.accepted) → h.system.quiet = true →
            total = pool.active + pool.backlog.length)) ∧
      (pool.isIdle = true → ∀ entry ∈ h.system.limiter.slots,
        entry.2.running = 0 ∧ (0 < limit → entry.2.pending = none)) ∧
      ∀ before m, ms = before ++ [m] →
        (((⟨s, []⟩ : History).plays before).system.react m).TellsIdle → pool.isIdle = true := by
  intro h
  obtain ⟨pool, limit, bound, both⟩ := paired begins own fair
  refine ⟨pool, both.own, limit, bound, both.total_running, fun idle entry mem => ?_,
    fun before m split tells => ?_⟩
  · rw [← both.all.keyed.slot_of_mem mem]
    exact both.drained idle entry.1
  · subst split
    obtain ⟨earlier, hp, lawful, -⟩ := lanes begins own before
    obtain ⟨later, hl, -, told⟩ := play_passes hp lawful m
    have same : later = pool := by
      have here := both.own
      rw [plays_append] at here
      exact Option.some.inj (hl.symm.trans here)
    exact same ▸ told tells

/-- A pool of one lane under a limiter that lets one task of a tag run at a time. -/
def oneLane : System :=
  { limiter := { limit := some (.ofInt 1) }, pool := some { concurrency := 1 } }

theorem oneLane_begins : oneLane.Begins where
  limiter := ⟨.number 1, none, [], rfl⟩
  pool _ own := ⟨.number 1, none, by cases own; rfl⟩
  rest := rfl

/-- Two tasks of a tag; the second one waits for the first, and is handed over. -/
def handedOver : List Move :=
  [.submit "t", .reply (.heard none), .submit "t", .reply (.heard none), .immediate,
    .reply (.task (.settled .fulfilled)), .job, .reply (.heard none), .reply (.heard none), .job]

/-- The second task throws, and the last lane is free once listeners have heard of that. -/
def thrown : List Move :=
  [.immediate, .reply (.task (.threw (.value .undefined))), .reply (.heard none), .job]

theorem handed_over_task_is_counted_once :
    let h := (⟨oneLane, []⟩ : History).plays handedOver
    let last := (⟨oneLane, []⟩ : History).plays (handedOver ++ thrown ++ [.reply (.heard none)])
    (∃ pool, h.system.pool = some pool ∧ h.system.limiter.totalRunning? = some 1 ∧
      pool.active + pool.backlog.length = 1) ∧
    ∃ pool, last.system.pool = some pool ∧ pool.isIdle = true ∧
      ∀ entry ∈ last.system.limiter.slots, entry.2.running = 0 ∧ entry.2.pending = none := by
  intro h last
  refine ⟨?_, ?_⟩
  · have fair : ∀ m ∈ handedOver, m.meddles = false := by decide
    obtain ⟨pool, hp, limit, bound, ⟨total, whole, -, agree⟩, -⟩ :=
      limiter_and_pool_agree oneLane_begins rfl fair
    have one : h.system.limiter.totalRunning? = some 1 := by decide +kernel
    have works : h.accepted = [.limited "t" 0, .limited "t" 1] := by decide +kernel
    have same : (total : Int) = 1 := Option.some.inj (whole.symm.trans one)
    refine ⟨pool, hp, one, ?_⟩
    rw [← agree (.inr (by decide +kernel)) (fun n mem => ?_) (by decide +kernel)]
    · omega
    · have absent : .plain n ∉ h.accepted := by simp [works]
      exact absent mem
  · have fair : ∀ m ∈ handedOver ++ thrown ++ [.reply (.heard none)], m.meddles = false := by decide
    obtain ⟨pool, hp, limit, bound, -, drained, -⟩ :=
      limiter_and_pool_agree oneLane_begins rfl fair
    have quiet : last.system.pool.map Pool.isIdle = some true := by decide +kernel
    have idle : pool.isIdle = true := Option.some.inj ((congrArg _ hp).symm.trans quiet)
    obtain rfl : limit = 1 := by
      have same : Number.ofInt (1 : Nat) = .ofInt limit := Option.some.inj bound
      simpa using same.symm
    refine ⟨pool, hp, idle, fun entry mem => ?_⟩
    exact ⟨(drained idle entry mem).1, (drained idle entry mem).2 Nat.one_pos⟩

end History
end Turnstile
