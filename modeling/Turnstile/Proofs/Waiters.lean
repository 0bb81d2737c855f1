import Turnstile.Proofs.Clock
import Turnstile.Proofs.Termination

/-!
Calls that wait for a pool to be idle get one answer each, and the right one: whichever comes first,
that the pool is idle or that their time is up. Listeners hear of an idle pool once for each time that
it becomes so.
-/
namespace Turnstile

namespace Traffic
variable {t t' : Traffic} {concurrency : Nat}

/-- Calls that waited and were answered. -/
def answered (t : Traffic) : List Waiter := (t.stamps.filterMap Stamp.told?).map Prod.fst

/-- Those who wait are the calls that were not answered, in the order in which they were made, and
each has a timer. None is answered twice, and none waits for a pool that is idle. -/
structure Attended (t : Traffic) : Prop where
  armed : t.alarms = ↑t.pool.waiters
  waiting : t.pool.waiters = (List.range t.waits).filter (· ∉ t.answered)
  once : t.answered.Nodup
  rested : t.pool.isIdle = true → t.pool.waiters = []

namespace Attended

/-- Nobody else waits, and these stamps are of works. -/
theorem next (h : t.Attended) {stamps : List Stamp} (waiters : t'.pool.waiters = t.pool.waiters)
    (alarms : t'.alarms = t.alarms) (waits : t'.waits = t.waits)
    (more : t'.stamps = t.stamps ++ stamps) (silent : stamps.filterMap Stamp.told? = [])
    (busier : t'.pool.isIdle = true → t.pool.isIdle = true) : t'.Attended := by
  have same : t'.answered = t.answered := by
    rw [answered, more, List.filterMap_append, silent, List.append_nil, answered]
  exact {
    armed := by rw [alarms, waiters, h.armed]
    waiting := by rw [waiters, waits, same, h.waiting]
    once := same ▸ h.once
    rested := fun idle => waiters.trans (h.rested (busier idle)) }

theorem mem_waiters (h : t.Attended) {waiter : Waiter} :
    waiter ∈ t.pool.waiters ↔ waiter < t.waits ∧ waiter ∉ t.answered := by
  rw [h.waiting]
  simp

theorem nodup (h : t.Attended) : t.pool.waiters.Nodup := by
  rw [h.waiting]
  exact List.nodup_range.filter _

/-- All are answered who wait, and nobody waits any more. -/
theorem idle (h : t.Attended) : t.idle.Attended := by
  have more : t.idle.answered = t.answered ++ t.pool.waiters := by
    simp [answered, Stamp.told?, List.filterMap_map, Function.comp_def]
  refine ⟨?_, ?_, ?_, fun _ => rfl⟩
  · change t.alarms.filter (· ∉ t.pool.waiters) = 0
    rw [h.armed]
    exact Multiset.filter_eq_nil.2 fun waiter waits => not_not.2 waits
  · change [] = (List.range t.waits).filter (· ∉ t.idle.answered)
    rw [more, eq_comm, List.filter_eq_nil_iff]
    intro waiter made
    by_cases old : waiter ∈ t.answered
    · simp [old]
    · simp [h.mem_waiters.2 ⟨List.mem_range.1 made, old⟩]
  · rw [more]
    exact h.once.append h.nodup fun waiter old waits => (h.mem_waiters.1 waits).2 old

/-- A lane is free again, from a pool in which it was still busy. -/
theorem free (h : t.Attended) : t.free.Attended := by
  have freed : { t with pool := { t.pool.free.1 with active := t.pool.active } }.Attended :=
    h.next rfl rfl rfl (List.append_nil _).symm rfl id
  unfold Traffic.free goOn
  split_ifs with left busy
  · refine freed.next rfl rfl rfl (List.append_nil _).symm rfl fun idle => ?_
    have empty : t.pool.free.1.backlog = [] := (Pool.isIdle_iff.1 idle).2
    simp [empty] at left
  · refine freed.next rfl rfl rfl (List.append_nil _).symm rfl fun idle => ?_
    exact absurd (Pool.isIdle_iff.1 idle).1 (Nat.ne_of_gt busy)
  · have told := freed.idle
    exact { told with rested := fun _ => rfl }

theorem at_start (pool : Pool) (none : pool.waiters = []) :
    Attended ⟨pool, 0, 0, 0, 0, 0, 0, 0, 0, []⟩ where
  armed := by rw [none]; rfl
  waiting := none
  once := List.nodup_nil
  rested _ := none

/-- The number of the next call is of no call that was answered. -/
theorem fresh (awaited : t.Awaited) : t.waits ∉ t.answered := by
  intro mem
  obtain ⟨⟨waiter, idle⟩, told, rfl⟩ := List.mem_map.1 mem
  obtain ⟨stamp, made, here⟩ := List.mem_filterMap.1 told
  cases stamp with
  | terminated own was =>
      cases here
      exact Nat.lt_irrefl _ (awaited.answered _ _ made)
  | accepted | started | seen => cases here

theorem wait (h : t.Attended) (awaited : t.Awaited) (busy : t.pool.isIdle = false) :
    ({ t with
      pool := { t.pool with waiters := t.pool.waiters ++ [t.waits] }
      waits := t.waits + 1
      alarms := t.waits ::ₘ t.alarms } : Traffic).Attended := by
  refine ⟨?_, ?_, h.once, fun idle => absurd idle (ne_true_of_eq_false busy)⟩
  · simp only [h.armed, ← Multiset.coe_add, ← Multiset.coe_singleton, ← Multiset.singleton_add]
    exact add_comm _ _
  · change t.pool.waiters ++ [t.waits] = (List.range (t.waits + 1)).filter (· ∉ t.answered)
    rw [List.range_succ, List.filter_append, ← h.waiting]
    simp [fresh awaited]

theorem pass (h : t.Attended) (awaited : t.Awaited) :
    ({ t with waits := t.waits + 1 }.stamp [.terminated t.waits true]).Attended := by
  have more : ({ t with waits := t.waits + 1 }.stamp [.terminated t.waits true]).answered =
      t.answered ++ [t.waits] := by
    simp [answered, Stamp.told?]
  refine ⟨h.armed, ?_, ?_, h.rested⟩
  · rw [more, stamp_pool, stamp_waits, List.range_succ, List.filter_append, h.waiting]
    have old : ∀ waiter ∈ List.range t.waits,
        decide (waiter ∉ t.answered ++ [t.waits]) = decide (waiter ∉ t.answered) := by
      intro waiter made
      have other : waiter ≠ t.waits := Nat.ne_of_lt (List.mem_range.1 made)
      simp [other]
    rw [List.filter_congr old]
    simp
  · rw [more]
    exact h.once.append (List.nodup_singleton _) (by simpa using fresh awaited)

theorem giveUp (h : t.Attended) {own : Waiter} {alarms : Multiset Waiter}
    (next : t.alarms = own ::ₘ alarms) :
    ({ t with pool := t.pool.giveUp own, alarms }.stamp [.terminated own false]).Attended := by
  have waits : own ∈ t.pool.waiters := by
    rw [← Multiset.mem_coe, ← h.armed, next]
    exact Multiset.mem_cons_self _ _
  have more : ({ t with pool := t.pool.giveUp own, alarms }.stamp
      [.terminated own false]).answered = t.answered ++ [own] := by
    simp [answered, Stamp.told?]
  refine ⟨?_, ?_, ?_, fun idle => ?_⟩
  · have rest := congrArg (Multiset.erase · own) (h.armed.symm.trans next)
    simpa [Pool.giveUp] using rest.symm
  · have rest : t.pool.waiters.erase own =
        (List.range t.waits).filter (· ∉ t.answered ++ [own]) := by
      rw [h.nodup.erase_eq_filter, h.waiting, List.filter_filter]
      refine List.filter_congr fun waiter _ => ?_
      by_cases same : waiter = own <;> simp [same]
    rw [more]
    exact rest
  · rw [more]
    exact h.once.append (List.nodup_singleton _) (by simpa using (h.mem_waiters.1 waits).2)
  · rw [h.rested idle] at waits
    cases waits

end Attended

theorem Step.attended (h : Step t t') (attended : t.Attended) (awaited : t.Awaited) :
    t'.Attended := by
  cases h with
  | accept accepted later fresh =>
      obtain ⟨-, rfl⟩ := Pool.accept_eq_ok accepted
      refine attended.next rfl rfl rfl rfl rfl fun idle => ?_
      exact absurd (Pool.isIdle_iff.1 idle).2 (by simp)
  | pump next => exact attended.next rfl rfl rfl (List.append_nil _).symm rfl id
  | start pumping next =>
      obtain ⟨-, rest, -, rfl⟩ := Pool.next?_eq_some next
      refine attended.next rfl rfl rfl rfl rfl fun idle => ?_
      exact absurd (Pool.isIdle_iff.1 idle).1 (by simp)
  | stop last full => exact attended.next rfl rfl rfl (List.append_nil _).symm rfl id
  | @fulfilled run runs lane next =>
      have seen : ({ t with runs }.stamp [.seen run .fulfilled]).Attended :=
        attended.next rfl rfl rfl rfl rfl id
      exact seen.free
  | rejected e lane next => exact attended.next rfl rfl rfl rfl rfl id
  | @heard failing next =>
      have heard : ({ t with failing } : Traffic).Attended :=
        attended.next rfl rfl rfl (List.append_nil _).symm rfl id
      exact heard.free
  | shutdown =>
      exact attended.next (Pool.shutdown_waiters _) rfl rfl (List.append_nil _).symm rfl
        fun idle => (Pool.shutdown_isIdle _).symm.trans idle
  | wait busy => exact attended.wait awaited busy
  | pass idle => exact attended.pass awaited
  | giveUp next => exact attended.giveUp next
  | number => exact attended.next rfl rfl rfl (List.append_nil _).symm rfl id

theorem Step.waits_le (h : Step t t') : t.waits ≤ t'.waits := by
  cases h with
  | fulfilled => rw [free_waits, stamp_waits]
  | heard => rw [free_waits]
  | wait | pass => exact Nat.le_succ _
  | accept | pump | start | stop | rejected | shutdown | giveUp | number => exact le_rfl

end Traffic

/-- Whether a move lets the timer fire that is due first. -/
def Move.isTimer : Move → Bool
  | .timer => true
  | _ => false

namespace History
variable {h : History} {s : System} {p pool : Pool} {waiter : Waiter} {concurrency : Nat}

/-- All that a call that waited was told. -/
def answers (h : History) (waiter : Waiter) : List Bool :=
  h.told.filterMap fun answer => if answer.1 = waiter then some answer.2 else none

/-- What a call that waits is to be told over a run: that the pool is idle, or that its time is up,
whichever comes first. -/
def verdict (waiter : Waiter) (h : History) : List Move → Option Bool
  | [] => if h.system.idle then some true else none
  | m :: ms =>
    if h.system.idle then some true
    else if m.isTimer ∧ h.system.timesOut waiter then some false
    else (h.play m).verdict waiter ms

theorem mem_answered (h : History) (pool : Pool) (waiter : Waiter) :
    waiter ∈ (h.traffic pool).answered ↔ h.answers waiter ≠ [] := by
  have same : (h.traffic pool).answered = h.told.map Prod.fst := rfl
  rw [same, List.mem_map, Ne, answers, List.filterMap_eq_nil_iff]
  push Not
  refine exists_congr fun answer => and_congr_right fun _ => ?_
  by_cases own : answer.1 = waiter <;> simp [own]

theorem length_answers {pool : Pool} (once : (h.traffic pool).answered.Nodup) (waiter : Waiter) :
    (h.answers waiter).length ≤ 1 := by
  have count : (h.answers waiter).length = (h.traffic pool).answered.count waiter := by
    have same : (h.traffic pool).answered = h.told.map Prod.fst := rfl
    rw [same, answers]
    induction h.told with
    | nil => rfl
    | cons answer rest ih =>
        by_cases own : answer.1 = waiter <;> simp [own, ih]
  rw [count]
  exact List.nodup_iff_count_le_one.1 once waiter

/-- Answers are only ever added. -/
theorem answers_plays (h : History) (ms : List Move) (waiter : Waiter) :
    ∃ more, (h.plays ms).answers waiter = h.answers waiter ++ more := by
  obtain ⟨later, more⟩ := notes_plays h ms
  rw [answers, answers, told, told, stamps, stamps, more, List.flatMap_append,
    List.filterMap_append, List.filterMap_append]
  exact ⟨_, rfl⟩

/-- A first answer was given in the reaction to the last move. -/
theorem terminated_of_answers {m : Move} {idle : Bool} (unanswered : h.answers waiter = [])
    (told : idle ∈ (h.play m).answers waiter) :
    .terminated waiter idle ∈ (h.system.react m).notes := by
  have added : (waiter, idle) ∈ (h.play m).told := by
    obtain ⟨⟨own, was⟩, mem, here⟩ := List.mem_filterMap.1 told
    split at here <;> cases here
    rename_i same
    cases same
    exact mem
  rw [mem_told, stamps, play, List.flatMap_append, List.mem_append] at added
  rcases added with old | new
  · have before : idle ∈ h.answers waiter :=
      List.mem_filterMap.2 ⟨(waiter, idle), mem_told.2 old, if_pos rfl⟩
    rw [unanswered] at before
    cases before
  · obtain ⟨note, made, mem⟩ := List.mem_flatMap.1 new
    cases note <;> simp [Note.stamps] at mem
    obtain ⟨rfl, rfl⟩ := mem
    exact made

/-- What a reaction tells a call that waits is among its answers. -/
theorem mem_answers_play {m : Move} {idle : Bool}
    (told : .terminated waiter idle ∈ (h.system.react m).notes) :
    idle ∈ (h.play m).answers waiter := by
  have stamped : .terminated waiter idle ∈ (h.play m).stamps := by
    rw [stamps, play, List.flatMap_append, List.mem_append]
    exact .inr (List.mem_flatMap.2 ⟨_, told, List.mem_singleton_self _⟩)
  exact List.mem_filterMap.2 ⟨(waiter, idle), mem_told.2 stamped, if_pos rfl⟩

theorem verdict_of_idle (idle : h.system.idle = true) (ms : List Move) :
    h.verdict waiter ms = some true := by
  cases ms <;> rw [verdict, if_pos idle]

/-- What holds of the pool's side at any point of a run. -/
structure Waited (h : History) (pool : Pool) (concurrency : Nat) : Prop where
  own : h.system.pool = some pool
  lawful : (h.traffic pool).Lawful
  lanes : (h.traffic pool).Lanes concurrency
  awaited : (h.traffic pool).Awaited
  attended : (h.traffic pool).Attended
  punctual : h.system.Punctual

theorem waited_at_start (begins : s.Begins) (own : s.pool = some p) :
    (History.mk s []).Waited p p.concurrency := by
  obtain ⟨concurrency, logger, rfl, start⟩ := begins.traffic own
  have none : s.loop.timers = [] := by rw [begins.rest]
  exact {
    own
    lawful := start ▸ ⟨by simp, rfl⟩
    lanes := start ▸ .at_start concurrency logger
    awaited := start ▸ .at_start _ rfl
    attended := start ▸ .at_start _ rfl
    punctual := by simp [System.Punctual, none] }

theorem Waited.play (w : h.Waited pool concurrency) (m : Move) :
    ∃ later, (h.play m).Waited later concurrency := by
  obtain ⟨later, own, steps, -⟩ := play_passes w.own w.lawful m
  obtain ⟨lawful, lanes, awaited, attended⟩ := steps.keep
    (P := fun t => t.Lawful ∧ t.Lanes concurrency ∧ t.Awaited ∧ t.Attended)
    (fun t t' held step => ⟨step.lawful held.1, step.lanes held.2.1, step.awaited held.2.2.1,
      step.attended held.2.2.2 held.2.2.1⟩)
    ⟨w.lawful, w.lanes, w.awaited, w.attended⟩
  exact ⟨later, own, lawful, lanes, awaited, attended, System.react_punctual w.punctual m⟩

theorem Waited.plays (w : h.Waited pool concurrency) (ms : List Move) :
    ∃ later, (h.plays ms).Waited later concurrency := by
  induction ms generalizing h pool with
  | nil => exact ⟨pool, w⟩
  | cons m ms ih =>
      obtain ⟨later, next⟩ := w.play m
      exact ih next

namespace Waited

theorem waits_play (w : h.Waited pool concurrency) (m : Move) :
    h.system.waits ≤ (h.play m).system.waits := by
  obtain ⟨later, -, steps, -⟩ := play_passes w.own w.lawful m
  exact steps.keep (P := fun t => h.system.waits ≤ t.waits)
    (fun _ _ held step => held.trans step.waits_le) le_rfl

theorem waits_plays (w : h.Waited pool concurrency) (ms : List Move) :
    h.system.waits ≤ (h.plays ms).system.waits := by
  induction ms generalizing h pool with
  | nil => exact le_rfl
  | cons m ms ih =>
      obtain ⟨later, next⟩ := w.play m
      exact (w.waits_play m).trans (ih next)

/-- An answer that was given stays the only one. -/
theorem answers_stay (w : h.Waited pool concurrency) {idle : Bool}
    (told : h.answers waiter = [idle]) (ms : List Move) : (h.plays ms).answers waiter = [idle] := by
  obtain ⟨later, next⟩ := w.plays ms
  obtain ⟨more, added⟩ := answers_plays h ms waiter
  have one := length_answers next.attended.once waiter
  rw [told] at added
  rw [added, List.length_append, List.length_singleton] at one
  have none : more = [] := List.eq_nil_of_length_eq_zero (by omega)
  rw [added, none, List.append_nil]

/-- Nobody waits for a pool that is idle. -/
theorem busy_of_waiting (w : h.Waited pool concurrency) (made : waiter < h.system.waits)
    (unanswered : h.answers waiter = []) : h.system.idle = false := by
  by_contra idle
  rw [Bool.not_eq_false, System.idle_of_pool w.own] at idle
  have waits : waiter ∈ pool.waiters :=
    w.attended.mem_waiters.2 ⟨made, fun told => (mem_answered _ _ _).1 told unanswered⟩
  have none : pool.waiters = [] := w.attended.rested idle
  rw [none] at waits
  cases waits

theorem answer_of_play (w : h.Waited pool concurrency) {m : Move} {idle : Bool} {rest : List Bool}
    (unanswered : h.answers waiter = []) (answered : (h.play m).answers waiter = idle :: rest) :
    (h.play m).answers waiter = [idle] ∧ .terminated waiter idle ∈ (h.system.react m).notes := by
  obtain ⟨later, next⟩ := w.play m
  have one := length_answers next.attended.once waiter
  rw [answered, List.length_cons] at one
  have none : rest = [] := List.eq_nil_of_length_eq_zero (by omega)
  rw [none] at answered
  exact ⟨answered, terminated_of_answers unanswered (answered ▸ List.mem_singleton_self idle)⟩

theorem idle_of_told (w : h.Waited pool concurrency) {m : Move}
    (told : .terminated waiter true ∈ (h.system.react m).notes) :
    (h.play m).system.idle = true := by
  obtain ⟨last, own, -, idle⟩ := play_passes w.own w.lawful m
  have stamped : .terminated waiter true ∈ (h.system.react m).stamps :=
    List.mem_flatMap.2 ⟨_, told, List.mem_singleton_self _⟩
  rw [System.idle_of_pool own]
  exact idle (.inr ⟨waiter, stamped⟩)

/-- The answer to a call that waits is the first of the two: an idle pool, or its timer. -/
theorem answers_eq (w : h.Waited pool concurrency) (made : waiter < h.system.waits)
    (unanswered : h.answers waiter = []) (ms : List Move) :
    (h.plays ms).answers waiter = (h.verdict waiter ms).toList := by
  have busy := w.busy_of_waiting made unanswered
  induction ms generalizing h pool with
  | nil =>
      rw [verdict, busy]
      exact unanswered
  | cons m ms ih =>
      obtain ⟨later, next⟩ := w.play m
      rw [plays_cons, verdict, busy, if_neg Bool.false_ne_true]
      -- Whether its time is up shows in the answers after this move.
      have timer (up : m.isTimer = true ∧ h.system.timesOut waiter) :
          false ∈ (h.play m).answers waiter := by
        have isTimer : m = .timer := by
          cases m with
          | timer => rfl
          | _ => cases up.1
        exact mem_answers_play ((System.mem_notes_timesOut _).2 ⟨isTimer, up.2⟩)
      cases answered : (h.play m).answers waiter with
      | nil =>
          rw [answered] at timer
          rw [if_neg fun up => absurd (timer up) List.not_mem_nil]
          have made' := made.trans_le (w.waits_play m)
          exact ih next made' answered (next.busy_of_waiting made' answered)
      | cons idle rest =>
          obtain ⟨only, told⟩ := w.answer_of_play unanswered answered
          rw [next.answers_stay only ms]
          cases idle with
          | false =>
              obtain ⟨rfl, up⟩ := (System.mem_notes_timesOut _).1 told
              rw [if_pos ⟨rfl, up⟩]
              rfl
          | true =>
              rw [only] at timer
              rw [if_neg fun up => absurd (timer up) (by simp), verdict_of_idle (w.idle_of_told told)]
              rfl

/-- Listeners hear of an idle pool where it has just become so. -/
theorem tells_idle_iff (w : h.Waited pool concurrency) (m : Move) :
    (h.system.react m).signal = .call (.pool .idle) ↔
      h.system.idle = false ∧ (h.play m).system.idle = true := by
  constructor
  · intro told
    obtain ⟨later, own, -, idle⟩ := play_passes w.own w.lawful m
    refine ⟨?_, ?_⟩
    · have active : pool.active = h.system.runs.card + h.telling := w.lanes.counted.active
      have busy : 0 < h.system.runs.card + h.telling := System.busy_of_told _ told
      exact System.not_idle_of_active w.own (active ▸ busy)
    · rw [System.idle_of_pool own]
      exact idle (.inl told)
  · rintro ⟨busy, idle⟩
    refine (h.system.react_told m).resolve_right fun kept => ?_
    exact absurd idle (ne_true_of_eq_false (kept busy))

/-- A call has a timer just as long as it has no answer. -/
theorem unanswered_iff (w : h.Waited pool concurrency) (made : waiter < h.system.waits) :
    h.answers waiter = [] ↔ ∃ timer ∈ h.system.loop.timers, timer.alarm = .giveUp waiter := by
  have waits : h.answers waiter = [] ↔ waiter ∈ pool.waiters := by
    rw [← not_iff_not, ← Ne, ← mem_answered h pool waiter]
    have mem : waiter ∈ pool.waiters ↔ _ := w.attended.mem_waiters
    rw [mem, and_iff_right (show waiter < (h.traffic pool).waits from made), not_not]
  have armed : ↑(h.system.loop.timers.filterMap fun timer => timer.alarm.waiter?) =
      (pool.waiters : Multiset Waiter) := w.attended.armed
  rw [waits, ← Multiset.mem_coe, ← armed, Multiset.mem_coe, List.mem_filterMap]
  refine exists_congr fun timer => and_congr_right fun _ => ?_
  cases timer.alarm <;> simp [Alarm.waiter?]

end Waited

/-- The timers of a call that waits are due at this time. -/
def Due (waiter : Waiter) (due : Nat) (h : History) : Prop :=
  ∀ timer ∈ h.system.loop.timers, timer.alarm = .giveUp waiter → timer.due = due

theorem Waited.due_plays (w : h.Waited pool concurrency) (made : waiter < h.system.waits) {due : Nat}
    (set : h.Due waiter due) (ms : List Move) : (h.plays ms).Due waiter due := by
  induction ms generalizing h pool with
  | nil => exact set
  | cons m ms ih =>
      obtain ⟨later, next⟩ := w.play m
      refine ih next (made.trans_le (w.waits_play m)) fun timer mem own => ?_
      rcases h.system.react_timers mem with old | new
      · exact set timer old own
      · exact absurd own (new waiter made)

/-- A call sets a timer, unless the pool is idle. -/
theorem Waited.due_awaitTermination (w : h.Waited pool concurrency) (timeout : Number) :
    (h.play (.awaitTermination timeout)).Due h.system.waits
      (h.system.loop.now + EventLoop.delay timeout) := by
  intro timer mem own
  rcases (h.system.react_awaitTermination timeout).2 timer mem with old | rfl
  · have waits : h.system.waits ∈ (h.traffic pool).alarms := by
      refine Multiset.mem_coe.2 (List.mem_filterMap.2 ⟨timer, old, ?_⟩)
      rw [own]
      rfl
    exact absurd (w.awaited.armed _ waits) (Nat.lt_irrefl _)
  · rfl

/-- What a call is told right away. -/
theorem Waited.answers_awaitTermination (w : h.Waited pool concurrency) (timeout : Number) :
    (h.play (.awaitTermination timeout)).system.waits = h.system.waits + 1 ∧
      (h.play (.awaitTermination timeout)).answers h.system.waits =
        if h.system.idle then [true] else [] := by
  have fresh : h.answers h.system.waits = [] := by
    by_contra old
    obtain ⟨⟨waiter, idle⟩, told, rfl⟩ := List.mem_map.1 ((mem_answered h pool _).2 old)
    exact Nat.lt_irrefl _ (w.awaited.answered _ idle (mem_told.1 told))
  have reaction : h.system.react (.awaitTermination timeout) =
      h.system.awaitTermination timeout := rfl
  rw [System.awaitTermination, w.own] at reaction
  dsimp only at reaction
  rw [← System.idle_of_pool w.own] at reaction
  rw [answers, told, stamps] at fresh
  rw [answers, told, stamps, History.play, reaction]
  split
  · refine ⟨rfl, ?_⟩
    simp [fresh, System.returned, Reaction.after, Note.stamps, Stamp.told?]
  · refine ⟨rfl, ?_⟩
    simp [fresh, System.returned]

/-- Every call that waits is answered once: that the pool is idle, if it is so at the call or
becomes so before the call's timer fires, and otherwise that its time is up, when its timer fires.
Until then its timer is set, for the time that was asked for. Those who wait are the calls without an
answer, in order, and nobody waits for a pool that is idle. Listeners hear of an idle pool just where
it becomes so. -/
theorem waiting_calls_have_one_answer (begins : s.Begins) (own : s.pool = some p) (ms : List Move) :
    let h := (⟨s, []⟩ : History).plays ms
    ∃ pool, h.system.pool = some pool ∧ (pool.isIdle = true → pool.waiters = []) ∧
      pool.waiters = (List.range h.system.waits).filter (h.answers · = []) ∧
      (∀ m, (h.system.react m).signal = .call (.pool .idle) ↔
        h.system.idle = false ∧ (h.play m).system.idle = true) ∧
      ∀ before timeout after, ms = before ++ .awaitTermination timeout :: after →
        let now := (⟨s, []⟩ : History).plays before
        let waiter := now.system.waits
        h.answers waiter = ((now.play (.awaitTermination timeout)).verdict waiter after).toList ∧
        (h.answers waiter = [] ↔ ∃ timer ∈ h.system.loop.timers, timer.alarm = .giveUp waiter) ∧
        ∀ timer ∈ h.system.loop.timers, timer.alarm = .giveUp waiter →
          timer.due = now.system.loop.now + EventLoop.delay timeout ∧
            h.system.loop.now ≤ timer.due := by
  intro h
  obtain ⟨pool, w⟩ := (waited_at_start begins own).plays ms
  refine ⟨pool, w.own, w.attended.rested, ?_, w.tells_idle_iff, ?_⟩
  · have waiting : pool.waiters = (List.range h.system.waits).filter _ := w.attended.waiting
    rw [waiting]
    refine List.filter_congr fun waiter _ => decide_eq_decide.2 ?_
    rw [mem_answered, not_not]
  · rintro before timeout after rfl now waiter
    obtain ⟨earlier, w'⟩ := (waited_at_start begins own).plays before
    obtain ⟨later, called⟩ := w'.play (.awaitTermination timeout)
    obtain ⟨taken, told⟩ := w'.answers_awaitTermination timeout
    have made : waiter < (now.play (.awaitTermination timeout)).system.waits :=
      taken ▸ Nat.lt_succ_self _
    have run : h = (now.play (.awaitTermination timeout)).plays after := plays_append ..
    have made' : waiter < h.system.waits := run ▸ made.trans_le (called.waits_plays after)
    refine ⟨?_, w.unanswered_iff made', fun timer mem alarm => ⟨?_, w.punctual timer mem⟩⟩
    · rw [run]
      by_cases idle : now.system.idle = true
      · have same : (now.play (.awaitTermination timeout)).system.idle = true :=
          (now.system.awaitTermination_idle timeout).trans idle
        rw [if_pos idle] at told
        rw [called.answers_stay told after, verdict_of_idle same]
        rfl
      · rw [if_neg idle] at told
        exact called.answers_eq made told after
    · exact called.due_plays made (w'.due_awaitTermination timeout) after timer (run ▸ mem) alarm

/-- Two calls wait for the same pool. One is out of time while works are on both lanes; the other one
is still there when the last work has ended. -/
def twoCalls : List Move :=
  [.awaitTermination (.ofInt 100), .awaitTermination (.ofInt 5), .timer, .settle 0 .fulfilled, .job,
    .immediate, .reply (.task (.settled .fulfilled)), .settle 1 .fulfilled, .job, .job]

theorem one_call_is_out_of_time :
    let h := (⟨twoLanes, []⟩ : History).plays (fourWorks ++ twoCalls)
    h.system.idle = true ∧ h.answers 0 = [true] ∧ h.answers 1 = [false] := by
  intro h
  have calls : fourWorks ++ twoCalls = fourWorks ++ .awaitTermination (.ofInt 100) :: twoCalls.tail :=
    rfl
  have again : fourWorks ++ twoCalls = (fourWorks ++ [.awaitTermination (.ofInt 100)]) ++
      .awaitTermination (.ofInt 5) :: twoCalls.tail.tail := rfl
  obtain ⟨pool, -, -, -, -, answers⟩ :=
    waiting_calls_have_one_answer twoLanes_begins rfl (fourWorks ++ twoCalls)
  refine ⟨by decide +kernel, (answers _ _ _ calls).1.trans ?_, (answers _ _ _ again).1.trans ?_⟩
  · decide +kernel
  · decide +kernel

end History
end Turnstile
