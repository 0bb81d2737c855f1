import Mathlib
import Turnstile.Proofs.Checks
import Turnstile.Proofs.Closing
import Turnstile.Proofs.Waiters

/-!
How long closing a bundle waits for its pool. A call that waits is told that its time is up no sooner
than its delay, and only while some work has not ended; if all work has ended by then, it is told so.

The delay is the configured one up to the longest that a timer can be set for, which is less than the
longest that a configuration may ask for. Past that closing waits for one millisecond.
-/
namespace Turnstile

/-- The delay of a timer for a whole number of milliseconds. -/
theorem EventLoop.delay_ofInt {ms : Nat} (positive : 1 ≤ ms) :
    delay (.ofInt ms) = if ms ≤ 2147483647 then ms else 1 := by
  have least : (1 : Rat) ≤ ((ms : Int) : Rat) := by exact_mod_cast positive
  have most : ((ms : Int) : Rat) ≤ (longestDelay : Rat) ↔ ms ≤ 2147483647 := by
    rw [longestDelay]
    norm_cast
  rw [Number.ofInt, delay]
  simp only [least, most, true_and, Rat.floor_intCast, Int.toNat_natCast]

/-- A bundle with a pool of its own waits as long as the settings say that it is made from. -/
theorem Bundle.timeout_of_create {w : Config.World} {options : Bundle.Options} {b : Bundle}
    {settings : Settings} (made : (Bundle.create w options).2 = .ok b)
    (alone : options.runner = none) (configured : (Bundle.settings w options).2 = .ok settings) :
    b.timeout = settings.timeout.toNumber := by
  obtain ⟨given, same, built⟩ := exists_of_bind_eq_ok made
  obtain rfl : settings = given := Except.ok.inj (configured.symm.trans same)
  rw [Bundle.build, alone] at built
  split at built
  all_goals
    obtain ⟨logger, -, built⟩ := exists_of_bind_eq_ok built
    obtain ⟨runner, -, built⟩ := exists_of_bind_eq_ok built
    obtain ⟨⟨limiter, records⟩, -, built⟩ := exists_of_bind_eq_ok built
    cases built
    rfl

namespace History
variable {h : History} {s : System} {p pool : Pool} {waiter : Waiter} {concurrency due : Nat}

/-- All works that the pool has taken have ended. A lane sees the end of its work in the moment in
which the task settles. -/
def Settled (h : History) : Prop := ∀ work ∈ h.accepted, work ∈ h.ended

theorem idle_of_settled (w : h.Waited pool concurrency) (once : h.accepted.Nodup)
    (settled : h.Settled) (quiet : h.system.quiet = true) : h.system.idle = true := by
  have queue : h.accepted = h.started ++ pool.backlog := w.lanes.counted.queue
  have busy : (h.started : Multiset Work) = h.system.runs.map Run.work + h.ended :=
    w.lanes.counted.busy
  have active : pool.active = h.system.runs.card + h.telling := w.lanes.counted.active
  have ended : h.ended ⊆ h.started := by
    intro work mem
    rw [← Multiset.mem_coe, busy, Multiset.mem_add]
    exact .inr mem
  have backlog : pool.backlog = [] := by
    refine List.eq_nil_iff_forall_not_mem.2 fun work waits => ?_
    have apart := (List.nodup_append.1 (queue ▸ once)).2.2
    have early := ended (settled work (queue ▸ List.mem_append_right _ waits))
    exact apart work early work waits rfl
  have runs : h.system.runs.card = 0 := by
    have none : h.unended = [] := List.filter_eq_nil_iff.2 fun work mem => by
      simpa using settled work (queue ▸ List.mem_append_left _ mem)
    have same := unended_eq once queue busy
    rw [none] at same
    simpa using congrArg Multiset.card same.symm
  have telling : h.telling = 0 := by
    have calls : h.system.stack = [] := by
      rw [System.quiet, Bool.and_eq_true] at quiet
      exact List.isEmpty_iff.1 quiet.1
    rw [History.telling, calls]
    rfl
  rw [System.idle_of_pool w.own, Pool.isIdle_iff]
  exact ⟨by omega, backlog⟩

theorem ended_plays (h : History) (ms : List Move) : h.ended ⊆ (h.plays ms).ended := by
  obtain ⟨later, more⟩ := notes_plays h ms
  rw [ended, ended, stamps, stamps, more, List.flatMap_append, List.filterMap_append]
  exact List.subset_append_left ..

theorem now_le_play (h : History) (m : Move) :
    h.system.loop.now ≤ (h.play m).system.loop.now := by
  change _ ≤ (h.system.react m).system.loop.now
  cases dated : m.dates with
  | false => exact (h.system.react_prompt dated).clock.ge
  | true =>
      cases m with
      | awaitTermination ms => exact (h.system.react_awaitTermination ms).1.ge
      | delay promise ms => exact le_rfl
      | timer =>
          rw [System.react, System.runTimer]
          split
          · rename_i promise loop _ fired
            obtain ⟨timer, -, -, now, -⟩ := System.fire?_eq_some fired
            rw [System.returned, (System.settle_like _ promise .fulfilled).1, now]
            exact le_max_left ..
          · rename_i waiter loop _ fired
            obtain ⟨timer, -, -, now, -⟩ := System.fire?_eq_some fired
            exact (le_max_left ..).trans_eq now.symm
          · exact le_rfl
      | elapse ms =>
          rw [System.react, System.elapse]
          split
          · rename_i loop _ passed
            rw [EventLoop.elapse?] at passed
            split at passed <;> cases passed
            exact Nat.le_add_right ..
          · exact le_rfl
      | submit | complete | overwrite | execute | start | shutdown | reply | settle | countdown
      | job | immediate => cases dated

/-- The clock never goes back. -/
theorem now_le_plays (h : History) (ms : List Move) :
    h.system.loop.now ≤ (h.plays ms).system.loop.now := by
  induction ms generalizing h with
  | nil => exact le_rfl
  | cons m ms ih => exact (h.now_le_play m).trans (ih (h.play m))

/-- The timer of a call fires at the time that it was set for. -/
theorem Due.le_now (set : h.Due waiter due) (up : h.system.timesOut waiter) :
    due ≤ (h.play .timer).system.loop.now := by
  obtain ⟨quiet, next⟩ := up
  obtain ⟨⟨alarm, loop⟩, fired, same⟩ := Option.map_eq_some_iff.1 next
  obtain rfl : alarm = .giveUp waiter := same
  obtain ⟨timer, mem, own, now, -⟩ := System.fire?_eq_some fired
  have clock : (h.play .timer).system.loop.now = loop.now := by
    simp [play, System.react, System.runTimer, quiet, fired, System.returned, Reaction.after]
  rw [clock, now, set timer mem own]
  exact le_max_right ..

theorem verdict_eq_false {ms : List Move} (out : h.verdict waiter ms = some false) :
    ∃ first second, ms = first ++ .timer :: second ∧ (h.plays first).system.idle = false ∧
      (h.plays first).system.timesOut waiter := by
  induction ms generalizing h with
  | nil =>
      rw [verdict] at out
      split_ifs at out
      cases out
  | cons m ms ih =>
      rw [verdict] at out
      split_ifs at out with idle up
      · cases out
      · have timer : m = .timer := by
          cases m with
          | timer => rfl
          | _ => cases up.1
        exact ⟨[], ms, by rw [timer]; rfl, Bool.eq_false_iff.2 idle, up.2⟩
      · obtain ⟨first, second, rfl, busy, up⟩ := ih out
        exact ⟨m :: first, second, rfl, busy, up⟩

/-- What is promised to a call that waits until it is due. It is told that its time is up only once
it is, and it is told so then at the latest. If by some moment before all work has ended, it is told
that the pool is idle. -/
structure Honours (h : History) (waiter : Waiter) (due : Nat) (after : List Move) : Prop where
  late : false ∈ (h.plays after).answers waiter → due ≤ (h.plays after).system.loop.now
  answered : due < (h.plays after).system.loop.now → (h.plays after).answers waiter ≠ []
  settled : ∀ first second, after = first ++ second → (h.plays first).system.loop.now < due →
    (h.plays first).Settled → (h.plays after).system.quiet = true →
      (h.plays after).answers waiter = [true]

theorem honours_of_told (told : ∀ ms, (h.plays ms).answers waiter = [true]) (after : List Move) :
    h.Honours waiter due after where
  late out := by simp [told] at out
  answered _ := by simp [told]
  settled _ _ _ _ _ _ := told after

/-- If the time of a call is up, the clock has come to it, and some work had not ended. -/
theorem Waited.out_of_time (w : h.Waited pool concurrency) (made : waiter < h.system.waits)
    (set : h.Due waiter due) (shut : ∀ ms, (h.plays ms).accepted = h.accepted)
    (once : h.accepted.Nodup) {after : List Move} (out : h.verdict waiter after = some false) :
    ∃ first second, after = first ++ .timer :: second ∧
      due ≤ (h.plays (first ++ [.timer])).system.loop.now ∧ ¬(h.plays first).Settled := by
  obtain ⟨first, second, split, busy, up⟩ := verdict_eq_false out
  obtain ⟨_, w'⟩ := w.plays first
  refine ⟨first, second, split, ?_, fun settled => ?_⟩
  · rw [plays_append]
    exact (w.due_plays made set first).le_now up
  · have idle := idle_of_settled w' (shut first ▸ once) settled up.1
    exact absurd idle (ne_true_of_eq_false busy)

/-- What has settled stays so while nothing is accepted. -/
theorem settled_append (shut : ∀ ms, (h.plays ms).accepted = h.accepted) {first : List Move}
    (settled : (h.plays first).Settled) (second : List Move) :
    (h.plays (first ++ second)).Settled := by
  intro work mem
  rw [shut, ← shut first] at mem
  rw [plays_append]
  exact ended_plays _ _ (settled work mem)

/-- A call that waits for a pool that accepts nothing more. -/
theorem Waited.honours (w : h.Waited pool concurrency) (made : waiter < h.system.waits)
    (unanswered : h.answers waiter = []) (set : h.Due waiter due)
    (shut : ∀ ms, (h.plays ms).accepted = h.accepted) (once : h.accepted.Nodup)
    (after : List Move) : h.Honours waiter due after := by
  obtain ⟨later, w'⟩ := w.plays after
  have made' := made.trans_le (w.waits_plays after)
  have fate := w.answers_eq made unanswered after
  have out (told : h.verdict waiter after = some false) := w.out_of_time made set shut once told
  refine ⟨fun told => ?_, fun past none => ?_, fun first second split early settled quiet => ?_⟩
  · rw [fate, Option.mem_toList] at told
    obtain ⟨first, second, rfl, due, -⟩ := out told
    have later := now_le_plays (h.plays (first ++ [.timer])) second
    rw [← plays_append, ← List.append_cons] at later
    exact due.trans later
  · obtain ⟨timer, mem, own⟩ := (w'.unanswered_iff made').1 none
    have time := w.due_plays made set after timer mem own
    exact absurd (w'.punctual timer mem) (Nat.not_le.2 (time ▸ past))
  · have idle := idle_of_settled w' (shut after ▸ once)
      (split ▸ settled_append shut settled second) quiet
    rw [fate]
    cases told : h.verdict waiter after with
    | none =>
        rw [told] at fate
        exact absurd idle (ne_true_of_eq_false (w'.busy_of_waiting made' fate))
    | some idle =>
        cases idle with
        | true => rfl
        | false =>
            -- The time was up before all had settled, so the clock had come to it by then.
            obtain ⟨before, rest, again, due, unsettled⟩ := out told
            obtain ⟨more, rfl, -⟩ | ⟨more, rfl, same⟩ :=
              List.append_eq_append_iff.1 (split.symm.trans again)
            · exact absurd (settled_append shut settled more) unsettled
            · cases more with
              | nil => exact absurd (List.append_nil before ▸ settled) unsettled
              | cons m more =>
                  cases same
                  rw [List.append_cons, plays_append] at early
                  exact absurd (due.trans (now_le_plays _ more)) (Nat.not_le.2 early)

/-- A call that waits right after a shutdown. -/
theorem Waited.honours_after_shutdown (w : h.Waited pool concurrency) (once : h.accepted.Nodup)
    (timeout : Number) (after : List Move) :
    ((h.play .shutdown).play (.awaitTermination timeout)).Honours h.system.waits
      (h.system.loop.now + EventLoop.delay timeout) after := by
  obtain ⟨system, stamps⟩ := play_shutdown w.own
  obtain ⟨later, down⟩ := w.play .shutdown
  obtain ⟨last, called⟩ := down.play (.awaitTermination timeout)
  obtain ⟨taken, told⟩ := down.answers_awaitTermination timeout
  have set := down.due_awaitTermination timeout
  have waits : (h.play .shutdown).system.waits = h.system.waits := by rw [system]; rfl
  have now : (h.play .shutdown).system.loop.now = h.system.loop.now := by rw [system]; rfl
  rw [waits] at taken told
  rw [waits, now] at set
  by_cases idle : (h.play .shutdown).system.idle = true
  · rw [if_pos idle] at told
    exact honours_of_told (called.answers_stay told) after
  · rw [if_neg idle] at told
    have isShutdown : later.isShutdown = true := by
      have same : some later = some pool.shutdown.1 := by
        rw [← down.own, system]
        rfl
      rw [Option.some.inj same]
      exact Pool.shutdown_isShutdown _
    have shut (ms : List Move) : (((h.play .shutdown).play (.awaitTermination timeout)).plays
        ms).accepted = h.accepted := by
      have none : (h.play .shutdown).accepted = h.accepted := by rw [accepted, stamps, accepted]
      rw [← none]
      exact accepted_of_isShutdown down.own down.lawful isShutdown (.awaitTermination timeout :: ms)
    refine called.honours (taken ▸ Nat.lt_succ_self _) told set (fun ms => ?_) ?_ after
    · rw [shut, ← shut []]
      rfl
    · exact shut [] ▸ once

end History

/-- What closing a bundle with a pool of its own comes to. It waits as long as the configuration says
if a timer can be set for so long, and otherwise for one millisecond. -/
theorem Bundle.close_honours_delay {w : Config.World} {options : Bundle.Options} {b : Bundle}
    {settings : Settings} {runnerSection : Value} {lanes ms : Nat}
    (made : (Bundle.create w options).2 = .ok b) (alone : options.runner = none)
    (configured : (Bundle.settings w options).2 = .ok settings)
    (timeout : settings.timeout = .number (.ofInt ms))
    (accepted : Config.checkRunnerSection runnerSection = .ok (lanes, ms))
    (before after : List Move) :
    let call := (⟨b.system, []⟩ : History).plays before
    (call.plays b.closing).Honours call.system.waits
      (call.system.loop.now + if ms ≤ 2147483647 then ms else 1) after := by
  intro call
  obtain ⟨closing, begins, p, own⟩ := begins_of_create made alone
  have positive : 1 ≤ ms := by
    obtain ⟨-, -, states⟩ := Config.checkRunnerSection_eq_ok.1 accepted
    obtain ⟨-, rfl⟩ | ⟨-, positive⟩ := states
    · decide
    · exact positive
  have delay : EventLoop.delay b.timeout = if ms ≤ 2147483647 then ms else 1 := by
    rw [timeout_of_create made alone configured, timeout]
    exact EventLoop.delay_ofInt positive
  obtain ⟨pool, waited⟩ := (History.waited_at_start begins own).plays before
  rw [closing, ← delay]
  exact waited.honours_after_shutdown (History.accepted_nodup begins own before) b.timeout after

/-- If both tasks end in time closing comes out true; if the first one never does, closing waits for a
second. -/
theorem Bundle.close_of_narrow :
    let closed := ((⟨narrow.system, []⟩ : History).plays oneWaiting).plays narrow.closing
    (closed.plays (lastEnds ++ [.reply (.heard none)])).answers 0 = [true] ∧
      1000 ≤ (closed.plays [.immediate, .reply (.task (.later 0)), .timer]).system.loop.now := by
  intro closed
  have made : (Bundle.create {} narrowOptions).2 = .ok narrow := rfl
  have configured :
      (Bundle.settings {} narrowOptions).2 = .ok (.ofValue narrowOptions.settings) := rfl
  have timeout : (Settings.ofValue narrowOptions.settings).timeout = .number (.ofInt (1000 : Nat)) :=
    rfl
  have accepted : Config.checkRunnerSection .undefined = .ok (4, 1000) := rfl
  have honours (after : List Move) : closed.Honours 0 1000 after := by
    have waits : ((⟨narrow.system, []⟩ : History).plays oneWaiting).system.waits = 0 := by
      decide +kernel
    have now : ((⟨narrow.system, []⟩ : History).plays oneWaiting).system.loop.now = 0 := by
      decide +kernel
    have honours := close_honours_delay made rfl configured timeout accepted oneWaiting after
    dsimp only at honours
    rw [waits, now] at honours
    exact honours
  have ended : (closed.plays (lastEnds ++ [.reply (.heard none)])).Settled := by
    rw [History.Settled]
    decide +kernel
  have early : (closed.plays (lastEnds ++ [.reply (.heard none)])).system.loop.now < 1000 := by
    decide +kernel
  have quiet : (closed.plays (lastEnds ++ [.reply (.heard none)])).system.quiet = true := by
    decide +kernel
  have out : false ∈ (closed.plays [.immediate, .reply (.task (.later 0)), .timer]).answers 0 := by
    decide +kernel
  exact ⟨(honours _).settled _ [] (List.append_nil _).symm early ended quiet, (honours _).late out⟩

/-- Options like those of `narrow`, with a time that is longer than any timer. -/
def Bundle.patientOptions : Bundle.Options :=
  { narrowOptions with
    settings := .ofFields [("runnerConcurrency", .number 1),
      ("terminationTimeoutMs", .number 2147483648)] }

def Bundle.patient : Bundle := { narrow with timeout := 2147483648 }

theorem Bundle.not_always_honours_timeout :
    ¬∀ (w : Config.World) (options : Bundle.Options) (b : Bundle) (settings : Settings)
      (runnerSection : Value) (lanes ms : Nat), (Bundle.create w options).2 = .ok b →
      options.runner = none → (Bundle.settings w options).2 = .ok settings →
      settings.timeout = .number (.ofInt ms) →
      Config.checkRunnerSection runnerSection = .ok (lanes, ms) → ∀ before after : List Move,
        let call := (⟨b.system, []⟩ : History).plays before
        (call.plays b.closing).Honours call.system.waits (call.system.loop.now + ms) after := by
  intro always
  have honours := always {} patientOptions patient _
    (.ofFields [("termination_timeout_ms", .number 2147483648)]) 4 2147483648 rfl rfl rfl rfl rfl
    oneWaiting [.timer]
  have late := honours.late (by decide +kernel)
  exact absurd late (by decide +kernel)

end Turnstile
