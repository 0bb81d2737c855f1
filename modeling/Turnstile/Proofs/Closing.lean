import Turnstile.Bundle
import Turnstile.Proofs.Agreement
import Turnstile.Proofs.Dispatches
import Turnstile.Proofs.Tallies
import Turnstile.Proofs.Termination

/-!
A bundle that was closed and is told that its pool is idle has nothing left and stays so: all of its
submissions are over, and whatever is submitted afterwards is turned away.
-/
namespace Turnstile

theorem exists_of_bind_eq_ok {α β : Type} {x : Except Fault α} {f : α → Except Fault β} {b : β}
    (h : (x >>= f) = .ok b) : ∃ a, x = .ok a ∧ f a = .ok b := by
  cases x with
  | error e => cases h
  | ok a => exact ⟨a, rfl, h⟩

theorem exists_of_map_eq_ok {α β : Type} {x : Except Fault α} {f : α → β} {b : β}
    (h : f <$> x = .ok b) : ∃ a, x = .ok a ∧ f a = b := by
  cases x with
  | error e => cases h
  | ok a => exact ⟨a, rfl, Except.ok.inj h⟩

/-- A bundle that no runner was passed in for begins with a pool of its own, which closing shuts
down. -/
theorem Bundle.begins_of_create {w : Config.World} {options : Bundle.Options} {b : Bundle}
    (made : (Bundle.create w options).2 = .ok b) (alone : options.runner = none) :
    b.closing = [.shutdown, .awaitTermination b.timeout] ∧ b.system.Begins ∧
      ∃ pool, b.system.pool = some pool := by
  obtain ⟨settings, -, built⟩ := exists_of_bind_eq_ok made
  rw [Bundle.build, alone] at built
  split at built
  all_goals
    obtain ⟨logger, -, built⟩ := exists_of_bind_eq_ok built
    obtain ⟨runner, owned, built⟩ := exists_of_bind_eq_ok built
    obtain ⟨pool, own, rfl⟩ := exists_of_map_eq_ok owned
    obtain ⟨⟨limiter, records⟩, bounded, built⟩ := exists_of_bind_eq_ok built
    cases built
    have begins : System.Begins { limiter, pool := some pool } := {
      limiter := ⟨_, _, _, bounded⟩
      pool := fun p same => ⟨_, _, Option.some.inj same ▸ own⟩
      rest := rfl }
    exact ⟨rfl, begins, pool, rfl⟩

theorem Number.zero_plus_one_plus_neg_one : ((0 : Number).plus 1).plus (-1) = 0 := by
  decide +kernel

namespace System
variable {s : System} {tag : Tag}

/-- All work is over and no more is accepted. -/
structure Drained (s : System) : Prop where
  pool : ∃ pool, s.pool = some pool ∧ pool.isShutdown = true
  limit : ∃ limit : Nat, 0 < limit ∧ s.limiter.limit = some (.ofInt limit)
  slots : ∀ tag, s.limiter.slot tag = {}
  frames : ∀ frame ∈ s.stack, frame.rests
  jobs : s.loop.jobs = []

/-- One more submission was refused, and its slot is empty. -/
def turnedAway (s : System) (tag : Tag) : System :=
  { s with
    tickets := s.tickets + 1
    limiter := (s.limiter.setSlot tag {}).count
      (.rejected s.tickets (.fault (.shutdown Fault.shutdownMessage))) }

/-- A refusal is told in one message. -/
theorem messages_rejected (audience : Audience) (tag : Tag) (t : Ticket) (e : Thrown) :
    ∃ message, ∀ s : System, s.audience = audience →
      s.messages tag (.rejected t e) = (message, []) := by
  cases audience with
  | observer => exact ⟨_, fun s own => by rw [messages, own]⟩
  | listeners =>
      refine ⟨.event (.rejected tag e), fun s own => ?_⟩
      rw [messages, own]
      rfl

theorem offer_of_isShutdown {pool : Pool} (hp : s.pool = some pool)
    (down : pool.isShutdown = true) (tag : Tag) (t : Ticket) (purpose : Purpose) :
    s.offer tag t purpose =
      (s.refused tag t (.fault (.shutdown Fault.shutdownMessage)) purpose).after
        [.offered (.limited tag t)] := by
  rw [offer, hp]
  simp only [Pool.accept_of_isShutdown down]

namespace Drained

/-- There is room for a submission, so it is offered to the runner. -/
theorem offers (d : s.Drained) (tag : Tag) : ∃ records,
    Slot.submit (s.limiter.setting tag) (s.limiter.slot tag) s.tickets =
      .offer { running := (0 : Number).plus 1 } records s.tickets := by
  obtain ⟨limit, positive, bound⟩ := d.limit
  have kept : s.limiter.limit.isExceeded (0 : Number) = false := by
    rw [bound, ← Bool.not_eq_true]
    exact fun exceeded => absurd (Limit.isExceeded_ofInt.1 exceeded) (Nat.not_lt_zero _)
  have room : s.limiter.limit.isReached (0 : Number) = false := by
    rw [bound, ← Bool.not_eq_true]
    exact fun reached => positive.ne' (Limit.isReached_ofInt.1 reached)
  rw [d.slots tag]
  simp [Slot.submit, Slot.place, Limiter.setting, kept, room, Slot.Progress.after]

/-- The submission is refused at once, and will be answered with yes when listeners have heard. -/
theorem submit (d : s.Drained) (tag : Tag) :
    ∃ message, (s.react (.submit tag)).signal = .call (.message message) ∧
      (s.react (.submit tag)).system =
        { s.turnedAway tag with
          stack := .message tag message [] (.answer true) (.submit s.tickets) :: s.stack } := by
  obtain ⟨pool, hp, down⟩ := d.pool
  obtain ⟨records, offers⟩ := d.offers tag
  obtain ⟨message, told⟩ := messages_rejected s.audience tag s.tickets
    (.fault (.shutdown Fault.shutdownMessage))
  have refused := offer_of_isShutdown
    (s := System.setSlot { s with tickets := s.tickets + 1 } tag { running := (0 : Number).plus 1 })
    hp down tag s.tickets (.submit s.tickets)
  refine ⟨message, ?_⟩
  change (s.submit tag).signal = _ ∧ (s.submit tag).system = _
  rw [System.submit, offers, follow, refused]
  simp [System.refused, announce, Slot.refused, setSlot, turnedAway,
    Number.zero_plus_one_plus_neg_one, told, callOut, Reaction.after, Reaction.afterRecords]

end Drained

/-- When listeners have heard, a submission that waits for that is answered, and nothing changes. -/
theorem reply_answers {message : Message} {queued : Bool} {t : Ticket} {rest : List Frame}
    (top : s.stack = .message tag message [] (.answer queued) (.submit t) :: rest)
    (thrown : Option Thrown) :
    (s.react (.reply (.heard thrown))).signal = .answer queued ∧
      (s.react (.reply (.heard thrown))).system =
        System.setSlot { s with stack := rest } tag (s.limiter.slot tag) := by
  change (s.reply (.heard thrown)).signal = _ ∧ (s.reply (.heard thrown)).system = _
  rw [System.reply, top]
  exact ⟨rfl, rfl⟩

theorem pump_limiter (s : System) : s.pump.system.limiter = s.limiter := by
  rw [pump]
  split <;> rfl

theorem leave_limiter (s : System) (inPump : Bool) :
    (s.leave inPump).system.limiter = s.limiter := by
  cases inPump with
  | true => exact pump_limiter s
  | false => rfl

theorem settle_limiter (s : System) (promise : Promise) (outcome : Outcome) :
    (s.settle promise outcome).limiter = s.limiter := by
  rw [settle]
  split <;> rfl

theorem goOnFrom_tally {frame : Frame} {reply : Reply} {r : Reaction} (rests : frame.rests)
    (h : s.goOnFrom frame reply = some r) : r.system.limiter.tally = s.limiter.tally := by
  cases frame with
  | message tag current others resume purpose =>
      cases others <;> cases reply <;> cases h
      · cases resume <;> cases purpose <;> first | exact rests.elim | rfl
      · rfl
  | idle inPump =>
      cases reply <;> cases h
      rw [Reaction.system_afterRecords, leave_limiter]
  | offer | hand | task | taskError => exact rests.elim

namespace Drained

theorem reply (d : s.Drained) (reply : Reply) :
    (s.reply reply).system.limiter.tally = s.limiter.tally := by
  rw [System.reply]
  split
  · rename_i frame rest stack
    have rests : frame.rests := d.frames frame (stack ▸ List.mem_cons_self)
    cases went : ({ s with stack := rest } : System).goOnFrom frame reply with
    | some r =>
        have same := goOnFrom_tally rests went
        exact same
    | none => rfl
  · rfl

theorem job (d : s.Drained) : s.runJob.system = s := by
  rw [runJob]
  split
  · rename_i job rest _ jobs
    rw [d.jobs] at jobs
    cases jobs
  · rfl

end Drained

theorem execute_limiter (s : System) : s.execute.system.limiter = s.limiter := by
  rw [execute]
  split
  · rfl
  · split
    · exact schedulePump_limiter ..
    · rfl

theorem runImmediate_limiter (s : System) : s.runImmediate.system.limiter = s.limiter := by
  rw [runImmediate]
  split
  · split
    · exact pump_limiter _
    · rfl
    · exact settle_limiter ..
  · rfl

theorem runTimer_limiter (s : System) : s.runTimer.system.limiter = s.limiter := by
  rw [runTimer]
  split
  · exact settle_limiter ..
  · rfl
  · rfl

namespace Drained

/-- All that is ever counted is that submissions are refused. -/
theorem tally (d : s.Drained) {m : Move} (fair : m.meddles = false) :
    (s.react m).system.limiter.tally =
      { s.limiter.tally with
        rejected := s.limiter.tally.rejected + [m].countP Move.isSubmit } := by
  cases m with
  | submit tag =>
      obtain ⟨message, -, system⟩ := d.submit tag
      rw [system]
      rfl
  | complete | overwrite => cases fair
  | execute => exact congrArg Limiter.tally (execute_limiter s)
  | start work =>
      change (s.start work).system.limiter.tally = _
      rw [System.start]
      split <;> rfl
  | shutdown =>
      change s.shutdown.system.limiter.tally = _
      rw [System.shutdown]
      split <;> rfl
  | awaitTermination ms =>
      change (s.awaitTermination ms).system.limiter.tally = _
      rw [System.awaitTermination]
      split
      · rfl
      · dsimp only
        split <;> rfl
  | reply reply => exact d.reply reply
  | settle promise outcome => exact congrArg Limiter.tally (settle_limiter s promise outcome)
  | delay | countdown => rfl
  | job => exact congrArg (fun s : System => s.limiter.tally) d.job
  | immediate => exact congrArg Limiter.tally (runImmediate_limiter s)
  | timer => exact congrArg Limiter.tally (runTimer_limiter s)
  | elapse ms =>
      change (s.elapse ms).system.limiter.tally = _
      rw [System.elapse]
      split <;> rfl

end Drained
end System

namespace History
variable {h : History} {pool : Pool} {limit concurrency : Nat} {tag : Tag} {t : Ticket}

theorem tally_plays {more : List Move}
    (drained : ∀ first second, more = first ++ second → (h.plays first).system.Drained)
    (fair : ∀ m ∈ more, m.meddles = false) :
    (h.plays more).system.limiter.tally =
      { h.system.limiter.tally with
        rejected := h.system.limiter.tally.rejected + more.countP Move.isSubmit } := by
  induction more generalizing h with
  | nil => rfl
  | cons m more ih =>
      have now : h.system.Drained := drained [] (m :: more) rfl
      have next : (h.play m).system.limiter.tally = _ := now.tally (fair m List.mem_cons_self)
      have later (first second : List Move) (split : more = first ++ second) :
          ((h.play m).plays first).system.Drained :=
        drained (m :: first) second (congrArg (m :: ·) split)
      rw [plays_cons, ih later fun other mem => fair other (List.mem_cons_of_mem m mem), next]
      simp only [List.countP_cons, List.countP_nil]
      congr 1
      omega

namespace Paired
variable (both : h.Paired pool limit concurrency) (idle : pool.isIdle = true)
include both idle

/-- A pool that is shut down and idle leaves nothing to be done. -/
theorem drained_system (positive : 0 < limit) (down : pool.isShutdown = true) :
    h.system.Drained where
  pool := ⟨pool, both.own, down⟩
  limit := ⟨limit, positive, both.all.stocked.settling.bound⟩
  slots tag := by
    obtain ⟨running, pending⟩ := both.drained idle tag
    have slot : h.system.limiter.slot tag = ⟨0, none⟩ := by
      rw [← running, ← pending positive]
    exact slot
  frames _ mem := both.rests idle mem
  jobs := by
    refine List.eq_nil_iff_forall_not_mem.2 fun job mem => ?_
    have among : job.run ∈ h.system.runs := by
      rw [System.runs, Multiset.mem_add]
      exact .inr (Multiset.mem_coe.2 (List.mem_map_of_mem mem))
    rw [(both.runs_eq_zero idle).1] at among
    exact Multiset.notMem_zero _ among

/-- Works that the runner took have ended. -/
theorem accepted_eq_concluded (tag : Tag) (t : Ticket) :
    h.admission.times (.accepted tag t) = h.admission.times (.concluded tag t) := by
  have ended : t ∉ h.admission.outstanding tag := by
    rw [both.outstanding_eq_empty idle]
    exact Finset.notMem_empty t
  rw [Admission.mem_outstanding both.all.kept.balanced] at ended
  have unoffered : h.admission.offering tag t = 0 := System.not_offering both.lawful
  have flight := both.all.kept.shared.flight tag t
  have share := both.all.kept.shared.share tag t
  have offers := both.all.kept.balanced.offers tag t
  have course := both.all.kept.balanced.course tag t
  have once := both.all.kept.balanced.once tag t
  omega

/-- Each submission has ended, was refused or was dropped, once. -/
theorem fate (positive : 0 < limit) (made : .submitted tag t ∈ h.marks) :
    h.admission.times (.concluded tag t) + h.admission.times (.rejected tag t) +
      h.admission.times (.dropped tag t) = 1 := by
  have course := both.all.kept.balanced.course tag t
  have once := both.all.kept.balanced.once tag t
  have submitted : 0 < h.admission.times (.submitted tag t) := List.count_pos_iff.2 made
  have waits : h.admission.waits tag t = 0 := by
    have none : (h.admission.slot tag).pending = none := (both.drained idle tag).2 positive
    rw [Admission.waits, none, if_neg (Option.some_ne_none t).symm]
  have carrying : h.admission.carrying tag t = 0 := by
    refine List.countP_eq_zero.2 fun p mem carries => ?_
    obtain ⟨own, ticket, queued, rfl⟩ := both.pause_answers idle mem
    cases carries
  have ended := both.accepted_eq_concluded idle tag t
  rw [List.count_nil] at course
  omega

end Paired

/-- Nothing is left: the pool has no work, no slot counts or holds a task, as many works have ended
as were dispatched, and each submission has ended, was refused or was dropped. -/
structure AtRest (h : History) : Prop where
  pool : ∃ pool, h.system.pool = some pool ∧ pool.active = 0 ∧ pool.backlog = []
  slots : ∀ entry ∈ h.system.limiter.slots, entry.2.running = 0 ∧ entry.2.pending = none
  counted : h.system.limiter.tally.dispatched = h.system.limiter.tally.finished
  fates : ∀ tag t, .submitted tag t ∈ h.marks →
    h.admission.times (.concluded tag t) + h.admission.times (.rejected tag t) +
      h.admission.times (.dropped tag t) = 1

theorem Paired.atRest (both : h.Paired pool limit concurrency) (idle : pool.isIdle = true)
    (positive : 0 < limit) (recorded : h.admission.Recorded 0 0) : h.AtRest where
  pool := ⟨pool, both.own, Pool.isIdle_iff.1 idle⟩
  slots entry mem := by
    rw [← both.all.keyed.slot_of_mem mem]
    exact ⟨(both.drained idle entry.1).1, (both.drained idle entry.1).2 positive⟩
  counted := by
    refine recorded.dispatched_eq_finished ?_ (both.accepted_eq_concluded idle)
    refine List.countP_eq_zero.2 fun p mem releases => ?_
    obtain ⟨own, ticket, queued, rfl⟩ := both.pause_answers idle mem
    cases releases
  fates _ _ made := both.fate idle positive made

/-- A submission comes to nothing: listeners hear that it is refused, and when they have heard, it
was counted as refused, its slot is empty, and nothing else has changed. Whatever they do meanwhile,
it is answered with yes. -/
structure TurnsAway (h : History) (tag : Tag) : Prop where
  told : ∃ message, (h.system.react (.submit tag)).signal = .call (.message message)
  after : ∀ thrown,
    ((h.play (.submit tag)).play (.reply (.heard thrown))).system = h.system.turnedAway tag
  answer : ∀ nested thrown,
    ((h.play (.submit tag)).plays nested).system.stack = (h.play (.submit tag)).system.stack →
      (((h.play (.submit tag)).plays nested).system.react (.reply (.heard thrown))).signal =
        .answer true

theorem turnsAway_of_drained (d : h.system.Drained) (tag : Tag) : h.TurnsAway tag := by
  obtain ⟨message, told, asked⟩ := d.submit tag
  have top : (h.play (.submit tag)).system.stack =
      .message tag message [] (.answer true) (.submit h.system.tickets) :: h.system.stack :=
    congrArg System.stack asked
  refine ⟨⟨message, told⟩, fun thrown => ?_, fun nested thrown same =>
    (System.reply_answers (same.trans top) thrown).1⟩
  have slots (notice : Slot.Notice) :
      ((h.system.limiter.setSlot tag {}).count notice).setSlot tag {} =
        (h.system.limiter.setSlot tag {}).count notice :=
    congrArg (Limiter.count · notice) (Limiter.setSlot_setSlot ..)
  refine (System.reply_answers top thrown).2.trans ?_
  change System.setSlot { (h.system.react (.submit tag)).system with stack := h.system.stack } tag
    ((h.system.react (.submit tag)).system.limiter.slot tag) = _
  rw [asked]
  simp [System.setSlot, System.turnedAway, slots]

section Closing
variable {s : System} {p : Pool} {before after : List Move}

/-- Once a call that began to wait after a shutdown was told that the pool is idle, the pool is idle
at every later point. -/
theorem paired_of_told (begins : s.Begins) (own : s.pool = some p)
    (bound : s.limiter.limit = some (.ofInt limit))
    (fair : ∀ m ∈ before ++ .shutdown :: after, m.meddles = false)
    (told : (((⟨s, []⟩ : History).plays before).system.waits, true) ∈
      ((⟨s, []⟩ : History).plays (before ++ .shutdown :: after)).told)
    {more : List Move} (calm : ∀ m ∈ more, m.meddles = false) :
    ∃ pool, pool.isIdle = true ∧ pool.isShutdown = true ∧
      (((⟨s, []⟩ : History).plays (before ++ .shutdown :: after)).plays more).Paired pool limit
        p.concurrency ∧
      (((⟨s, []⟩ : History).plays (before ++ .shutdown :: after)).plays
        more).admission.Recorded 0 0 := by
  have whole : ((⟨s, []⟩ : History).plays (before ++ .shutdown :: after)).plays more =
      (⟨s, []⟩ : History).plays (before ++ .shutdown :: (after ++ more)) := by
    rw [← plays_append, List.append_assoc, List.cons_append]
  have all : ∀ m ∈ before ++ .shutdown :: (after ++ more), m.meddles = false := by
    intro m mem
    rw [← List.cons_append, ← List.append_assoc] at mem
    exact (List.mem_append.1 mem).elim (fair m) (calm m)
  have still := told_plays _ more told
  rw [whole] at still ⊢
  obtain ⟨pool, limit', bound', both⟩ := paired begins own all
  obtain ⟨same, hs, closed⟩ := closed_after_shutdown begins own before (after ++ more)
  obtain rfl : same = pool := Option.some.inj (hs.symm.trans both.own)
  obtain rfl : limit' = limit := by
    have equal := Option.some.inj (bound'.symm.trans bound)
    rwa [Number.ofInt_inj, Nat.cast_inj] at equal
  exact ⟨same, closed.told (mem_told.1 still), closed.down, both,
    recorded begins (submitting_keeps begins own all)⟩

theorem Paired.started_eq (both : h.Paired pool limit concurrency) (idle : pool.isIdle = true) :
    h.started = h.accepted := by
  rw [both.queue, (Pool.isIdle_iff.1 idle).2, List.append_nil]

/-- A submission that was not made by then and was not accepted later is never answered with no. -/
theorem Paired.answered_yes (both : h.Paired pool limit concurrency) {more : List Move}
    (answered : (h.plays more).admission.Answered) (same : (h.plays more).accepted = h.accepted)
    (late : h.system.tickets ≤ t) : .answered tag t false ∉ (h.plays more).marks := by
  intro mem
  have accepted : .accepted tag t ∈ (h.plays more).admission.marks :=
    answered.answers tag t false mem
  have early : 0 < h.admission.times (.accepted tag t) := by
    rw [← count_accepted, ← same, count_accepted]
    exact List.count_pos_iff.2 accepted
  have course := both.all.kept.balanced.course tag t
  have fresh := both.all.kept.balanced.fresh tag t late
  omega

end Closing
end History

/-- Once closing a bundle with a pool of its own has come out true, nothing is left then or at any
later point, nothing more is started, and submissions are turned away: all that ever changes is the
count of those that were refused. -/
theorem Bundle.closed_for_good {w : Config.World} {options : Bundle.Options} {b : Bundle}
    {limit : Nat} {before after : List Move} (made : (Bundle.create w options).2 = .ok b)
    (alone : options.runner = none) (bound : b.limiter.limit = some (.ofInt limit))
    (positive : 0 < limit) (fair : ∀ m ∈ before ++ after, m.meddles = false)
    (told : (((⟨b.system, []⟩ : History).plays before).system.waits, true) ∈
      ((⟨b.system, []⟩ : History).plays (before ++ b.closing ++ after)).told) :
    let h := (⟨b.system, []⟩ : History).plays (before ++ b.closing ++ after)
    ∀ more, (∀ m ∈ more, m.meddles = false) →
      let later := h.plays more
      later.AtRest ∧ later.started = h.started ∧
      later.system.limiter.tally =
        { h.system.limiter.tally with
          rejected := h.system.limiter.tally.rejected + more.countP Move.isSubmit } ∧
      (∀ tag t queued, h.system.tickets ≤ t → .answered tag t queued ∈ later.marks →
        queued = true) ∧
      ∀ tag, later.TurnsAway tag := by
  obtain ⟨closing, begins, p, own⟩ := begins_of_create made alone
  have split : before ++ b.closing ++ after =
      before ++ .shutdown :: .awaitTermination b.timeout :: after := by
    rw [closing, List.append_assoc]
    rfl
  rw [split] at told ⊢
  have all : ∀ m ∈ before ++ .shutdown :: .awaitTermination b.timeout :: after,
      m.meddles = false := by
    simp only [List.mem_append, List.mem_cons] at fair ⊢
    rintro m (early | rfl | rfl | late)
    · exact fair m (.inl early)
    · rfl
    · rfl
    · exact fair m (.inr late)
  intro h more calm later
  have reach (more : List Move) (calm : ∀ m ∈ more, m.meddles = false) :
      ∃ pool, pool.isIdle = true ∧ pool.isShutdown = true ∧
        (h.plays more).Paired pool limit p.concurrency ∧ (h.plays more).admission.Recorded 0 0 :=
    History.paired_of_told begins own bound all told calm
  obtain ⟨pool, idle, down, both, -⟩ := reach [] (by simp)
  obtain ⟨last, lastIdle, lastDown, lastBoth, recorded⟩ := reach more calm
  have now : h.Paired pool limit p.concurrency := both
  have same : later.accepted = h.accepted :=
    History.accepted_of_isShutdown now.own now.lawful down more
  refine ⟨lastBoth.atRest lastIdle positive recorded, ?_, ?_, ?_, ?_⟩
  · rw [lastBoth.started_eq lastIdle, now.started_eq idle, same]
  · refine History.tally_plays (fun first second split => ?_) calm
    obtain ⟨_, idle, down, both, -⟩ := reach first fun m mem =>
      calm m (split ▸ List.mem_append_left second mem)
    exact both.drained_system idle positive down
  · intro tag t queued late mem
    by_contra no
    rw [Bool.not_eq_true] at no
    subst no
    exact now.answered_yes lastBoth.all.answered same late mem
  · exact History.turnsAway_of_drained (lastBoth.drained_system lastIdle positive lastDown)

/-- Options for one lane, and for one task of a tag at a time. -/
def Bundle.narrowOptions : Bundle.Options where
  limit := .number 1
  logger := some { threshold := .silent, name := .text "narrow" }
  settings := .ofFields [("runnerConcurrency", .number 1), ("terminationTimeoutMs", .number 1000)]

def Bundle.narrow : Bundle where
  limiter := { limit := some (.ofInt 1), logger := some .silent }
  pool := some { concurrency := 1, logger := some .silent }
  owned := true
  logger := { threshold := .silent, name := .text "narrow" }
  timeout := 1000
  records := []

/-- Two tasks of a tag: one is with the pool, and the other one waits. -/
def Bundle.oneWaiting : List Move :=
  [.submit "t", .reply (.heard none), .submit "t", .reply (.heard none)]

/-- The first task ends, the other one is refused as it is handed over, and the lane is free. -/
def Bundle.lastEnds : List Move :=
  [.immediate, .reply (.task (.settled .fulfilled)), .job, .reply (.heard none),
    .reply (.heard none), .job]

theorem Bundle.waiting_task_is_refused_at_close :
    let h := (⟨narrow.system, []⟩ : History).plays (oneWaiting ++ narrow.closing ++ lastEnds)
    let later := h.plays [.reply (.heard none), .submit "u"]
    h.system.limiter.tally = { dispatched := 1, queued := 1, finished := 1, rejected := 1 } ∧
      later.AtRest ∧ later.started = [.limited "t" 0] ∧ later.system.limiter.tally.rejected = 2 ∧
      later.TurnsAway "v" := by
  intro h later
  have made : (Bundle.create {} narrowOptions).2 = .ok narrow := rfl
  have bound : narrow.limiter.limit = some (.ofInt (1 : Nat)) := rfl
  have fair : ∀ m ∈ oneWaiting ++ lastEnds, m.meddles = false := by decide
  have told : (((⟨narrow.system, []⟩ : History).plays oneWaiting).system.waits, true) ∈ h.told := by
    decide +kernel
  obtain ⟨rest, started, tally, -, turnsAway⟩ :=
    closed_for_good made rfl bound Nat.one_pos fair told [.reply (.heard none), .submit "u"]
      (by decide)
  have counted : h.system.limiter.tally =
      { dispatched := 1, queued := 1, finished := 1, rejected := 1 } := by decide +kernel
  refine ⟨counted, rest, started.trans (by decide +kernel), ?_, turnsAway "v"⟩
  rw [tally]
  change h.system.limiter.tally.rejected + 1 = 2
  rw [counted]

end Turnstile
