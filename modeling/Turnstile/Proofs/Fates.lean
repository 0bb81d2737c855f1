import Turnstile.Proofs.Answers
import Turnstile.Proofs.Courses
import Turnstile.Proofs.Tallies

/-!
What becomes of a submission. While no step of its tag's slot is open it has been accepted, rejected
or dropped, once, or it is the waiting task; its task is called only if the runner took it. The
surroundings may complete and overwrite as they like.
-/
namespace Turnstile

/-- A runner outside starts only what it has taken or is being offered, and refuses nothing that it
has started. -/
def Conduct.honest : Conduct
  | a, .start tag ticket => 0 < a.times (.accepted tag ticket) + a.offering tag ticket
  | a, .refuse tag ticket => a.times (.started tag ticket) = 0
  | _, _ => True

instance : ∀ a d, Decidable (Conduct.honest a d)
  | a, .start tag ticket =>
    inferInstanceAs (Decidable (0 < a.times (.accepted tag ticket) + a.offering tag ticket))
  | a, .refuse tag ticket => inferInstanceAs (Decidable (a.times (.started tag ticket) = 0))
  | _, .submit _ | _, .complete _ | _, .overwrite .. => .isTrue trivial

/-- Marks that tell whether a task may be called. -/
def Mark.ofRunner : Mark → Bool
  | .offered .. | .rejected .. | .started .. => true
  | _ => false

namespace Admission
variable {c : Conduct} {a a' : Admission} {tag : Tag} {ticket : Ticket} {purpose : Purpose}

/-- Tasks were called of submissions only that were offered and not refused. -/
structure Ran (a : Admission) : Prop where
  taken : ∀ tag t, 0 < a.times (.started tag t) →
    0 < a.times (.offered tag t) ∧ a.times (.rejected tag t) = 0
  stock : ∀ tag t, (tag, t) ∈ a.backlog → 0 < a.times (.accepted tag t)
  prompt : ∀ tag t, a.Prompt tag t → a.times (.started tag t) = 0

namespace Ran

theorem next (ran : a.Ran) {marks : List Mark} (more : a'.marks = a.marks ++ marks)
    (quiet : ∀ m ∈ marks, m.ofRunner = false) (backlog : a'.backlog = a.backlog) : a'.Ran := by
  have same {m : Mark} (loud : m.ofRunner = true) : a'.times m = a.times m :=
    times_of_quiet more quiet loud
  refine ⟨?_, ?_, ?_⟩
  · intro tag t started
    rw [same rfl] at started
    rw [same rfl, same rfl]
    exact ran.taken tag t started
  · intro tag t mem
    rw [times_more more]
    exact Nat.add_pos_left (ran.stock tag t (backlog ▸ mem)) _
  · intro tag t prompt
    rw [same rfl]
    refine ran.prompt tag t (prompt.earlier more fun mem => ?_)
    exact absurd (quiet _ mem) (by simp [Mark.ofRunner])

theorem tell {slot : Slot} {notice : Slot.Notice} {resume : Slot.Resume} (ran : a.Ran)
    (quiet : ∀ m ∈ notice.marks tag, m.ofRunner = false) :
    (a.tell tag purpose slot notice resume).Ran :=
  ran.next rfl quiet rfl

/-- What is offered for the first time has not been started. -/
theorem ask {slot : Slot} (ran : a.Ran) (unoffered : a.times (.offered tag ticket) = 0) :
    (a.ask tag purpose slot ticket).Ran := by
  have idle : a.times (.started tag ticket) = 0 := by
    have taken := ran.taken tag ticket
    omega
  refine ⟨?_, ?_, ?_⟩
  · intro own t started
    have taken := ran.taken own t (by simpa using started)
    simpa using ⟨.inl taken.1, taken.2⟩
  · intro own t mem
    simpa using ran.stock own t mem
  · intro own t prompt
    obtain ⟨rfl, rfl⟩ : tag = own ∧ ticket = t := by simpa [Prompt] using prompt
    simpa using idle

/-- The call of a task that was offered and not refused. -/
theorem start (ran : a.Ran) {backlog inFlight : Multiset Submission}
    (offered : 0 < a.times (.offered tag ticket)) (kept : a.times (.rejected tag ticket) = 0)
    (fewer : ∀ w ∈ backlog, w ∈ a.backlog) :
    ({ a with backlog, inFlight }.mark [.started tag ticket]).Ran := by
  have same (m : Mark) : ({ a with backlog, inFlight } : Admission).times m = a.times m := rfl
  refine ⟨?_, ?_, ?_⟩
  · intro own t started
    by_cases here : own = tag ∧ t = ticket
    · obtain ⟨rfl, rfl⟩ := here
      simpa [same] using ⟨offered, kept⟩
    · have elsewhere : Mark.started tag ticket ≠ .started own t := by
        rintro ⟨⟩
        exact here ⟨rfl, rfl⟩
      simpa [same] using ran.taken own t (by simpa [same, List.count_cons, elsewhere] using started)
  · intro own t mem
    simpa [same] using ran.stock own t (fewer _ mem)
  · intro own t prompt
    simp [Prompt] at prompt

theorem refuse {slot : Slot} {e : Thrown} (ran : a.Ran)
    (idle : a.times (.started tag ticket) = 0) :
    (a.tell tag purpose slot (.rejected ticket e) (.answer true)).Ran := by
  refine ⟨?_, ?_, ?_⟩
  · intro own t started
    have before : 0 < a.times (.started own t) := by simpa [Slot.Notice.marks] using started
    have elsewhere : Mark.rejected tag ticket ≠ .rejected own t := by
      rintro ⟨⟩
      omega
    simpa [Slot.Notice.marks, List.count_cons, elsewhere] using ran.taken own t before
  · intro own t mem
    simpa [Slot.Notice.marks] using ran.stock own t mem
  · intro own t prompt
    simp [Prompt, Slot.Notice.marks] at prompt

/-- A pool takes a submission into its backlog. -/
theorem take {rest : List Pause} (ran : a.Ran) :
    (({ a with backlog := (tag, ticket) ::ₘ a.backlog }.back rest).mark
      [.accepted tag ticket]).Ran := by
  have accepted : (a.mark [.accepted tag ticket]).Ran :=
    ran.next rfl (by simp [Mark.ofRunner]) rfl
  refine ⟨accepted.taken, fun own t mem => ?_, accepted.prompt⟩
  rcases Multiset.mem_cons.1 mem with same | old
  · obtain ⟨rfl, rfl⟩ := Prod.mk.inj same
    simp [times]
  · exact accepted.stock own t old

theorem at_start (limit : Nat) (logger : Option Logging.Threshold) : (initial limit logger).Ran where
  taken _ _ started := absurd started (by simp [initial, times])
  stock _ _ mem := absurd mem (Multiset.notMem_zero _)
  prompt _ _ prompt := by simp [Prompt, initial] at prompt

end Ran

theorem Places.ran (h : Places tag ticket purpose a a') (ran : a.Ran)
    (balanced : a.Balanced [(tag, ticket)]) : a'.Ran := by
  cases h with
  | wait reached =>
      apply ran.tell
      cases (a.slot tag).pending <;> simp [Slot.Notice.marks, Mark.ofRunner]
  | offer room => exact ran.ask balanced.offered_in_hand

theorem Enters.ran (h : Enters tag ticket purpose a a') (ran : a.Ran)
    (balanced : a.Balanced [(tag, ticket)]) : a'.Ran := by
  cases h with
  | overflow exceeded => exact ran.tell (by simp [Slot.Notice.marks, Mark.ofRunner])
  | place kept placed => exact placed.ran ran balanced

theorem Ends.ran (h : Ends tag purpose a a') (ran : a.Ran) : a'.Ran := by
  cases h <;> exact ran.tell (by simp [Slot.Notice.marks, Mark.ofRunner])

theorem Step.ran (h : Step .honest a a') (ran : a.Ran) (balanced : a.Balanced []) : a'.Ran := by
  cases h with
  | submit may enters =>
      exact enters.ran (ran.next rfl (by simp [Mark.ofRunner]) rfl) balanced.submitted
  | complete may ends => exact ends.ran ran
  | overwrite may => exact ⟨ran.taken, ran.stock, ran.prompt⟩
  | @start tag ticket may outside =>
      have offers := balanced.offers tag ticket
      have once := balanced.offered_le_one tag ticket
      have taken : 0 < a.times (.accepted tag ticket) + a.offering tag ticket := may
      exact ran.start (by omega) (by omega) fun _ => id
  | @refuse tag ticket purpose rest e may top =>
      have idle : a.times (.started tag ticket) = 0 := may.elim id (ran.prompt tag ticket)
      exact Ran.refuse (a := a.back rest) ⟨ran.taken, ran.stock, ran.prompt⟩ idle
  | accept top =>
      exact Ran.tell (ran.next rfl (by simp [Mark.ofRunner]) rfl) (by simp [Slot.Notice.marks])
  | take prompt top => exact ran.take.tell (by simp [Slot.Notice.marks])
  | @pump tag ticket backlog next =>
      have accepted := ran.stock tag ticket (next ▸ Multiset.mem_cons_self ..)
      have offers := balanced.offers tag ticket
      have once := balanced.offered_le_one tag ticket
      exact ran.start (by omega) (by omega) fun w mem => next ▸ Multiset.mem_cons_of_mem mem
  | conclude next ends =>
      exact ends.ran (ran.next rfl (by simp [Mark.ofRunner]) rfl)
  | place top places =>
      exact places.ran ⟨ran.taken, ran.stock, ran.prompt⟩
        (Alike.balanced (alike_setSlot (by rfl)) (balanced.resumed top))
  | release top =>
      exact Ran.next ran rfl (by simp [Slot.Notice.marks, Mark.ofRunner]) rfl
  | handOver top waiting enters =>
      exact enters.ran ⟨ran.taken, ran.stock, ran.prompt⟩
        (((alike_back top rfl).balanced balanced).taken waiting)
  | @rest tag purpose rest top free =>
      exact Ran.next ran rfl (by cases purpose <;> simp [Purpose.marks, Mark.ofRunner]) rfl
  | @answer tag purpose queued rest top =>
      exact Ran.next ran rfl (by cases purpose <;> simp [Purpose.marks, Mark.ofRunner]) rfl
  | number => exact ⟨ran.taken, ran.stock, ran.prompt⟩

theorem Closed.carrying (closed : a.Closed tag) (t : Ticket) : a.carrying tag t = 0 := by
  refine List.countP_eq_zero.2 fun p mem carries => closed p mem ?_
  obtain ⟨own, _, ⟨_ | _⟩ | _⟩ := p <;> simp_all [Pause.carries]

theorem carried_of_pauses (closed : a.pauses = []) : a.carried = 0 := by
  simp [carried, closed]

end Admission

namespace History
variable {s : System} {ms : List Move}
open Admission

theorem ran (begins : s.Begins) (kept : Conduct.honest.Keeps ⟨s, []⟩ ms) :
    ((⟨s, []⟩ : History).plays ms).admission.Ran := by
  obtain ⟨limit, logger, hs⟩ := begins.admission
  have both := plays_induction (P := fun a => a.Ran ∧ a.Balanced [])
    (fun _ _ held step => ⟨step.ran held.1 held.2, step.balanced held.2⟩) kept
    (hs ▸ ⟨Ran.at_start limit logger, Balanced.at_start limit logger⟩)
  exact both.1

/-- Every submission has one fate, and the tallies show all of them. -/
theorem every_submission_has_one_fate (begins : s.Begins) (ms : List Move) :
    let h := (⟨s, []⟩ : History).plays ms
    let a := h.admission
    let stats := h.system.limiter.stats
    (∀ tag t, a.times (.submitted tag t) ≤ 1) ∧
    a.submissions = ms.countP Move.isSubmit ∧
    (∀ tag t, a.Closed tag → .submitted tag t ∈ a.marks →
      a.times (.accepted tag t) + a.times (.rejected tag t) + a.times (.dropped tag t) +
          a.waits tag t = 1 ∧
        a.times (.offered tag t) = a.times (.accepted tag t) + a.times (.rejected tag t) ∧
        (Conduct.honest.Keeps ⟨s, []⟩ ms → .accepted tag t ∉ a.marks →
          .started tag t ∉ a.marks)) ∧
    (a.pauses = [] → ms.countP Move.isSubmit =
      stats.tally.dispatched + stats.tally.rejected + stats.tally.dropped +
        stats.perTag.countP fun entry => entry.2.hasPending) ∧
    (∀ tag t, .answered tag t false ∈ a.marks → .accepted tag t ∈ a.marks) ∧
    (∀ tag t, .answered tag t true ∈ a.marks →
      .queued tag t ∈ a.marks ∨ .rejected tag t ∈ a.marks) := by
  intro h a stats
  have balanced : a.Balanced [] := History.balanced begins ms
  have answered : a.Answered := History.answered begins ms
  have made : a.submissions = ms.countP Move.isSubmit := by
    obtain ⟨limit, logger, hs⟩ := begins.admission
    rw [submissions_plays, hs]
    simp [initial, submissions]
  refine ⟨balanced.once, made, ?_, ?_, fun tag t => answered.answers tag t false,
    fun tag t => answered.answers tag t true⟩
  · intro tag t closed submitted
    have course := balanced.course tag t
    have offers := balanced.offers tag t
    have once := balanced.once tag t
    have carrying := closed.carrying t
    have offering := Balanced.offering_le_carrying (a := a) tag t
    have positive : 0 < a.times (.submitted tag t) := List.count_pos_iff.2 submitted
    rw [List.count_nil] at course
    refine ⟨by omega, by omega, fun kept untaken started => ?_⟩
    have taken : 0 < a.times (.offered tag t) ∧ a.times (.rejected tag t) = 0 :=
      (ran begins kept).taken tag t (List.count_pos_iff.2 started)
    have unaccepted : a.times (.accepted tag t) = 0 := List.count_eq_zero_of_not_mem untaken
    omega
  · intro closed
    have total : a.Totalled 0 := History.totalled begins ms
    rw [← made, total, carried_of_pauses closed, Limiter.waiting_eq_stats]
    rfl

/-- One task runs, two are submitted after it, and the first of these is dropped. -/
def threeSubmissions : List Move :=
  [.submit "t", .reply .accept, .reply (.heard none), .start (.limited "t" 0),
    .submit "t", .reply (.heard none), .submit "t", .reply (.heard none), .reply (.heard none)]

theorem second_of_three_is_dropped :
    let h := (⟨.oneAtATime, []⟩ : History).plays threeSubmissions
    h.admission.times (.dropped "t" 1) = 1 ∧ .started "t" 1 ∉ h.admission.marks ∧
      threeSubmissions.countP Move.isSubmit = h.system.limiter.stats.tally.dispatched +
        h.system.limiter.stats.tally.rejected + h.system.limiter.stats.tally.dropped +
        h.system.limiter.stats.perTag.countP fun entry => entry.2.hasPending := by
  intro h
  have closed : h.admission.pauses = [] := by decide +kernel
  obtain ⟨-, -, fates, totals, -, -⟩ :=
    every_submission_has_one_fate System.oneAtATime_begins threeSubmissions
  obtain ⟨fate, -, idle⟩ := fates "t" 1 (fun p mem => by rw [closed] at mem; cases mem)
    (by decide +kernel)
  have one : h.admission.times (.accepted "t" 1) + h.admission.times (.rejected "t" 1) +
      h.admission.times (.dropped "t" 1) + h.admission.waits "t" 1 = 1 := fate
  refine ⟨?_, idle (by decide +kernel) (by decide +kernel), totals closed⟩
  have others : h.admission.times (.accepted "t" 1) = 0 ∧ h.admission.times (.rejected "t" 1) = 0 ∧
      h.admission.waits "t" 1 = 0 := by decide +kernel
  omega

end History
end Turnstile
