import Turnstile.Proofs.Coverage

/-!
The tallies of dispatches and of ends: a limiter counts the works that its runner took, and those
whose end a slot was told, but for the ones whose slot is still mending its count.
-/
namespace Turnstile

namespace Mark

/-- The submission that the runner took. -/
def accepted? : Mark → Option Submission
  | .accepted tag ticket => some (tag, ticket)
  | _ => none

/-- The submission whose end its slot was told. -/
def concluded? : Mark → Option Submission
  | .concluded tag ticket => some (tag, ticket)
  | _ => none

end Mark

/-- Whether the step is yet to count an end, after an underflow. -/
def Pause.releases : Pause → Bool
  | ⟨_, _, .heard .release⟩ => true
  | _ => false

namespace Slot.Notice

def dispatches : Notice → Nat
  | .dispatched .. => 1
  | _ => 0

def finishes : Notice → Nat
  | .finished _ => 1
  | _ => 0

end Slot.Notice

theorem Tally.dispatched_count (t : Tally) (notice : Slot.Notice) :
    (t.count notice).dispatched = t.dispatched + notice.dispatches := by
  unfold Tally.count
  split <;> rfl

theorem Tally.finished_count (t : Tally) (notice : Slot.Notice) :
    (t.count notice).finished = t.finished + notice.finishes := by
  unfold Tally.count
  split <;> rfl

namespace Admission
variable {a a' : Admission} {tag : Tag} {ticket : Ticket} {purpose : Purpose} {slot : Slot}
  {starts ends : Nat}

/-- Works that the runner took, in this order. -/
def accepted (a : Admission) : List Submission := a.marks.filterMap Mark.accepted?

/-- Works whose end a slot was told, in this order. -/
def concluded (a : Admission) : List Submission := a.marks.filterMap Mark.concluded?

/-- How many open steps are yet to count an end. -/
def releasing (a : Admission) : Nat := a.pauses.countP Pause.releases

theorem count_accepted (a : Admission) (tag : Tag) (t : Ticket) :
    a.accepted.count (tag, t) = a.times (.accepted tag t) := by
  rw [accepted, times, List.count_filterMap, List.count]
  refine List.countP_congr fun m _ => ?_
  cases m <;> simp [Mark.accepted?]

theorem count_concluded (a : Admission) (tag : Tag) (t : Ticket) :
    a.concluded.count (tag, t) = a.times (.concluded tag t) := by
  rw [concluded, times, List.count_filterMap, List.count]
  refine List.countP_congr fun m _ => ?_
  cases m <;> simp [Mark.concluded?]

/-- The tallies agree with the works; so many dispatches and ends are about to be counted. -/
structure Recorded (starts ends : Nat) (a : Admission) : Prop where
  dispatched : a.limiter.tally.dispatched + starts = a.accepted.length
  finished : a.limiter.tally.finished + a.releasing + ends = a.concluded.length

namespace Recorded

theorem at_start (limit : Nat) (logger : Option Logging.Threshold) :
    Recorded 0 0 (initial limit logger) := ⟨rfl, rfl⟩

/-- More marks, and the same tallies and steps: what was taken or has ended is yet to be counted. -/
theorem next {marks : List Mark} {starts' ends' : Nat} (h : a.Recorded starts ends)
    (tally : a'.limiter.tally = a.limiter.tally) (releasing : a'.releasing = a.releasing)
    (more : a'.marks = a.marks ++ marks)
    (taken : starts + (marks.filterMap Mark.accepted?).length = starts')
    (ended : ends + (marks.filterMap Mark.concluded?).length = ends') :
    a'.Recorded starts' ends' where
  dispatched := by
    rw [Admission.accepted, more, List.filterMap_append, List.length_append, tally, ← taken,
      ← Nat.add_assoc, h.dispatched]
    rfl
  finished := by
    rw [Admission.concluded, more, List.filterMap_append, List.length_append, tally, releasing,
      ← ended, ← Nat.add_assoc, h.finished]
    rfl

theorem setSlot (h : a.Recorded starts ends) : (a.setSlot tag slot).Recorded starts ends :=
  ⟨h.dispatched, h.finished⟩

/-- What the step left behind was yet to count stays to be counted. -/
theorem back {p : Pause} {rest : List Pause} (h : a.Recorded 0 0) (top : a.pauses = p :: rest) :
    (a.back rest).Recorded 0 p.releases.toNat := by
  refine ⟨h.dispatched, ?_⟩
  have finished : a.limiter.tally.finished + a.releasing = a.concluded.length := h.finished
  have left : a.releasing = (a.back rest).releasing + p.releases.toNat := by
    rw [Admission.releasing, top, List.countP_cons]
    cases p.releases <;> rfl
  rw [left, ← Nat.add_assoc] at finished
  exact finished

theorem tell {notice : Slot.Notice} {resume : Slot.Resume} {starts' ends' : Nat}
    (h : a.Recorded starts ends) (dispatched : notice.dispatches + starts' = starts)
    (finished : notice.finishes + (Pause.releases ⟨tag, purpose, .heard resume⟩).toNat + ends' =
      ends) :
    (a.tell tag purpose slot notice resume).Recorded starts' ends' := by
  have none : (notice.marks tag).filterMap Mark.accepted? = [] ∧
      (notice.marks tag).filterMap Mark.concluded? = [] := by
    unfold Slot.Notice.marks
    split <;> exact ⟨rfl, rfl⟩
  have releasing : (a.tell tag purpose slot notice resume).releasing =
      a.releasing + (Pause.releases ⟨tag, purpose, .heard resume⟩).toNat := by
    rw [Admission.releasing, tell_pauses, List.countP_cons]
    cases Pause.releases ⟨tag, purpose, .heard resume⟩ <;> rfl
  have before := h.dispatched
  have ended := h.finished
  refine ⟨?_, ?_⟩
  · rw [Admission.accepted, tell_marks, List.filterMap_append, none.1, List.append_nil,
      tell_limiter, Limiter.count_tally, Limiter.setSlot_tally, Tally.dispatched_count]
    exact Eq.trans (by omega) before
  · rw [Admission.concluded, tell_marks, List.filterMap_append, none.2, List.append_nil,
      tell_limiter, Limiter.count_tally, Limiter.setSlot_tally, Tally.finished_count, releasing]
    exact Eq.trans (by omega) ended

theorem finish (h : a.Recorded 0 1) : (a.finish tag purpose).Recorded 0 0 :=
  h.tell rfl rfl

end Recorded

theorem Places.recorded (h : Places tag ticket purpose a a') (recorded : a.Recorded 0 0) :
    a'.Recorded 0 0 := by
  cases h with
  | wait reached => exact recorded.tell rfl rfl
  | offer room => exact recorded.next rfl rfl rfl rfl rfl

theorem Enters.recorded (h : Enters tag ticket purpose a a') (recorded : a.Recorded 0 0) :
    a'.Recorded 0 0 := by
  cases h with
  | overflow exceeded => exact recorded.tell rfl rfl
  | place kept placed => exact placed.recorded recorded

theorem Ends.recorded (h : Ends tag purpose a a') (recorded : a.Recorded 0 1) :
    a'.Recorded 0 0 := by
  cases h with
  | underflow idle => exact recorded.tell rfl rfl
  | finish busy => exact recorded.finish

theorem Step.recorded (h : Step .submitting a a') (recorded : a.Recorded 0 0) :
    a'.Recorded 0 0 := by
  cases h with
  | submit may enters => exact enters.recorded (recorded.next rfl rfl rfl rfl rfl)
  | complete may ends => exact may.elim
  | overwrite may => exact may.elim
  | start may outside => exact may.elim
  | refuse e may top => exact (recorded.back top).tell rfl rfl
  | @accept tag ticket purpose rest top =>
      have taken : ((a.back rest).mark [.accepted tag ticket]).Recorded 1 0 :=
        (recorded.back top).next rfl rfl rfl rfl rfl
      exact taken.tell rfl rfl
  | @take tag ticket purpose rest prompt top =>
      have taken : (({ a with backlog := (tag, ticket) ::ₘ a.backlog }.back rest).mark
          [.accepted tag ticket]).Recorded 1 0 := (recorded.back top).next rfl rfl rfl rfl rfl
      exact taken.tell rfl rfl
  | pump next => exact recorded.next rfl rfl rfl rfl rfl
  | @conclude tag ticket starter outcome inCall inFlight a' next ends =>
      have ended : ({ a with inFlight }.mark [.concluded tag ticket]).Recorded 0 1 :=
        recorded.next rfl rfl rfl rfl rfl
      exact ends.recorded ended
  | place top places => exact places.recorded (recorded.back top).setSlot
  | release top => exact (recorded.back top).setSlot.finish
  | handOver top waiting enters => exact enters.recorded (recorded.back top).setSlot
  | @rest tag purpose rest top free =>
      have left : ((a.back rest).mark (purpose.marks tag false)).Recorded 0 0 :=
        (recorded.back top).next rfl rfl rfl (by cases purpose <;> rfl) (by cases purpose <;> rfl)
      exact left.setSlot
  | @answer tag purpose queued rest top =>
      have left : ((a.back rest).mark (purpose.marks tag queued)).Recorded 0 0 :=
        (recorded.back top).next rfl rfl rfl (by cases purpose <;> rfl) (by cases purpose <;> rfl)
      exact left.setSlot
  | number => exact ⟨recorded.dispatched, recorded.finished⟩

/-- Where each work that was taken has ended and no step mends a count, the tallies are equal. -/
theorem Recorded.dispatched_eq_finished (h : a.Recorded 0 0) (still : a.releasing = 0)
    (all : ∀ tag t, a.times (.accepted tag t) = a.times (.concluded tag t)) :
    a.limiter.tally.dispatched = a.limiter.tally.finished := by
  have same : a.accepted.Perm a.concluded := List.perm_iff_count.2 fun work => by
    rw [count_accepted, count_concluded, all]
  have dispatched : a.limiter.tally.dispatched = a.accepted.length := h.dispatched
  have finished : a.limiter.tally.finished + a.releasing = a.concluded.length := h.finished
  rw [dispatched, same.length_eq, ← finished, still, Nat.add_zero]

end Admission

theorem History.recorded {s : System} (begins : s.Begins) {ms : List Move}
    (kept : Conduct.submitting.Keeps ⟨s, []⟩ ms) :
    ((⟨s, []⟩ : History).plays ms).admission.Recorded 0 0 := by
  obtain ⟨limit, logger, hs⟩ := begins.admission
  exact plays_induction (P := Admission.Recorded 0 0) (fun _ _ held step => step.recorded held)
    kept (hs ▸ .at_start limit logger)

end Turnstile
