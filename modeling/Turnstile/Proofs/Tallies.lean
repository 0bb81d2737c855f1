import Turnstile.Proofs.Reactions

/-!
The tallies of a limiter add up: every call of `submit` has been counted as dispatched, rejected or
dropped, or its task waits in a slot, or a step that is still open has it in hand.
-/
namespace Turnstile

/-- A submission is over for the limiter with this notice. -/
def Slot.Notice.closes : Slot.Notice → Nat
  | .dispatched .. | .queued _ (some _) | .rejected .. => 1
  | _ => 0

/-- How many submissions are over. -/
def Tally.closed (t : Tally) : Nat := t.dispatched + t.rejected + t.dropped

theorem Tally.closed_count (t : Tally) (notice : Slot.Notice) :
    (t.count notice).closed = t.closed + notice.closes := by
  unfold Tally.count
  split <;> simp only [closed, Slot.Notice.closes] <;> omega

def Mark.isSubmitted : Mark → Bool
  | .submitted .. => true
  | _ => false

def Move.isSubmit : Move → Bool
  | .submit _ => true
  | _ => false

namespace Admission
variable {c : Conduct} {a a' : Admission}

/-- How many submissions were made. -/
def submissions (a : Admission) : Nat := a.marks.countP Mark.isSubmitted

/-- How many open steps have a submission in hand. -/
def carried (a : Admission) : Nat := a.pauses.countP Pause.carriesAny

/-- With `hand` submissions on the way, all are accounted for. -/
def Totalled (a : Admission) (hand : Nat) : Prop :=
  a.submissions = a.limiter.tally.closed + a.limiter.waiting + a.carried + hand

theorem submissions_notice (tag : Tag) (notice : Slot.Notice) :
    (notice.marks tag).countP Mark.isSubmitted = 0 := by
  unfold Slot.Notice.marks
  split <;> rfl

theorem submissions_purpose (tag : Tag) (purpose : Purpose) (queued : Bool) :
    (purpose.marks tag queued).countP Mark.isSubmitted = 0 := by
  cases purpose <;> rfl

section Changes
variable (tag : Tag) (purpose : Purpose) (slot : Slot) (marks : List Mark)

@[simp] theorem submissions_tell (notice : Slot.Notice) (resume : Slot.Resume) :
    (a.tell tag purpose slot notice resume).submissions = a.submissions := by
  simp [submissions, submissions_notice]

@[simp] theorem submissions_ask (ticket : Ticket) :
    (a.ask tag purpose slot ticket).submissions = a.submissions := by
  simp [submissions, Mark.isSubmitted]

@[simp] theorem submissions_mark :
    (a.mark marks).submissions = a.submissions + marks.countP Mark.isSubmitted := by
  simp [submissions]

@[simp] theorem submissions_setSlot : (a.setSlot tag slot).submissions = a.submissions := rfl

@[simp] theorem submissions_back (rest : List Pause) :
    (a.back rest).submissions = a.submissions := rfl

@[simp] theorem submissions_finish : (a.finish tag purpose).submissions = a.submissions :=
  submissions_tell ..

end Changes

theorem Places.submissions {tag : Tag} {ticket : Ticket} {purpose : Purpose}
    (h : Places tag ticket purpose a a') : a'.submissions = a.submissions := by
  cases h <;> simp

theorem Enters.submissions {tag : Tag} {ticket : Ticket} {purpose : Purpose}
    (h : Enters tag ticket purpose a a') : a'.submissions = a.submissions := by
  cases h with
  | overflow exceeded => simp
  | place kept placed => exact placed.submissions

theorem Ends.submissions {tag : Tag} {purpose : Purpose} (h : Ends tag purpose a a') :
    a'.submissions = a.submissions := by
  cases h <;> simp

theorem Step.submissions (h : Step c a a') (silent : ∀ a tag, ¬c a (.submit tag)) :
    a'.submissions = a.submissions := by
  cases h with
  | submit may enters => exact (silent _ _ may).elim
  | complete may ends => exact ends.submissions
  | overwrite may => simp
  | start may outside => simp [Admission.submissions, Mark.isSubmitted]
  | refuse e may top => simp
  | accept top => simp [Mark.isSubmitted]
  | take prompt top => simp [Admission.submissions, submissions_notice, Mark.isSubmitted]
  | pump next => simp [Admission.submissions, Mark.isSubmitted]
  | conclude next ends =>
      rw [ends.submissions]
      simp [Admission.submissions, Mark.isSubmitted]
  | place top places => simpa using places.submissions
  | release top => simp
  | handOver top waiting enters => simpa using enters.submissions
  | rest top free => simp [submissions_purpose]
  | answer top => simp [submissions_purpose]
  | number => rfl

theorem Steps.submissions (steps : Steps c a a') (silent : ∀ a tag, ¬c a (.submit tag)) :
    a'.submissions = a.submissions :=
  steps.keep (P := fun b => b.submissions = a.submissions)
    (fun _ _ same step => (step.submissions silent).trans same) rfl

section Totals
variable {tag : Tag} {ticket : Ticket} {purpose : Purpose} {slot : Slot}

theorem carried_back {p : Pause} {rest : List Pause} (top : a.pauses = p :: rest) :
    a.carried = (a.back rest).carried + if p.carriesAny then 1 else 0 := by
  simp [carried, top, List.countP_cons]

namespace Totalled
variable {hand later : Nat}

theorem setSlot (h : a.Totalled hand)
    (moved : slot.pending.toList.length + later = (a.slot tag).pending.toList.length + hand) :
    (a.setSlot tag slot).Totalled later := by
  have waiting := Limiter.waiting_setSlot a.limiter tag slot
  simp only [Admission.slot] at moved
  simp only [Totalled, submissions_setSlot, setSlot_limiter, Limiter.setSlot_tally, carried,
    setSlot_pauses] at h ⊢
  omega

theorem mark {marks : List Mark} (h : a.Totalled hand)
    (quiet : marks.countP Mark.isSubmitted = 0) : (a.mark marks).Totalled hand := by
  rw [Totalled, submissions_mark, quiet]
  exact h

/-- Telling counts the notice, and the step may keep a submission in hand. -/
theorem tell {notice : Slot.Notice} {resume : Slot.Resume} (h : a.Totalled hand)
    (moved : slot.pending.toList.length + notice.closes +
        (if Pause.carriesAny ⟨tag, purpose, .heard resume⟩ then 1 else 0) + later =
      (a.slot tag).pending.toList.length + hand) :
    (a.tell tag purpose slot notice resume).Totalled later := by
  have waiting := Limiter.waiting_setSlot a.limiter tag slot
  simp only [Admission.slot] at moved
  simp only [Totalled, submissions_tell, tell_limiter, Limiter.count_tally, Limiter.setSlot_tally,
    Tally.closed_count, Limiter.waiting_count, carried, tell_pauses, List.countP_cons] at h ⊢
  omega

theorem ask (h : a.Totalled hand)
    (moved : slot.pending.toList.length + 1 + later =
      (a.slot tag).pending.toList.length + hand) :
    (a.ask tag purpose slot ticket).Totalled later := by
  have waiting := Limiter.waiting_setSlot a.limiter tag slot
  simp only [Admission.slot] at moved
  simp only [Totalled, submissions_ask, ask_limiter, Limiter.setSlot_tally, carried, ask_pauses,
    List.countP_cons, Pause.carriesAny, if_true] at h ⊢
  omega

theorem back {p : Pause} {rest : List Pause} (h : a.Totalled 0) (top : a.pauses = p :: rest) :
    (a.back rest).Totalled (if p.carriesAny then 1 else 0) := by
  have carried := carried_back top
  simp only [Totalled, submissions_back, back_limiter] at h ⊢
  omega

theorem at_start (limit : Nat) (logger : Option Logging.Threshold) :
    (initial limit logger).Totalled 0 := rfl

theorem finish (h : a.Totalled 0) : (a.finish tag purpose).Totalled 0 :=
  h.tell rfl

end Totalled

theorem Places.totalled (h : Places tag ticket purpose a a') (total : a.Totalled 1) :
    a'.Totalled 0 := by
  cases h with
  | wait reached =>
      apply total.tell
      cases (a.slot tag).pending <;> rfl
  | offer room => exact total.ask rfl

theorem Enters.totalled (h : Enters tag ticket purpose a a') (total : a.Totalled 1) :
    a'.Totalled 0 := by
  cases h with
  | overflow exceeded => exact total.tell rfl
  | place kept placed => exact placed.totalled total

theorem Ends.totalled (h : Ends tag purpose a a') (total : a.Totalled 0) : a'.Totalled 0 := by
  cases h with
  | underflow idle => exact total.tell rfl
  | finish busy => exact total.finish

end Totals

theorem Step.totalled (h : Step c a a') (total : a.Totalled 0) : a'.Totalled 0 := by
  cases h with
  | submit may enters =>
      apply enters.totalled
      simp only [Totalled, Admission.submissions, carried] at total
      simp [Totalled, Admission.submissions, carried, Mark.isSubmitted, total]
  | complete may ends => exact ends.totalled total
  | overwrite may => exact total.setSlot rfl
  | start may outside => exact total.mark rfl
  | refuse e may top => exact (total.back top).tell rfl
  | accept top => exact ((total.back top).mark rfl).tell rfl
  | @take tag ticket purpose rest prompt top =>
      have taken : (({ a with backlog := (tag, ticket) ::ₘ a.backlog }.back rest).mark
          [.accepted tag ticket]).Totalled 1 := (total.back top).mark rfl
      exact taken.tell rfl
  | pump next => exact total.mark rfl
  | conclude next ends => exact ends.totalled (total.mark rfl)
  | place top places => exact places.totalled ((total.back top).setSlot rfl)
  | release top => exact Totalled.finish ((total.back top).setSlot rfl)
  | handOver top waiting enters =>
      refine enters.totalled ((total.back top).setSlot ?_)
      simp [waiting, Pause.carriesAny]
  | rest top free =>
      exact ((total.back top).mark (submissions_purpose ..)).setSlot rfl
  | answer top =>
      exact ((total.back top).mark (submissions_purpose ..)).setSlot rfl
  | number => exact total

end Admission

namespace History
open Admission

/-- Every call of `submit` makes one submission, and nothing else makes any. -/
theorem submissions_play (h : History) (m : Move) :
    (h.play m).admission.submissions = h.admission.submissions + [m].countP Move.isSubmit := by
  by_cases submit : ∃ tag, m = .submit tag
  · obtain ⟨tag, rfl⟩ := submit
    obtain ⟨a, enters, steps⟩ :=
      System.submit_enters (c := fun _ _ => False) h.system h.marks tag
    have made := steps.submissions fun _ _ => id
    rw [enters.submissions, submissions_mark] at made
    rw [admission_play]
    exact made
  · have steps : Steps (fun _ d => ∀ tag, d ≠ .submit tag) h.admission (h.play m).admission := by
      refine play_steps fun d deed tag same => submit ⟨tag, ?_⟩
      exact System.eq_submit_of_deed? (same ▸ deed)
    rw [steps.submissions fun _ tag may => may tag rfl]
    cases m <;> simp_all [Move.isSubmit]

theorem submissions_plays (h : History) (ms : List Move) :
    (h.plays ms).admission.submissions = h.admission.submissions + ms.countP Move.isSubmit := by
  induction ms generalizing h with
  | nil => rfl
  | cons m ms ih =>
      rw [plays_cons, ih, submissions_play, List.countP_singleton, List.countP_cons]
      omega

theorem totalled {s : System} (begins : s.Begins) (ms : List Move) :
    ((⟨s, []⟩ : History).plays ms).admission.Totalled 0 := by
  obtain ⟨limit, logger, hs⟩ := begins.admission
  exact plays_induction (c := fun _ _ => True) (fun _ _ held step => step.totalled held)
    (Conduct.keeps_of_forall fun _ _ => trivial) (hs ▸ Totalled.at_start limit logger)

end History
end Turnstile
