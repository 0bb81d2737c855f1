import Mathlib
import Turnstile.System.Moves

/-!
Histories: a system together with the notes of all that has happened to it, and what a list of moves
makes of one.

`Mark`s are what notes say of submissions and slots, without records, errors and counts. Plain work
leaves no marks.
-/
namespace Turnstile

/-- A point in the course of a submission, or of a slot. -/
inductive Mark where
  | submitted (tag : Tag) (ticket : Ticket)
  | queued (tag : Tag) (ticket : Ticket)
  /-- It waited and was replaced. -/
  | dropped (tag : Tag) (ticket : Ticket)
  /-- The runner was asked to take it. -/
  | offered (tag : Tag) (ticket : Ticket)
  | accepted (tag : Tag) (ticket : Ticket)
  | rejected (tag : Tag) (ticket : Ticket)
  | started (tag : Tag) (ticket : Ticket)
  /-- Its task has ended and its slot is told. -/
  | concluded (tag : Tag) (ticket : Ticket)
  | answered (tag : Tag) (ticket : Ticket) (queued : Bool)
  | finished (tag : Tag)
  | anomaly (tag : Tag) (kind : Anomaly)
  deriving DecidableEq

/-- A dispatch leaves no mark of its own: it is announced where an offer was accepted. -/
def Slot.Notice.marks (tag : Tag) : Slot.Notice → List Mark
  | .dispatched .. => []
  | .queued ticket none => [.queued tag ticket]
  | .queued ticket (some replaced) => [.dropped tag replaced, .queued tag ticket]
  | .finished _ => [.finished tag]
  | .rejected ticket _ => [.rejected tag ticket]
  | .anomaly kind _ => [.anomaly tag kind]

def Note.marks : Note → List Mark
  | .submitted tag ticket => [.submitted tag ticket]
  | .noticed tag notice => notice.marks tag
  | .answered tag ticket queued => [.answered tag ticket queued]
  | .offered (.limited tag ticket) => [.offered tag ticket]
  | .accepted (.limited tag ticket) => [.accepted tag ticket]
  | .started { work := .limited tag ticket, .. } => [.started tag ticket]
  | .concluding { work := .limited tag ticket, .. } _ => [.concluded tag ticket]
  | _ => []

structure History where
  system : System
  notes : List Note := []

namespace History

def marks (h : History) : List Mark := h.notes.flatMap Note.marks

/-- The history with one more move. -/
def play (h : History) (m : Move) : History :=
  let r := h.system.react m
  { system := r.system, notes := h.notes ++ r.notes }

def plays (h : History) (ms : List Move) : History := ms.foldl play h

@[simp] theorem plays_cons (h : History) (m : Move) (ms : List Move) :
    h.plays (m :: ms) = (h.play m).plays ms := rfl

theorem plays_append (h : History) (first second : List Move) :
    h.plays (first ++ second) = (h.plays first).plays second :=
  List.foldl_append

/-- Notes are only ever added. -/
theorem notes_plays (h : History) (ms : List Move) :
    ∃ later, (h.plays ms).notes = h.notes ++ later := by
  induction ms generalizing h with
  | nil => exact ⟨[], (List.append_nil _).symm⟩
  | cons m ms ih =>
      obtain ⟨later, more⟩ := ih (h.play m)
      refine ⟨(h.system.react m).notes ++ later, ?_⟩
      rw [plays_cons, more, play, List.append_assoc]

theorem marks_plays (h : History) (ms : List Move) :
    ∃ later, (h.plays ms).marks = h.marks ++ later := by
  obtain ⟨later, more⟩ := notes_plays h ms
  exact ⟨later.flatMap Note.marks, by rw [marks, more, List.flatMap_append, marks]⟩

end History

/-- A limiter and its runner at the beginning, as their constructors make them. -/
structure System.Begins (s : System) : Prop where
  limiter : ∃ limit logger records, Limiter.create limit logger = .ok (s.limiter, records)
  pool : ∀ p, s.pool = some p → ∃ concurrency logger, Pool.create concurrency logger = .ok p
  rest : s = { limiter := s.limiter, pool := s.pool, audience := s.audience }

/-- A limiter that lets one task of a tag run at a time, and a runner outside. -/
def System.oneAtATime : System := { limiter := { limit := some (.ofInt 1) } }

theorem System.oneAtATime_begins : oneAtATime.Begins where
  limiter := ⟨.number 1, none, [], rfl⟩
  pool _ h := by simp [oneAtATime] at h
  rest := rfl

theorem Limiter.create_eq_ok {limit : Value} {logger : Option Logging.Threshold} {l : Limiter}
    {records : List Logging.Record} (h : Limiter.create limit logger = .ok (l, records)) :
    ∃ n : Nat, l = { limit := some (.ofInt n), logger } := by
  rw [Limiter.create] at h
  cases hc : (Config.checkTagLimit limit).orFault "limit" with
  | error e => simp [hc, Except.map] at h
  | ok n =>
      simp only [hc, Except.map, Except.ok.injEq, Prod.mk.injEq] at h
      exact ⟨n, h.1.symm⟩

end Turnstile
