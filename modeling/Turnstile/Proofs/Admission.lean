import Turnstile.Proofs.History
import Turnstile.Proofs.Pools
import Turnstile.Proofs.Slots

/-!
The limiter's side of a history: its slots, the calls of slots that are open, the works it has out
with the runner, and the marks made so far. Lanes, waiters, timers and records are left out.

What the surroundings do there of their own accord are `Deed`s, and a `Conduct` says which of these
they allow themselves; all else is the library's own doing.
-/
namespace Turnstile

/-- A submission by its tag and its number. -/
abbrev Submission := Tag × Ticket

def Work.submission? : Work → Option Submission
  | .limited tag ticket => some (tag, ticket)
  | .plain _ => none

/-- What a stopped step of a slot waits for. -/
inductive Wait where
  | heard (resume : Slot.Resume)
  /-- The runner is being asked to take a submission. -/
  | offer (ticket : Ticket)

/-- A step of a slot that has stopped at a call to the outside. -/
structure Pause where
  tag : Tag
  purpose : Purpose
  wait : Wait

namespace Pause

/-- Whether the submission is being offered to the runner. -/
def offers (tag : Tag) (ticket : Ticket) : Pause → Bool
  | ⟨own, _, .offer t⟩ => own == tag && t == ticket
  | _ => false

/-- Whether the step has the submission in hand: it is offered, or still to be placed. -/
def carries (tag : Tag) (ticket : Ticket) : Pause → Bool
  | ⟨own, _, .offer t⟩ | ⟨own, _, .heard (.place t)⟩ => own == tag && t == ticket
  | _ => false

/-- Whether the step has any submission in hand. -/
def carriesAny : Pause → Bool
  | ⟨_, _, .offer _⟩ | ⟨_, _, .heard (.place _)⟩ => true
  | _ => false

/-- Whether the step will take up the task that waits by then. -/
def handsOver (tag : Tag) : Pause → Bool
  | ⟨own, _, .heard .handOver⟩ | ⟨own, _, .heard .release⟩ => own == tag
  | _ => false

end Pause

def Frame.pause? : Frame → Option Pause
  | .message tag _ _ resume purpose => some ⟨tag, purpose, .heard resume⟩
  | .offer tag ticket purpose => some ⟨tag, purpose, .offer ticket⟩
  | _ => none

/-- The submission whose task is being called. -/
def Frame.inFlight? : Frame → Option Submission
  | .task run => run.work.submission?
  | _ => none

/-- The submission whose task has ended without its slot knowing. -/
def Job.inFlight? : Job → Option Submission
  | .conclude tag ticket _ _ => some (tag, ticket)
  | .goOn .. => none

/-- The mark that the end of a slot's step leaves. -/
def Purpose.marks (tag : Tag) (queued : Bool) : Purpose → List Mark
  | .submit ticket => [.answered tag ticket queued]
  | _ => []

@[ext]
structure Admission where
  limiter : Limiter
  tickets : Ticket
  /-- Innermost first. -/
  pauses : List Pause
  /-- Submissions in the backlog of a pool. -/
  backlog : Multiset Submission
  /-- Submissions that were started and whose slot has not been told of their end. -/
  inFlight : Multiset Submission
  marks : List Mark

def System.backlog (s : System) : List Work := (s.pool.map Pool.backlog).getD []

def System.inFlight (s : System) : Multiset Submission :=
  s.stack.filterMap Frame.inFlight? + s.awaiting.filterMap (fun entry => entry.2.work.submission?) +
    s.loop.jobs.filterMap Job.inFlight?

def System.admission (s : System) (marks : List Mark) : Admission where
  limiter := s.limiter
  tickets := s.tickets
  pauses := s.stack.filterMap Frame.pause?
  backlog := s.backlog.filterMap Work.submission?
  inFlight := s.inFlight
  marks := marks

def History.admission (h : History) : Admission := h.system.admission h.marks

/-- Nothing has happened yet. -/
def Admission.initial (limit : Nat) (logger : Option Logging.Threshold) : Admission where
  limiter := { limit := some (.ofInt limit), logger }
  tickets := 0
  pauses := []
  backlog := 0
  inFlight := 0
  marks := []

theorem System.Begins.admission {s : System} (begins : s.Begins) :
    ∃ limit logger, (⟨s, []⟩ : History).admission = .initial limit logger := by
  obtain ⟨_, logger, _, made⟩ := begins.limiter
  obtain ⟨limit, hl⟩ := Limiter.create_eq_ok made
  have empty : s.backlog = [] := by
    cases hp : s.pool with
    | none => simp [System.backlog, hp]
    | some p =>
        obtain ⟨_, _, made⟩ := begins.pool p hp
        obtain ⟨_, rfl⟩ := Pool.create_eq_ok made
        simp [System.backlog, hp]
  refine ⟨limit, logger, ?_⟩
  rw [begins.rest] at empty ⊢
  rw [hl] at empty ⊢
  simp [History.admission, System.admission, empty, System.inFlight, Admission.initial,
    History.marks]

inductive Deed where
  | submit (tag : Tag)
  /-- Tells a slot of an end that is not the end of a work. -/
  | complete (tag : Tag)
  | overwrite (tag : Tag) (running : Number)
  /-- A runner outside starts the task of a submission. -/
  | start (tag : Tag) (ticket : Ticket)
  /-- A runner outside refuses a submission. -/
  | refuse (tag : Tag) (ticket : Ticket)

/-- What a move does to the limiter, if anything. -/
def System.deed? (s : System) : Move → Option Deed
  | .submit tag => some (.submit tag)
  | .complete tag => some (.complete tag)
  | .overwrite tag running => some (.overwrite tag running)
  | .start (.limited tag ticket) => if s.pool.isSome then none else some (.start tag ticket)
  | .reply (.refuse _) =>
    match s.stack with
    | .offer tag ticket _ :: _ => some (.refuse tag ticket)
    | _ => none
  | _ => none

theorem System.eq_submit_of_deed? {s : System} {m : Move} {tag : Tag}
    (h : s.deed? m = some (.submit tag)) : m = .submit tag := by
  unfold deed? at h
  split at h <;> first | (split at h <;> cases h) | cases h
  rfl

/-- What the surroundings allow themselves. -/
abbrev Conduct := Admission → Deed → Prop

namespace Conduct
variable {c : Conduct} {h : History} {ms : List Move}

def Permits (c : Conduct) (h : History) (m : Move) : Prop :=
  ∀ d ∈ h.system.deed? m, c h.admission d

/-- Each move is permitted when it is made. -/
def Keeps (c : Conduct) : History → List Move → Prop
  | _, [] => True
  | h, m :: ms => c.Permits h m ∧ c.Keeps (h.play m) ms

instance [∀ a d, Decidable (c a d)] (m : Move) : Decidable (c.Permits h m) :=
  inferInstanceAs (Decidable (∀ d ∈ h.system.deed? m, c h.admission d))

instance decidableKeeps [∀ a d, Decidable (c a d)] : ∀ h ms, Decidable (c.Keeps h ms)
  | _, [] => .isTrue trivial
  | h, m :: ms =>
    have := decidableKeeps (h.play m) ms
    inferInstanceAs (Decidable (c.Permits h m ∧ c.Keeps (h.play m) ms))

theorem keeps_of_forall (all : ∀ a d, c a d) : c.Keeps h ms := by
  induction ms generalizing h with
  | nil => trivial
  | cons m ms ih => exact ⟨fun d _ => all _ d, ih⟩

/-- What is kept is kept at each move of the run. -/
theorem keeps_iff : c.Keeps h ms ↔
    ∀ before m after, ms = before ++ m :: after → c.Permits (h.plays before) m := by
  induction ms generalizing h with
  | nil => simp [Keeps]
  | cons m ms ih =>
      refine ⟨fun kept before m' after split => ?_, fun each => ⟨?_, ih.2 fun before m' after split => ?_⟩⟩
      · cases before with
        | nil =>
            obtain ⟨rfl, -⟩ := List.cons.inj split
            exact kept.1
        | cons first before =>
            obtain ⟨rfl, rest⟩ := List.cons.inj split
            exact ih.1 kept.2 before m' after rest
      · exact each [] m ms rfl
      · exact each (m :: before) m' after (congrArg (m :: ·) split)

theorem Keeps.of_append {later : List Move} (kept : c.Keeps h (ms ++ later)) : c.Keeps h ms :=
  keeps_iff.2 fun before m after split =>
    keeps_iff.1 kept before m (after ++ later) (by rw [split, List.append_assoc]; rfl)

theorem Keeps.rest {first : List Move} (kept : c.Keeps h (first ++ ms)) :
    c.Keeps (h.plays first) ms := by
  induction first generalizing h with
  | nil => exact kept
  | cons m first ih => exact ih kept.2

end Conduct

namespace Admission

def slot (a : Admission) (tag : Tag) : Slot := a.limiter.slot tag

/-- No step of the tag's slot is open. -/
def Closed (a : Admission) (tag : Tag) : Prop := ∀ p ∈ a.pauses, p.tag ≠ tag

/-- How often a mark was made. -/
def times (a : Admission) (m : Mark) : Nat := a.marks.count m

@[simps]
def setSlot (a : Admission) (tag : Tag) (slot : Slot) : Admission :=
  { a with limiter := a.limiter.setSlot tag slot }

@[simps]
def mark (a : Admission) (marks : List Mark) : Admission := { a with marks := a.marks ++ marks }

/-- Control is back in the step that stopped last. -/
@[simps]
def back (a : Admission) (rest : List Pause) : Admission := { a with pauses := rest }

/-- A slot changes and tells the audience. -/
@[simps]
def tell (a : Admission) (tag : Tag) (purpose : Purpose) (slot : Slot) (notice : Slot.Notice)
    (resume : Slot.Resume) : Admission :=
  { a with
    limiter := (a.limiter.setSlot tag slot).count notice
    pauses := ⟨tag, purpose, .heard resume⟩ :: a.pauses
    marks := a.marks ++ notice.marks tag }

/-- A slot changes and asks the runner to take a submission. -/
@[simps]
def ask (a : Admission) (tag : Tag) (purpose : Purpose) (slot : Slot) (ticket : Ticket) :
    Admission :=
  { a with
    limiter := a.limiter.setSlot tag slot
    pauses := ⟨tag, purpose, .offer ticket⟩ :: a.pauses
    marks := a.marks ++ [.offered tag ticket] }

section Slot
variable (a : Admission) (tag other : Tag) (s : Slot)

theorem slot_setSlot : (a.setSlot tag s).slot other = if other = tag then s else a.slot other :=
  Limiter.slot_setSlot a.limiter tag other s

theorem slot_tell (purpose : Purpose) (notice : Slot.Notice) (resume : Slot.Resume) :
    (a.tell tag purpose s notice resume).slot other = if other = tag then s else a.slot other :=
  Limiter.slot_setSlot a.limiter tag other s

theorem slot_ask (purpose : Purpose) (ticket : Ticket) :
    (a.ask tag purpose s ticket).slot other = if other = tag then s else a.slot other :=
  Limiter.slot_setSlot a.limiter tag other s

@[simp] theorem slot_back (rest : List Pause) : (a.back rest).slot tag = a.slot tag := rfl

end Slot

end Admission
end Turnstile
