import Turnstile.Proofs.Guises

/-!
A system whose outcomes are forgotten: all its tasks are taken for fulfilled, and works that failed
are not counted. To forget outcomes is a guise of a system, so but for what goes on with an outcome,
steps come to the same from a system and from one whose outcomes are forgotten. Promises that are
settled while a lane is about to be free may as well be settled once it is.
-/
namespace Turnstile

def Job.forget : Job → Job
  | .conclude tag ticket starter _ => .conclude tag ticket starter .fulfilled
  | .goOn run _ => .goOn run .fulfilled

def Purpose.forget : Purpose → Purpose
  | .conclude run _ inCall => .conclude run .fulfilled inCall
  | .submit ticket => .submit ticket
  | .complete => .complete

def Frame.forget : Frame → Frame
  | .message tag current rest resume purpose => .message tag current rest resume purpose.forget
  | .offer tag ticket purpose => .offer tag ticket purpose.forget
  | .hand ticket => .hand ticket
  | .task run => .task run
  | .taskError inPump => .taskError inPump
  | .idle inPump => .idle inPump

def Pool.forget (p : Pool) : Pool := { p with failed := 0 }

def EventLoop.forget (l : EventLoop) : EventLoop := { l with jobs := l.jobs.map Job.forget }

def System.forget (s : System) : System :=
  { s with
    pool := s.pool.map Pool.forget
    loop := s.loop.forget
    settled := s.settled.map fun entry => (entry.1, .fulfilled)
    stack := s.stack.map Frame.forget }

/-- A note without outcomes; records of errors are left out. -/
def Note.forget? : Note → Option Note
  | .record r => if r.level = .error then none else some (.record r)
  | .concluding run _ => some (.concluding run .fulfilled)
  | .settled run _ => some (.settled run .fulfilled)
  | .seen run _ => some (.seen run .fulfilled)
  | note => some note

def TaskReturn.forget : TaskReturn → TaskReturn
  | .settled _ => .settled .fulfilled
  | .later promise => .later promise
  | .threw e => .threw e

def Reply.forget : Reply → Reply
  | .task result => .task result.forget
  | other => other

/-- A move that leaves open how promises are settled. -/
def Move.forget : Move → Move
  | .reply answer => .reply answer.forget
  | .settle promise _ => .settle promise .fulfilled
  | m => m

/-- The guise in which outcomes are forgotten. -/
def Guise.forgetful : Guise := { forgets := true }

namespace Guise

theorem forgetful_system (s : System) : forgetful.system s = s.forget := rfl

theorem forgetful_base (s : System) : forgetful.base.system s = s := system_bare s

end Guise

theorem System.forget_forget (s : System) : s.forget.forget = s.forget :=
  Guise.forgetful.system_system ⟨id, id, id⟩ s

namespace Reaction

/-- Two reactions that differ in outcomes only, and tell of no failed work. -/
structure Like (r u : Reaction) : Prop where
  system : r.system.forget = u.system.forget
  notes : r.notes.filterMap Note.forget? = u.notes.filterMap Note.forget?
  signal : r.signal = u.signal
  quiet : r.signal.tellsFailure = false

namespace Like
variable {r u w : Reaction}

/-- The second one is the first one with outcomes forgotten. -/
theorem of_disguises (h : Guise.forgetful.Disguises u r) : r.Like u where
  system := by rw [h.same, Guise.reaction, Guise.forgetful_system, System.forget_forget]
  notes := by
    have blind : Note.forget? ∘ Guise.forgetful.note = Note.forget? := by
      funext note
      cases note <;> rfl
    have all : Guise.forgetful.keeps = fun _ => true := by
      funext note
      cases note <;> rfl
    rw [h.same, Guise.reaction, Guise.notes, all, List.filter_true, List.filterMap_map, blind]
  signal := by rw [h.same, Guise.reaction]
  quiet := h.quiet rfl

theorem symm (h : r.Like u) : u.Like r :=
  ⟨h.system.symm, h.notes.symm, h.signal.symm, h.signal ▸ h.quiet⟩

theorem trans (h : r.Like u) (h' : u.Like w) : r.Like w :=
  ⟨h.system.trans h'.system, h.notes.trans h'.notes, h.signal.trans h'.signal, h.quiet⟩

theorem after (h : r.Like u) {notes notes' : List Note}
    (same : notes.filterMap Note.forget? = notes'.filterMap Note.forget?) :
    (r.after notes).Like (u.after notes') :=
  { h with notes := by simp only [Reaction.after, List.filterMap_append, same, h.notes] }

/-- Notes that say nothing else make no difference. -/
theorem after_left (h : r.Like u) {notes : List Note} (nothing : notes.filterMap Note.forget? = []) :
    (r.after notes).Like u :=
  { h with
    notes := by simp only [Reaction.after, List.filterMap_append, nothing, h.notes, List.nil_append] }

end Like
end Reaction

namespace System
variable (s : System)

theorem forget_pool_none {s : System} (none : s.pool = none) : s.forget.pool = .none := by
  simp [forget, none]

theorem forget_pool_some {s : System} {pool : Pool} (own : s.pool = some pool) :
    s.forget.pool = some pool.forget := by simp [forget, own]

theorem forget_settle (promise : Promise) (outcome : Outcome) :
    (s.settle promise outcome).forget = s.forget.settle promise .fulfilled :=
  (s.guise_settle .forgetful promise outcome).symm

theorem returned_like : s.returned.Like s.forget.returned := by
  have returned := s.returned_disguised .forgetful
  rw [Guise.forgetful_base] at returned
  exact .of_disguises returned

theorem ignored_like : s.ignored.Like s.forget.ignored := by
  have ignored := s.ignored_disguised .forgetful
  rw [Guise.forgetful_base] at ignored
  exact .of_disguises ignored

theorem leave_like (inPump : Bool) : (s.leave inPump).Like (s.forget.leave inPump) := by
  have left := s.leave_disguised .forgetful inPump
  rw [Guise.forgetful_base] at left
  exact .of_disguises left

theorem freeLane_like (pool : Pool) (inPump : Bool) :
    (s.freeLane pool inPump).Like (s.forget.freeLane pool.forget inPump) := by
  have freed := s.freeLane_disguised .forgetful pool inPump
  rw [Guise.forgetful_base] at freed
  exact .of_disguises freed

/-- A work may end in one way here and in another way there. -/
theorem conclude_like (tag : Tag) (ticket : Ticket) (starter : Starter)
    (outcome outcome' : Outcome) (inCall : Bool) :
    (s.conclude tag ticket starter outcome inCall).Like
      (s.forget.conclude tag ticket starter outcome' inCall) := by
  have fulfilled (s : System) (outcome : Outcome) :
      (s.conclude tag ticket starter outcome inCall).Like
        (s.forget.conclude tag ticket starter .fulfilled inCall) := by
    have concluded := s.conclude_disguised .forgetful tag ticket starter outcome inCall
    rw [Guise.forgetful_base] at concluded
    exact .of_disguises concluded
  have there := fulfilled s.forget outcome'
  rw [forget_forget] at there
  exact (fulfilled s outcome).trans there.symm

/-- Settles promises one after another. -/
def settles (s : System) (ends : List (Promise × Outcome)) : System :=
  ends.foldl (fun s e => s.settle e.1 e.2) s

def fulfilled (ends : List (Promise × Outcome)) : List (Promise × Outcome) :=
  ends.map fun e => (e.1, .fulfilled)

theorem forget_settles (ends : List (Promise × Outcome)) :
    (s.settles ends).forget = s.forget.settles (fulfilled ends) := by
  induction ends generalizing s with
  | nil => rfl
  | cons e ends ih => exact (ih (s.settle e.1 e.2)).trans (by rw [forget_settle]; rfl)

theorem fulfilled_congr {ends ends' : List (Promise × Outcome)}
    (same : ends.map Prod.fst = ends'.map Prod.fst) : fulfilled ends = fulfilled ends' := by
  have promises (ends : List (Promise × Outcome)) :
      fulfilled ends = (ends.map Prod.fst).map fun promise => (promise, .fulfilled) := by
    simp [fulfilled]
  rw [promises, promises, same]

end System

/-- The reaction with promises settled after it. -/
def Reaction.settles (r : Reaction) (ends : List (Promise × Outcome)) : Reaction :=
  { r with system := r.system.settles ends }

namespace System
variable (s : System)

section Beside
variable (promise : Promise) (outcome : Outcome)

/-- It makes no difference whether promises are settled before a change that has nothing to do with
them, or after it. -/
theorem change_settle (change : System → System) (settled : (change s).settled = s.settled)
    (awaiting : (change s).awaiting = s.awaiting)
    (beside : ∀ settled awaiting jobs,
      change { s with settled, awaiting, loop := s.loop.pushJobs jobs } =
        { change s with settled, awaiting, loop := (change s).loop.pushJobs jobs }) :
    change (s.settle promise outcome) = (change s).settle promise outcome := by
  rw [settle, settle, settled, awaiting]
  split
  · rfl
  · exact beside _ _ _

theorem setPool_settle (pool : Pool) :
    (s.settle promise outcome).setPool pool = (s.setPool pool).settle promise outcome :=
  s.change_settle promise outcome (setPool · pool) rfl rfl fun _ _ _ => rfl

theorem schedulePump_settle (pool : Pool) :
    (s.settle promise outcome).schedulePump pool =
      (s.schedulePump pool).settle promise outcome := by
  rw [schedulePump, schedulePump]
  split
  · exact s.setPool_settle promise outcome pool
  · let scheduled (s : System) : System :=
      { s with
        pool := some { pool with pumpScheduled := true }
        loop := s.loop.pushImmediate .pump }
    exact s.change_settle promise outcome scheduled rfl rfl fun _ _ _ => rfl

theorem callOut_settle (frame : Frame) (call : Call) :
    (s.settle promise outcome).callOut frame call =
      (s.callOut frame call).settles [(promise, outcome)] := by
  let pushed (s : System) : System := { s with stack := frame :: s.stack }
  have settled : pushed (s.settle promise outcome) = (pushed s).settle promise outcome :=
    s.change_settle promise outcome pushed rfl rfl fun _ _ _ => rfl
  exact congrArg (fun s : System => ({ system := s, signal := .call call } : Reaction)) settled

theorem leave_settle (inPump : Bool) :
    (s.settle promise outcome).leave inPump = (s.leave inPump).settles [(promise, outcome)] := by
  cases inPump with
  | false => rfl
  | true =>
      rw [leave, leave, if_pos rfl, if_pos rfl, pump, pump, s.settle_pool]
      cases s.pool.bind Pool.next? with
      | none => rfl
      | some next =>
          dsimp only
          rw [setPool_settle, callOut_settle]
          rfl

theorem freeLane_settle (pool : Pool) (inPump : Bool) :
    (s.settle promise outcome).freeLane pool inPump =
      (s.freeLane pool inPump).settles [(promise, outcome)] := by
  have later {r u : Reaction} (h : r = u.settles [(promise, outcome)]) :
      r.afterRecords pool.free.2 =
        (u.afterRecords pool.free.2).settles [(promise, outcome)] := by
    rw [h]
    rfl
  rw [freeLane_eq, freeLane_eq]
  split
  · refine later ?_
    rw [schedulePump_settle, leave_settle]
  · split
    · refine later ?_
      rw [setPool_settle, leave_settle]
    · refine later ?_
      let cleared (s : System) : System :=
        { s with
          pool := some { pool.free.1 with waiters := [] }
          loop := s.loop.clear pool.free.1.waiters }
      have settled : cleared (s.settle promise outcome) = (cleared s).settle promise outcome :=
        s.change_settle promise outcome cleared rfl rfl fun _ _ _ => rfl
      have told := (cleared s).callOut_settle promise outcome (.idle inPump) (.pool .idle)
      rw [← settled] at told
      exact congrArg (Reaction.after _) told

end Beside

theorem freeLane_settles (ends : List (Promise × Outcome)) (pool : Pool) (inPump : Bool) :
    (s.settles ends).freeLane pool inPump = (s.freeLane pool inPump).settles ends := by
  induction ends generalizing s with
  | nil => rfl
  | cons e ends ih => exact (ih (s.settle e.1 e.2)).trans (by rw [freeLane_settle]; rfl)

theorem callOut_settles (ends : List (Promise × Outcome)) (frame : Frame) (call : Call) :
    (s.settles ends).callOut frame call = (s.callOut frame call).settles ends := by
  induction ends generalizing s with
  | nil => rfl
  | cons e ends ih => exact (ih (s.settle e.1 e.2)).trans (by rw [callOut_settle]; rfl)

theorem settles_own {s : System} {pool : Pool} (own : s.pool = some pool)
    (ends : List (Promise × Outcome)) : (s.settles ends).pool = some pool := by
  induction ends generalizing s with
  | nil => exact own
  | cons e ends ih => exact ih ((s.settle_pool e.1 e.2).trans own)

end System
end Turnstile
