import Turnstile.Proofs.Agreement
import Turnstile.Proofs.Forgetting
import Turnstile.Proofs.Termination

/-!
How tasks end makes no difference to admission. Two runs that differ in the outcomes of promises, but
not in when these are settled, differ in how many works have failed, in what listeners of the pool
are told of failed works and in records of errors, and in nothing else. A promise may be settled at
any time by a move of its own; those that `delay` and `countdown` settle are always fulfilled.

Only where a lane hears of a failed work its listeners are told in between. They may throw, and
settle promises, but do not call back.
-/
namespace Turnstile

/-- What a reaction comes to where listeners of a failed work settle promises and return or throw. If
no work has failed, the promises are settled after it. -/
def Reaction.heard (r : Reaction) (thrown : Option Thrown) (ends : List (Promise × Outcome)) :
    Reaction :=
  if r.signal.tellsFailure then ((r.system.settles ends).reply (.heard thrown)).after r.notes
  else r.settles ends

/-- Once failed works were told, two reactions differ in outcomes only. -/
def Reaction.Agrees (r u : Reaction) : Prop :=
  ∀ thrown thrown' ends ends', ends.map Prod.fst = ends'.map Prod.fst →
    (r.heard thrown ends).Like (u.heard thrown' ends')

namespace Reaction
variable {r u : Reaction}

theorem Like.settles (h : r.Like u) {ends ends' : List (Promise × Outcome)}
    (same : ends.map Prod.fst = ends'.map Prod.fst) : (r.settles ends).Like (u.settles ends') :=
  { h with
    system := by
      change (r.system.settles ends).forget = (u.system.settles ends').forget
      rw [System.forget_settles, System.forget_settles, h.system, System.fulfilled_congr same] }

theorem heard_of_quiet (quiet : r.signal.tellsFailure = false) (thrown : Option Thrown)
    (ends : List (Promise × Outcome)) : r.heard thrown ends = r.settles ends := by
  rw [heard, quiet]
  rfl

theorem Like.agrees (h : r.Like u) : r.Agrees u := by
  intro thrown thrown' ends ends' same
  rw [heard_of_quiet h.quiet, heard_of_quiet h.symm.quiet]
  exact h.settles same

theorem heard_after (r : Reaction) (notes : List Note) (thrown : Option Thrown)
    (ends : List (Promise × Outcome)) :
    (r.after notes).heard thrown ends = (r.heard thrown ends).after notes := by
  rw [heard, heard]
  have signal : (r.after notes).signal = r.signal := rfl
  rw [signal]
  split
  · simp [after]
  · rfl

theorem Agrees.after (h : r.Agrees u) {notes notes' : List Note}
    (same : notes.filterMap Note.forget? = notes'.filterMap Note.forget?) :
    (r.after notes).Agrees (u.after notes') := by
  intro thrown thrown' ends ends' promises
  rw [heard_after, heard_after]
  exact (h thrown thrown' ends ends' promises).after same

end Reaction

namespace System
variable (s : System) {pool : Pool}

theorem eq_of_mem_write {logger : Option Logging.Threshold} {level : Logging.Level}
    {message : String} {context : Logging.Context} {r : Logging.Record}
    (mem : r ∈ Logging.write logger level message context) : r = { level, message, context } := by
  rw [Logging.write] at mem
  split at mem
  · exact List.mem_singleton.1 mem
  · cases mem

/-- Records of errors are left out of account. -/
theorem forget?_errors {records : List Logging.Record} (errors : ∀ r ∈ records, r.level = .error) :
    (records.map Note.record).filterMap Note.forget? = [] := by
  rw [List.filterMap_map, List.filterMap_eq_nil_iff]
  intro r mem
  simp [Note.forget?, errors r mem]

theorem unheardByPool_errors (event : String) (thrown : Option Thrown) :
    ∀ r ∈ s.unheardByPool event thrown, r.level = .error := by
  intro r mem
  rw [unheardByPool.eq_def] at mem
  split at mem
  · rw [eq_of_mem_write mem]
  · cases mem

theorem reply_taskError {s : System} (own : s.pool = some pool) (inPump : Bool) (call : Call)
    (thrown : Option Thrown) :
    (s.callOut (.taskError inPump) call).system.reply (.heard thrown) =
      (s.freeLane pool inPump).afterRecords (s.unheardByPool "taskError" thrown) := by
  cases s
  cases own
  rfl

/-- A lane is free after its work as soon as all have heard of a failure. -/
theorem endLane_heard {s : System} (own : s.pool = some pool) (outcome : Outcome) (inPump : Bool)
    (thrown : Option Thrown) (ends : List (Promise × Outcome)) :
    ((s.endLane pool outcome inPump).heard thrown ends).Like
      ((s.forget.settles (fulfilled ends)).freeLane pool.forget inPump) := by
  cases outcome with
  | fulfilled =>
      have freed := (s.settles ends).freeLane_like pool inPump
      rw [forget_settles, freeLane_settles] at freed
      exact (Reaction.heard_of_quiet (s.freeLane_like pool inPump).quiet thrown ends).symm ▸ freed
  | rejected e =>
      let failed := s.setPool (pool.fail e).1
      have same : failed.forget = s.forget := by
        simp [failed, forget, setPool, own, Pool.forget, Pool.fail]
      have freed : ((failed.settles ends).freeLane (pool.fail e).1 inPump).Like
          ((s.forget.settles (fulfilled ends)).freeLane pool.forget inPump) := by
        have like := (failed.settles ends).freeLane_like (pool.fail e).1 inPump
        rwa [forget_settles, same] at like
      let told := failed.callOut (.taskError inPump) (.pool (.taskError e))
      have heard : (told.system.settles ends).reply (.heard thrown) =
          ((failed.settles ends).freeLane (pool.fail e).1 inPump).afterRecords
            ((failed.settles ends).unheardByPool "taskError" thrown) := by
        have pushed := failed.callOut_settles ends (.taskError inPump) (.pool (.taskError e))
        have system : told.system.settles ends =
            ((failed.settles ends).callOut (.taskError inPump) (.pool (.taskError e))).system :=
          congrArg Reaction.system pushed.symm
        rw [system]
        exact reply_taskError (settles_own rfl ends) inPump (.pool (.taskError e)) thrown
      have all : (s.endLane pool (.rejected e) inPump).heard thrown ends =
          ((told.system.settles ends).reply (.heard thrown)).afterRecords (pool.fail e).2 :=
        Reaction.heard_after told _ thrown ends
      rw [all, heard]
      refine (freed.after_left ?_).after_left ?_
      · exact forget?_errors ((failed.settles ends).unheardByPool_errors "taskError" thrown)
      · exact forget?_errors fun r mem => by rw [eq_of_mem_write mem]

theorem goOn_agrees (run : Run) (outcome outcome' : Outcome) (inPump : Bool) :
    (s.goOn run outcome inPump).Agrees (s.forget.goOn run outcome' inPump) := by
  rw [goOn, goOn]
  refine .after ?_ rfl
  cases hs : run.starter with
  | caller => exact s.returned_like.agrees
  | lane =>
      cases hp : s.pool with
      | none =>
          rw [forget_pool_none hp]
          exact s.returned_like.agrees
      | some pool =>
          rw [forget_pool_some hp]
          intro thrown thrown' ends ends' same
          have there := endLane_heard (forget_pool_some hp) outcome' inPump thrown' ends'
          rw [forget_forget, ← fulfilled_congr same] at there
          exact (endLane_heard hp outcome inPump thrown ends).trans there.symm

/-- A task that comes back with either outcome, or by throwing as it did before. -/
theorem taskReturned_agrees (run : Run) (result : TaskReturn) :
    (s.taskReturned run result).Agrees (s.forget.taskReturned run result.forget) := by
  cases result with
  | settled outcome =>
      have left := leave_like (s.pushJob (.ofRun run outcome)) (run.starter == .lane)
      rw [← Guise.forgetful_system, ← guise_pushJob, ← guise_ofRun] at left
      exact left.agrees
  | later promise =>
      have left := leave_like (s.await promise run) (run.starter == .lane)
      rw [← Guise.forgetful_system, ← guise_await] at left
      exact left.agrees
  | threw e =>
      obtain ⟨work, starter⟩ := run
      cases work with
      | limited tag ticket =>
          exact (s.conclude_like tag ticket starter (.rejected e) (.rejected e) true).agrees
      | plain ticket =>
          cases starter with
          | lane => exact s.goOn_agrees _ _ _ true
          | caller =>
              let job (outcome : Outcome) : Job := .goOn ⟨.plain ticket, .caller⟩ outcome
              have pushed (s : System) :
                  (s.pushJob (job (.rejected e))).forget = s.forget.pushJob (job .fulfilled) :=
                (s.guise_pushJob .forgetful _).symm
              have here := returned_like (s.pushJob (job (.rejected e)))
              have there := returned_like (s.forget.pushJob (job (.rejected e)))
              rw [pushed] at here there
              rw [forget_forget] at there
              exact (here.trans there.symm).agrees

theorem taskReply_agrees (result : TaskReturn) :
    (s.reply (.task result)).Agrees (s.forget.reply (.task result.forget)) := by
  have stack : s.forget.stack = s.stack.map Frame.forget := rfl
  rw [System.reply, System.reply, stack]
  cases s.stack with
  | nil => exact s.ignored_like.agrees
  | cons frame rest =>
      cases frame with
      | task run => exact taskReturned_agrees { s with stack := rest } run result
      | message tag current more resume purpose => cases more <;> exact s.ignored_like.agrees
      | _ => exact s.ignored_like.agrees

theorem runJob_agrees : s.runJob.Agrees s.forget.runJob := by
  have stack : s.forget.stack = s.stack.map Frame.forget := rfl
  have jobs : s.forget.loop.jobs = s.loop.jobs.map Job.forget := rfl
  rw [runJob, runJob, stack, jobs]
  cases s.stack with
  | cons frame rest => exact s.ignored_like.agrees
  | nil =>
      cases s.loop.jobs with
      | nil => exact s.ignored_like.agrees
      | cons job rest =>
          let taken : System := { s with loop := { s.loop with jobs := rest }, stack := [] }
          cases job with
          | conclude tag ticket starter outcome =>
              exact (taken.conclude_like tag ticket starter outcome .fulfilled false).agrees
          | goOn run outcome => exact taken.goOn_agrees run outcome .fulfilled false

theorem react_agrees (m : Move) : (s.react m).Agrees (s.forget.react m.forget) := by
  by_cases goesOn : m.goesOn = true
  · unfold Move.goesOn at goesOn
    split at goesOn
    · exact s.taskReply_agrees _
    · exact s.runJob_agrees
    · cases goesOn
  · have went := s.react_disguised (v := .forgetful) (fun _ => Bool.eq_false_iff.2 goesOn) (.inl rfl)
      (.inl rfl)
    have move : Guise.forgetful.move m = m.forget := by
      cases m with
      | reply answer =>
          cases answer with
          | task result => exact absurd rfl goesOn
          | _ => rfl
      | _ => rfl
    rw [Guise.forgetful_base, move] at went
    exact (Reaction.Like.of_disguises went).agrees

end System

/-- A move, and what listeners of a failed work do if it comes to that: they settle promises and may
throw. If no work has failed, the promises are settled after the move. -/
structure Turn where
  move : Move
  ends : List (Promise × Outcome) := []
  thrown : Option Thrown := none

/-- A turn that leaves open how promises are settled. -/
def Turn.forget (t : Turn) : Move × List Promise := (t.move.forget, t.ends.map Prod.fst)

/-- A history with all signals. -/
structure Transcript extends History where
  signals : List Signal := []

namespace Transcript

def play (x : Transcript) (m : Move) : Transcript where
  toHistory := x.toHistory.play m
  signals := x.signals ++ [(x.system.react m).signal]

def plays (x : Transcript) (ms : List Move) : Transcript := ms.foldl play x

def settles (x : Transcript) (ends : List (Promise × Outcome)) : Transcript :=
  { x with system := x.system.settles ends }

def hear (x : Transcript) (t : Turn) : Transcript :=
  let told := (x.play t.move).settles t.ends
  if (x.system.react t.move).signal.tellsFailure then told.play (.reply (.heard t.thrown)) else told

def hears (x : Transcript) (turns : List Turn) : Transcript := turns.foldl hear x

/-- The signals but for those that tell of a failed work. -/
def unfailing (x : Transcript) : List Signal := x.signals.filter fun signal => !signal.tellsFailure

/-- Two transcripts that differ in outcomes only. -/
structure Like (x y : Transcript) : Prop where
  system : x.system.forget = y.system.forget
  notes : x.notes.filterMap Note.forget? = y.notes.filterMap Note.forget?
  signals : x.unfailing = y.unfailing

variable {x y : Transcript} {t t' : Turn}

/-- A turn adds what its move comes to once a failed work was told. -/
theorem hear_eq (x : Transcript) (t : Turn) :
    let r := (x.system.react t.move).heard t.thrown t.ends
    (x.hear t).system = r.system ∧ (x.hear t).notes = x.notes ++ r.notes ∧
      (x.hear t).unfailing = x.unfailing ++ [r.signal].filter fun signal => !signal.tellsFailure := by
  intro r
  by_cases fails : (x.system.react t.move).signal.tellsFailure = true
  · have told : r = (((x.system.react t.move).system.settles t.ends).reply (.heard t.thrown)).after
        (x.system.react t.move).notes := if_pos fails
    rw [hear, if_pos fails, told]
    refine ⟨rfl, List.append_assoc .., ?_⟩
    have failure : [(x.system.react t.move).signal].filter (fun signal => !signal.tellsFailure) =
        [] := by simp [fails]
    simp only [unfailing, play, settles, List.filter_append, failure, List.append_nil]
    rfl
  · have quiet : r = (x.system.react t.move).settles t.ends := if_neg fails
    rw [hear, if_neg fails, quiet]
    exact ⟨rfl, rfl, List.filter_append ..⟩

theorem Like.hear (h : x.Like y) (same : t.forget = t'.forget) : (x.hear t).Like (y.hear t') := by
  obtain ⟨systemx, notesx, signalsx⟩ := x.hear_eq t
  obtain ⟨systemy, notesy, signalsy⟩ := y.hear_eq t'
  obtain ⟨moves, promises⟩ := Prod.mk.inj same
  have here := x.system.react_agrees t.move t.thrown none t.ends t.ends rfl
  have there := y.system.react_agrees t'.move t'.thrown none t'.ends t.ends promises.symm
  rw [← h.system, ← moves] at there
  have like := here.trans there.symm
  refine ⟨?_, ?_, ?_⟩
  · rw [systemx, systemy, like.system]
  · rw [notesx, notesy, List.filterMap_append, List.filterMap_append, h.notes, like.notes]
  · rw [signalsx, signalsy, h.signals, like.signal]

theorem Like.hears (h : x.Like y) {turns turns' : List Turn}
    (same : turns.map Turn.forget = turns'.map Turn.forget) :
    (x.hears turns).Like (y.hears turns') := by
  induction turns generalizing x y turns' with
  | nil =>
      rw [List.map_eq_nil_iff.1 same.symm]
      exact h
  | cons t turns ih =>
      obtain ⟨t', others, rfl, first, rest⟩ := List.map_eq_cons_iff.1 same.symm
      exact ih (h.hear first.symm) rest.symm

theorem flatMap_forget? {α : Type} {f : Note → List α}
    (kept : ∀ note : Note, f note = note.forget?.toList.flatMap f) (notes : List Note) :
    (notes.filterMap Note.forget?).flatMap f = notes.flatMap f := by
  induction notes with
  | nil => rfl
  | cons note notes ih =>
      rw [List.flatMap_cons, List.filterMap_cons, kept, ← ih]
      cases note.forget? with
      | none => rfl
      | some seen => simp

/-- Stamps say the same in both, apart from outcomes. -/
theorem Like.stamps {α : Type} (h : x.Like y) {f : Stamp → Option α}
    (blind : ∀ run outcome, f (.seen run outcome) = f (.seen run .fulfilled)) :
    x.stamps.filterMap f = y.stamps.filterMap f := by
  have kept (note : Note) : note.stamps.filterMap f =
      note.forget?.toList.flatMap fun note => note.stamps.filterMap f := by
    cases note with
    | record r =>
        rw [Note.forget?]
        split <;> rfl
    | seen run outcome => simp [Note.forget?, Note.stamps, List.filterMap_cons, blind run outcome]
    | _ => simp [Note.forget?, Note.stamps]
  rw [History.stamps, History.stamps, List.filterMap_flatMap, List.filterMap_flatMap,
    ← flatMap_forget? kept x.notes, ← flatMap_forget? kept y.notes, h.notes]

/-- Moves that differ in how promises are settled bring about the same answers, events, slots, starts
of tasks and load of the pool, and tell the same to those who wait for it. -/
theorem failures_make_no_difference (s : System) {turns turns' : List Turn}
    (flipped : turns.map Turn.forget = turns'.map Turn.forget) :
    let x := (⟨⟨s, []⟩, []⟩ : Transcript).hears turns
    let y := (⟨⟨s, []⟩, []⟩ : Transcript).hears turns'
    x.unfailing = y.unfailing ∧ x.started = y.started ∧ x.told = y.told ∧
      x.system.limiter = y.system.limiter ∧
      x.system.pool.map Pool.forget = y.system.pool.map Pool.forget ∧
      x.system.forget = y.system.forget ∧
      x.notes.filterMap Note.forget? = y.notes.filterMap Note.forget? := by
  intro x y
  have like : x.Like y := .hears ⟨rfl, rfl, rfl⟩ flipped
  have limiter := congrArg System.limiter like.system
  have pool := congrArg System.pool like.system
  exact ⟨like.signals, like.stamps fun _ _ => rfl, like.stamps fun _ _ => rfl, limiter, pool,
    like.system, like.notes⟩

/-- Two tasks of a tag end in the same way, and a call waits for both. The promise of the second task
is settled where listeners would hear that the first one has failed. -/
def twoEnds (outcome : Outcome) : List Turn :=
  let first : List Move := [.submit "t", .reply (.heard none), .submit "t", .reply (.heard none),
    .awaitTermination (.ofInt 100), .immediate, .reply (.task (.later 0)), .settle 0 outcome, .job,
    .reply (.heard none), .reply (.heard none)]
  let second : List Move := [.immediate, .reply (.task (.later 1)), .job, .reply (.heard none), .job,
    .reply (.heard none)]
  let alone (move : Move) : Turn := { move }
  first.map alone ++ { move := .job, ends := [(1, outcome)] } :: second.map alone

theorem failed_tasks_let_others_start :
    let fine := (⟨⟨History.oneLane, []⟩, []⟩ : Transcript).hears (twoEnds .fulfilled)
    let bad := (⟨⟨History.oneLane, []⟩, []⟩ : Transcript).hears
      (twoEnds (.rejected (.value .undefined)))
    bad.system.pool.map Pool.failed = some 2 ∧ fine.system.pool.map Pool.failed = some 0 ∧
      bad.started = [.limited "t" 0, .limited "t" 1] ∧ bad.told = [(0, true)] ∧
      bad.unfailing = fine.unfailing := by
  intro fine bad
  have flipped : (twoEnds (.rejected (.value .undefined))).map Turn.forget =
      (twoEnds .fulfilled).map Turn.forget := rfl
  obtain ⟨signals, started, told, -⟩ := failures_make_no_difference History.oneLane flipped
  refine ⟨?_, ?_, started.trans ?_, told.trans ?_, signals⟩
  · decide +kernel
  · decide +kernel
  · decide +kernel
  · decide +kernel

end Transcript
end Turnstile
