import Turnstile.Proofs.Guises
import Turnstile.Proofs.Outcomes

/-!
Logging is observation only. A limiter with its slots writes to one logger and a pool to another, and
each logger may be absent. Whatever the loggers are, a run does the same: it differs in the records
alone, and these are what loggers that write everything would write, without the records whose level
does not reach the threshold. So stricter loggers leave out records of laxer ones and add none.

A record does not say which logger it was written to, but its message does: no message is written by
both a limiter and a pool.
-/
namespace Turnstile

/-- One logger writes whatever the other one writes, or less. -/
def Logging.Stricter (a b : Option Logging.Threshold) : Prop :=
  ∀ level, Logging.enabled a level = true → Logging.enabled b level = true

namespace Loggers

def keeps (g : Loggers) : Note → Bool
  | .record r => g.admits r
  | _ => true

structure Stricter (g g' : Loggers) : Prop where
  limiter : Logging.Stricter g.limiter g'.limiter
  pool : Logging.Stricter g.pool g'.pool

theorem Stricter.keeps {g g' : Loggers} (h : g.Stricter g') {note : Note}
    (kept : g.keeps note = true) : g'.keeps note = true := by
  cases note with
  | record r =>
      by_cases own : r.message ∈ poolMessages
      · simp only [Loggers.keeps, admits, writing, if_pos own] at kept ⊢
        exact h.pool _ kept
      · simp only [Loggers.keeps, admits, writing, if_neg own] at kept ⊢
        exact h.limiter _ kept
  | _ => rfl

/-- The guise that is these loggers. -/
def guise (g : Loggers) : Guise := { loggers := some g }

end Loggers

def Pool.withLogger (p : Pool) (logger : Option Logging.Threshold) : Pool := { p with logger }

def System.withLoggers (s : System) (g : Loggers) : System :=
  { s with
    limiter := { s.limiter with logger := g.limiter }
    pool := s.pool.map (Pool.withLogger · g.pool) }

/-- The same reaction of a system with other loggers, which let only some records through. -/
def Reaction.under (r : Reaction) (g : Loggers) : Reaction :=
  { r with system := r.system.withLoggers g, notes := r.notes.filter g.keeps }

namespace System
variable (s : System) (g : Loggers)

theorem withLoggers_pool : (s.withLoggers g).pool = s.pool.map (Pool.withLogger · g.pool) := rfl

theorem withLoggers_withLoggers (g' : Loggers) :
    (s.withLoggers g).withLoggers g' = s.withLoggers g' := by
  simp only [withLoggers, Option.map_map]
  rfl

theorem guise_loggers : g.guise.system s = s.withLoggers g := Guise.system_of_remembers rfl s

theorem guise_reaction (r : Reaction) : g.guise.reaction r = r.under g := by
  have keeps : g.guise.keeps = g.keeps := by
    funext note
    cases note <;> simp [Guise.keeps, Guise.admits, Loggers.guise, Loggers.keeps]
  rw [Guise.reaction, Reaction.under, guise_loggers, Guise.notes_of_remembers rfl, keeps]

/-- With other loggers a move comes to the same, but for the records that these let through. -/
theorem react_under (m : Move) :
    (s.withLoggers g).react m = ((s.withLoggers .full).react m).under g := by
  have base : g.guise.base.system s = s.withLoggers .full := guise_loggers s .full
  rw [← guise_loggers, s.react_of_remembers rfl (.inl rfl) (.inl rfl), base, guise_reaction]

end System

/-- What a run begins with: a single slot with any limit or a limiter, and a runner, which is a pool
where a number of lanes is given. A pool alone is one whose slot is never used. -/
inductive Beginning where
  | slot (tag : Tag) (limit : Limit) (lanes : Option Value)
  | limiter (limit : Value) (lanes : Option Value)

def Note.record? : Note → Option Logging.Record
  | .record r => some r
  | _ => none

namespace Transcript
variable (x : Transcript) (g : Loggers)

def records (x : Transcript) : List Logging.Record := x.notes.filterMap Note.record?

/-- The same transcript with other loggers, which let only some records through. -/
def under (x : Transcript) (g : Loggers) : Transcript where
  system := x.system.withLoggers g
  notes := x.notes.filter g.keeps
  signals := x.signals

end Transcript

namespace Loggers

/-- No loggers: nothing is written. -/
def absent : Loggers := ⟨none, none⟩

theorem absent_stricter (g : Loggers) : absent.Stricter g :=
  ⟨fun _ enabled => absurd enabled Bool.false_ne_true,
    fun _ enabled => absurd enabled Bool.false_ne_true⟩

theorem stricter_full (g : Loggers) : g.Stricter full :=
  ⟨fun level _ => (full_enabled level).1, fun level _ => (full_enabled level).2⟩

theorem Stricter.filter_keeps {g g' : Loggers} (h : g.Stricter g') (notes : List Note) :
    (notes.filter g'.keeps).filter g.keeps = notes.filter g.keeps := by
  rw [List.filter_filter]
  refine List.filter_congr fun note _ => ?_
  cases kept : g.keeps note with
  | true => rw [h.keeps kept, Bool.and_self]
  | false => rw [Bool.false_and]

end Loggers

namespace Transcript
variable (x : Transcript) (g : Loggers)

theorem records_under : (x.under g).records = x.records.filter g.admits := by
  rw [records, records, under, List.filterMap_filter, List.filter_filterMap]
  refine List.filterMap_congr fun note _ => ?_
  cases note with
  | record r => cases h : g.admits r <;> simp [Loggers.keeps, Note.record?, Option.filter, h]
  | _ => rfl

theorem under_under {g g' : Loggers} (stricter : g.Stricter g') :
    (x.under g').under g = x.under g := by
  rw [under, under, under, System.withLoggers_withLoggers, stricter.filter_keeps]

theorem play_under (m : Move) : (x.under g).play m = ((x.under .full).play m).under g := by
  have went := x.system.react_under g m
  have notes := g.stricter_full.filter_keeps x.notes
  simp only [play, History.play, under, went, Reaction.under, List.filter_append, notes]

/-- With other loggers a run comes to the same, but for the records that these let through. -/
theorem plays_under (ms : List Move) :
    (x.under g).plays ms = ((x.under .full).plays ms).under g := by
  induction ms generalizing x with
  | nil => exact (x.under_under g.stricter_full).symm
  | cons m ms ih =>
      have first := ih ((x.under .full).play m)
      rw [← x.play_under g m, ← x.play_under .full m] at first
      exact first

end Transcript

namespace Beginning

def opened (g : Loggers) : Beginning → Except Fault Transcript
  | .slot tag limit lanes => do
    let pool ← lanes.mapM (Pool.create · g.pool)
    pure {
      system := {
        limiter := { limit, logger := g.limiter, slots := [(tag, {})] }, pool, audience := .observer } }
  | .limiter limit lanes => do
    let pool ← lanes.mapM (Pool.create · g.pool)
    let made ← Limiter.create limit g.limiter
    pure { system := { limiter := made.1, pool }, notes := made.2.map .record }

/-- A run of moves from the beginning. -/
def scripted (b : Beginning) (ms : List Move) (g : Loggers) : Except Fault Transcript :=
  (b.opened g).map (Transcript.plays · ms)

theorem create_withLogger (lanes : Option Value) (g : Loggers) :
    lanes.mapM (Pool.create · g.pool) =
      (lanes.mapM (Pool.create · Loggers.full.pool)).map
        (Option.map (Pool.withLogger · g.pool)) := by
  cases lanes with
  | none => rfl
  | some n =>
      simp only [Option.mapM_some, Pool.create]
      cases (Config.checkConcurrency n).orFault "concurrency" <;> rfl

theorem opened_under (b : Beginning) (g : Loggers) :
    b.opened g = (b.opened .full).map (Transcript.under · g) := by
  cases b with
  | slot tag limit lanes =>
      simp only [opened, create_withLogger lanes g]
      cases lanes.mapM (Pool.create · Loggers.full.pool) <;> rfl
  | limiter limit lanes =>
      simp only [opened, create_withLogger lanes g]
      cases lanes.mapM (Pool.create · Loggers.full.pool) with
      | error e => rfl
      | ok pool =>
          simp only [Limiter.create]
          cases (Config.checkTagLimit limit).orFault "limit" with
          | error e => rfl
          | ok n =>
              have initial :
                  Logging.write g.limiter .info "TaggedLimiter initialized" [Logging.count "limit" n] =
                    (Logging.write Loggers.full.limiter .info "TaggedLimiter initialized"
                      [Logging.count "limit" n]).filter g.admits :=
                g.guise.limiter_write none _ (by decide)
              have kept (records : List Logging.Record) : (records.map Note.record).filter g.keeps =
                  (records.filter g.admits).map Note.record := List.filter_map
              simp only [Except.map]
              change Except.ok _ = Except.ok _
              rw [Transcript.under, kept, ← initial]
              rfl

theorem scripted_under (b : Beginning) (ms : List Move) {g g' : Loggers} (stricter : g.Stricter g') :
    b.scripted ms g = (b.scripted ms g').map (Transcript.under · g) := by
  have opened := b.opened_under
  simp only [scripted]
  rw [opened g, opened g']
  cases b.opened .full with
  | error e => rfl
  | ok x =>
      simp only [Except.map]
      rw [x.plays_under g ms, x.plays_under g' ms, Transcript.under_under _ stricter]

/-- Loggers make no difference to a run. With any two choices of them the same answers are given, the
same events told and the same works offered to the runner (the signals), all slots and counters are
the same, and so is all that is noted except for records. The records of one that reach the
thresholds of the other are those of the other that reach the thresholds of the one; so stricter
loggers write exactly the records of laxer ones that reach the stricter thresholds, in order. -/
theorem logging_only_observes (b : Beginning) (ms : List Move) (g g' : Loggers) :
    let x := b.scripted ms g
    let y := b.scripted ms g'
    x.map Transcript.signals = y.map Transcript.signals ∧
    x.map (·.system.limiter.stats) = y.map (·.system.limiter.stats) ∧
    x.map (·.system.pool.map Pool.stats) = y.map (·.system.pool.map Pool.stats) ∧
    x.map (Transcript.under · .absent) = y.map (Transcript.under · .absent) ∧
    x.map (·.records.filter g'.admits) = y.map (·.records.filter g.admits) ∧
    (g.Stricter g' → x.map (·.notes) = y.map (·.notes.filter g.keeps) ∧
      x.map Transcript.records = y.map (·.records.filter g.admits)) := by
  intro x y
  have full (g : Loggers) := b.scripted_under ms g.stricter_full
  have records (g g' : Loggers) (x : Transcript) (stricter : g.Stricter g') :
      (x.under g).records = (x.under g').records.filter g.admits := by
    rw [← Transcript.records_under, Transcript.under_under _ stricter]
  simp only [x, y]
  rw [full g, full g']
  cases b.scripted ms .full with
  | error e => exact ⟨rfl, rfl, rfl, rfl, rfl, fun _ => ⟨rfl, rfl⟩⟩
  | ok x =>
      simp only [Except.map, Except.ok.injEq]
      refine ⟨rfl, rfl, ?_, ?_, ?_, fun stricter => ⟨?_, ?_⟩⟩
      · simp only [Transcript.under, System.withLoggers_pool, Option.map_map]
        rfl
      · rw [Transcript.under_under _ g.absent_stricter, Transcript.under_under _ g'.absent_stricter]
      · rw [Transcript.records_under, Transcript.records_under, List.filter_filter, List.filter_filter]
        exact List.filter_congr fun r _ => Bool.and_comm ..
      · exact (stricter.filter_keeps x.notes).symm
      · exact records g g' x stricter

/-- Of the records of a submission whose listener fails, only the report of the failure is left at the
threshold for errors. -/
theorem errors_alone_are_left :
    let b : Beginning := .limiter (.number (.ofInt 1)) none
    let ms : List Move := [.submit "t", .reply .accept, .reply (.heard (some (.value .undefined)))]
    let all : Loggers := ⟨some (.atLeast .trace), none⟩
    let errors : Loggers := ⟨some (.atLeast .error), none⟩
    (b.scripted ms errors).map Transcript.records =
        (b.scripted ms all).map (·.records.filter errors.admits) ∧
      (b.scripted ms all).toOption.map (·.records.map Logging.Record.message) =
        some ["TaggedLimiter initialized", "run()", "Task dispatched",
          "Error emitting dispatched event"] ∧
      (b.scripted ms errors).toOption.map (·.records.map Logging.Record.message) =
        some ["Error emitting dispatched event"] := by
  intro b ms all errors
  have stricter : errors.Stricter all := by
    refine ⟨fun level _ => ?_, fun _ enabled => enabled⟩
    cases level <;> rfl
  refine ⟨((logging_only_observes b ms errors all).2.2.2.2.2 stricter).2, ?_, ?_⟩
  · decide +kernel
  · decide +kernel

end Beginning
end Turnstile
