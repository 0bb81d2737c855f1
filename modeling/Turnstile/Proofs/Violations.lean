import Mathlib
import Turnstile.Proofs.Checks

/-!
What validation answers. A configuration is accepted just if it is valid, as the value that it was
given with the defaults filled in, and is then accepted as it is. Else all that is wrong with it is
reported: the constraints are a flat list, in the order of the schema, and each one that is broken is
one issue, with its own path, and one entry of the message.

An entry is a line, except one: the text of an unknown level is quoted as it stands, and may itself
have several.
-/
namespace Turnstile.Config
variable {v w : Value}

/-- A constraint on the value that stands under a path: what is said of one that breaks it. -/
structure Constraint where
  path : List String
  objection : Value → Option String

/-- A value of other kinds than some. Not-a-number is of a kind of its own. -/
def otherThan (kinds : List String) (message : Value → String) (v : Value) : Option String :=
  if v.kind ∈ kinds then none else some (message v)

def fraction (message : String) : Value → Option String
  | .number .nan => none
  | .number n => if n.isInteger then none else some message
  | _ => none

def below (tooSmall : Number → Bool) (message : String) : Value → Option String
  | .number n => if tooSmall n then some message else none
  | _ => none

def unknownLevel : Value → Option String
  | .text s =>
    if s ∈ ["fatal", "error", "warn", "info", "debug", "trace", "silent"] then none
    else some ("Invalid enum value. Expected " ++ levelNames ++ ", received '" ++ s ++ "'")
  | _ => none

def emptyText (message : String) : Value → Option String
  | .text s => if s = "" then some message else none
  | _ => none

/-- The constraints in the order of the schema. A missing section or field breaks none. -/
def constraints : List Constraint := [
  ⟨[], otherThan ["object"] (expected "object")⟩,
  ⟨["tagged_limiter"], otherThan ["undefined", "object"] (expected "object")⟩,
  ⟨["tagged_limiter", "max_concurrent_per_tag"],
    otherThan ["undefined", "number"] fun _ => "must be a number"⟩,
  ⟨["tagged_limiter", "max_concurrent_per_tag"], fraction "must be an integer"⟩,
  ⟨["tagged_limiter", "max_concurrent_per_tag"], below (·.lt 0) "must be >= 0"⟩,
  ⟨["task_runner"], otherThan ["undefined", "object"] (expected "object")⟩,
  ⟨["task_runner", "concurrency"], otherThan ["undefined", "number"] fun _ => "must be a number"⟩,
  ⟨["task_runner", "concurrency"], fraction "must be an integer"⟩,
  ⟨["task_runner", "concurrency"], below (·.lt 1) "must be >= 1"⟩,
  ⟨["task_runner", "termination_timeout_ms"],
    otherThan ["undefined", "number"] (expected "number")⟩,
  ⟨["task_runner", "termination_timeout_ms"], fraction "Expected integer, received float"⟩,
  ⟨["task_runner", "termination_timeout_ms"], below (·.le 0) "must be positive"⟩,
  ⟨["logging"], otherThan ["undefined", "object"] (expected "object")⟩,
  ⟨["logging", "level"], otherThan ["undefined", "string"] (expected levelNames)⟩,
  ⟨["logging", "level"], unknownLevel⟩,
  ⟨["logging", "name"], otherThan ["undefined", "string"] (expected "string")⟩,
  ⟨["logging", "name"], emptyText "Logger name cannot be empty"⟩]

/-- The problems of a value, one for each constraint that is broken. -/
def broken (constraints : List Constraint) (v : Value) : List Problem :=
  constraints.filterMap fun c =>
    (c.objection (c.path.foldl Value.field v)).map fun message => ⟨c.path, message⟩

/-- A verdict fails with just the problems that there are. -/
def Reports (verdict : Verdict α) (problems : List Problem) : Prop :=
  match verdict with
  | .ok _ => problems = []
  | .error found => found = problems ∧ problems ≠ []

namespace Reports
variable {verdict : Verdict α} {other : Verdict β} {problems others : List Problem}

theorem map (reports : Reports verdict problems) (f : α → β) : Reports (verdict.map f) problems := by
  cases verdict <;> exact reports

theorem under (reports : Reports verdict problems) (key : String) :
    Reports (verdict.under key) (problems.map fun p => { p with path := key :: p.path }) := by
  cases verdict with
  | ok a =>
      obtain rfl : problems = [] := reports
      rfl
  | error found =>
      obtain ⟨rfl, some⟩ := reports
      exact ⟨rfl, by simpa using some⟩

theorem and (first : Reports verdict problems) (second : Reports other others) :
    Reports (verdict.and other) (problems ++ others) := by
  cases verdict with
  | ok a =>
      obtain rfl : problems = [] := first
      cases other <;> exact second
  | error found =>
      obtain ⟨rfl, some⟩ := first
      cases other with
      | ok b =>
          obtain rfl : others = [] := second
          exact ⟨(List.append_nil _).symm, by simpa using some⟩
      | error more =>
          obtain ⟨rfl, -⟩ := second
          exact ⟨rfl, by simp [some]⟩

end Reports

/-- A constraint on what stands under a key. -/
def Constraint.under (key : String) (c : Constraint) : Constraint := { c with path := key :: c.path }

variable {cs ds : List Constraint} {key : String}

theorem broken_cons (path : List String) (objection : Value → Option String) :
    broken (⟨path, objection⟩ :: cs) v =
      ((objection (path.foldl Value.field v)).map (Problem.mk path)).toList ++ broken cs v := by
  cases said : objection (path.foldl Value.field v) <;> simp [broken, said]

theorem broken_append : broken (cs ++ ds) v = broken cs v ++ broken ds v := List.filterMap_append

theorem broken_under (cs : List Constraint) (key : String) (v : Value) :
    broken (cs.map (Constraint.under key)) v =
      (broken cs (v.field key)).map fun p => { p with path := key :: p.path } := by
  rw [broken, broken, List.filterMap_map, List.map_filterMap]
  refine List.filterMap_congr fun c _ => ?_
  simp only [Function.comp_apply, Constraint.under, List.foldl_cons, Option.map_map]
  rfl

section Fields

attribute [local simp] Reports Verdict.fail broken_cons otherThan Value.kind fraction below
  unknownLevel emptyText

theorem broken_nil : broken [] v = [] := rfl

attribute [local simp] broken_nil

/-- The constraints on a count, by what its rule says of values of another kind. -/
def countConstraints (rule : CountRule) (said : Value → String) : List Constraint := [
  ⟨[], otherThan ["undefined", "number"] said⟩,
  ⟨[], fraction rule.integerMessage⟩,
  ⟨[], below rule.tooSmall rule.boundMessage⟩]

def levelConstraints : List Constraint := [
  ⟨[], otherThan ["undefined", "string"] (expected levelNames)⟩,
  ⟨[], unknownLevel⟩]

def nameConstraints : List Constraint := [
  ⟨[], otherThan ["undefined", "string"] (expected "string")⟩,
  ⟨[], emptyText "Logger name cannot be empty"⟩]

theorem broken_countConstraints {rule : CountRule} {said : Value → String} {n : Number}
    (number : n ≠ .nan) : broken (countConstraints rule said) (.number n) = rule.violations n := by
  have kind : otherThan ["undefined", "number"] said (.number n) = none := by
    cases n <;> simp at number ⊢
  have whole : fraction rule.integerMessage (.number n) =
      if n.isInteger then none else some rule.integerMessage := by
    cases n <;> simp at number ⊢
  by_cases integer : n.isInteger = true <;> by_cases small : rule.tooSmall n = true <;>
    simp [countConstraints, CountRule.violations, -otherThan, -fraction, kind, whole, integer, small]

theorem reports_number {rule : CountRule} {n : Number} (number : n ≠ .nan) :
    Reports (rule.check (.number n)) (rule.violations n) := by
  unfold CountRule.check
  split
  · rename_i same
    exact absurd (Value.number.inj same) number
  · rename_i same
    cases same
    split
    · rename_i none
      exact none
    · rename_i some
      exact ⟨rfl, some⟩
  · rename_i other
    exact absurd rfl (other n)

theorem reports_countRule {rule : CountRule} {said : Value → String}
    (message : ∀ v ≠ .undefined, rule.kindMessage v = said v) (unordered : rule.tooSmall .nan = false)
    (present : v ≠ .undefined) :
    Reports (rule.check v) (broken (countConstraints rule said) v) := by
  have said := message v present
  cases v with
  | undefined => exact absurd rfl present
  | number n =>
      by_cases number : n = .nan
      · subst number
        simp [CountRule.check, countConstraints, unordered, said]
      · rw [broken_countConstraints number]
        exact reports_number number
  | _ => simp [CountRule.check, countConstraints, said]

theorem reports_atLeast (least : Nat) (present : v ≠ .undefined) :
    Reports ((CountRule.atLeast least).check v)
      (broken (countConstraints (.atLeast least) fun _ => "must be a number") v) := by
  refine reports_countRule (fun v present => ?_) rfl present
  cases v with
  | undefined => exact absurd rfl present
  | _ => rfl

theorem reports_positive (present : v ≠ .undefined) :
    Reports (CountRule.positive.check v)
      (broken (countConstraints .positive (expected "number")) v) :=
  reports_countRule (fun _ _ => rfl) rfl present

theorem mem_levels {s : String} :
    s ∈ ["fatal", "error", "warn", "info", "debug", "trace", "silent"] ↔
      ∃ t : Logging.Threshold, s = t.text := by
  have all (t : Logging.Threshold) : t ∈ Logging.Threshold.all := by
    cases t with
    | atLeast level => cases level <;> decide
    | silent => decide
  show s ∈ Logging.Threshold.all.map Logging.Threshold.text ↔ _
  simp only [List.mem_map, all, true_and, eq_comm]

theorem reports_checkLevel (present : v ≠ .undefined) :
    Reports (checkLevel v) (broken levelConstraints v) := by
  cases v with
  | undefined => exact absurd rfl present
  | number n => cases n <;> simp [checkLevel, levelConstraints]
  | text s =>
      rw [checkLevel]
      cases found : Logging.Threshold.ofText? s with
      | none =>
          have unknown : unknownLevel (.text s) =
              some ("Invalid enum value. Expected " ++ levelNames ++ ", received '" ++ s ++ "'") := by
            refine if_neg fun known => ?_
            obtain ⟨t, here⟩ := mem_levels.1 known
            rw [Logging.Threshold.ofText?_eq_some.2 here] at found
            cases found
          simp [levelConstraints, -unknownLevel, unknown]
      | some t =>
          have known : unknownLevel (.text s) = none :=
            if_pos (mem_levels.2 ⟨t, Logging.Threshold.ofText?_eq_some.1 found⟩)
          simp [levelConstraints, -unknownLevel, known]
  | _ => simp [checkLevel, levelConstraints]

theorem reports_checkName (present : v ≠ .undefined) :
    Reports (checkName v) (broken nameConstraints v) := by
  cases v with
  | undefined => exact absurd rfl present
  | number n => cases n <;> simp [checkName, nameConstraints]
  | text s => by_cases empty : s = "" <;> simp [checkName, nameConstraints, empty]
  | _ => simp [checkName, nameConstraints]

/-- A missing field breaks none of its constraints, nor does its default. -/
theorem reports_checkField {check : Value → Verdict α} (key : String) (fallback : α)
    (reports : ∀ {v}, v ≠ .undefined → Reports (check v) (broken cs v))
    (kept : broken cs .undefined = []) (v : Value) :
    Reports (checkField v key fallback check) (broken (cs.map (Constraint.under key)) v) := by
  rw [broken_under, checkField]
  refine Reports.under ?_ key
  cases v.field key with
  | undefined => exact kept
  | _ => exact reports (by simp)

end Fields

def limiterConstraints : List Constraint :=
  (countConstraints (.atLeast 0) fun _ => "must be a number").map
    (Constraint.under "max_concurrent_per_tag")

def runnerConstraints : List Constraint :=
  (countConstraints (.atLeast 1) fun _ => "must be a number").map (Constraint.under "concurrency") ++
    (countConstraints .positive (expected "number")).map (Constraint.under "termination_timeout_ms")

def loggingConstraints : List Constraint :=
  levelConstraints.map (Constraint.under "level") ++ nameConstraints.map (Constraint.under "name")

def sectionConstraints (fields : List Constraint) : List Constraint :=
  ⟨[], otherThan ["undefined", "object"] (expected "object")⟩ :: fields

/-- Constraints that a value without fields breaks none of. -/
def OnFields (cs : List Constraint) : Prop :=
  ∀ v : Value, (∀ key, v.field key = .undefined) → broken cs v = []

theorem OnFields.append (first : OnFields cs) (second : OnFields ds) : OnFields (cs ++ ds) := by
  intro v fieldless
  rw [broken_append, first v fieldless, second v fieldless, List.append_nil]

theorem onFields_under (key : String) (kept : broken cs .undefined = []) :
    OnFields (cs.map (Constraint.under key)) := by
  intro v fieldless
  rw [broken_under, fieldless, kept, List.map_nil]

theorem onFields_limiterConstraints : OnFields limiterConstraints := onFields_under _ rfl

theorem onFields_runnerConstraints : OnFields runnerConstraints :=
  (onFields_under _ rfl).append (onFields_under _ rfl)

theorem onFields_loggingConstraints : OnFields loggingConstraints :=
  (onFields_under _ rfl).append (onFields_under _ rfl)

theorem field_of_other (other : v.kind ≠ "object") (key : String) : v.field key = .undefined := by
  cases v with
  | mapping | binary => exact absurd rfl other
  | _ => rfl

/-- A value that is no mapping breaks that constraint and none on fields. -/
theorem reports_checkMapping {fields : Value → Verdict α} {kinds : List String}
    (reports : ∀ v, Reports (fields v) (broken cs v)) (onFields : OnFields cs)
    (named : v.kind ∈ kinds ↔ v.kind = "object") :
    Reports (checkMapping fields v) (broken (⟨[], otherThan kinds (expected "object")⟩ :: cs) v) := by
  rw [broken_cons, otherThan, List.foldl_nil]
  by_cases object : v.kind = "object"
  · rw [if_pos (named.2 object), checkMapping_of_object object]
    exact reports v
  · rw [if_neg fun mem => object (named.1 mem), checkMapping_of_other object,
      onFields v (field_of_other object)]
    exact ⟨rfl, by simp⟩

theorem reports_checkSection {fields : Value → Verdict α}
    (reports : ∀ v, Reports (fields v) (broken cs v)) (onFields : OnFields cs) (v : Value) :
    Reports (checkSection fields v) (broken (sectionConstraints cs) v) := by
  by_cases missing : v = .undefined
  · subst missing
    have none : broken (sectionConstraints cs) .undefined = broken cs (.ofFields []) := by
      rw [sectionConstraints, broken_cons, onFields _ fun _ => rfl, onFields _ fun _ => rfl]
      rfl
    rw [none]
    exact reports (.ofFields [])
  · have check : checkSection fields v = checkMapping fields v := by
      cases v with
      | undefined => exact absurd rfl missing
      | _ => rfl
    have present : v.kind ≠ "undefined" := by
      cases v with
      | undefined => exact absurd rfl missing
      | number n => cases n <;> simp [Value.kind]
      | _ => simp [Value.kind]
    rw [check]
    exact reports_checkMapping reports onFields (by simp [present])

theorem reports_limiterSection (v : Value) :
    Reports (checkLimiterSection v) (broken (sectionConstraints limiterConstraints) v) :=
  reports_checkSection (reports_checkField _ _ (reports_atLeast 0) rfl) onFields_limiterConstraints v

theorem reports_runnerSection (v : Value) :
    Reports (checkRunnerSection v) (broken (sectionConstraints runnerConstraints) v) := by
  refine reports_checkSection (fun v => ?_) onFields_runnerConstraints v
  rw [runnerConstraints, broken_append]
  exact (reports_checkField _ _ (reports_atLeast 1) rfl v).and
    (reports_checkField _ _ reports_positive rfl v)

theorem reports_loggingSection (v : Value) :
    Reports (checkLoggingSection v) (broken (sectionConstraints loggingConstraints) v) := by
  refine reports_checkSection (fun v => ?_) onFields_loggingConstraints v
  rw [loggingConstraints, broken_append]
  exact (reports_checkField _ _ reports_checkLevel rfl v).and
    (reports_checkField _ _ reports_checkName rfl v)

theorem constraints_eq :
    constraints = ⟨[], otherThan ["object"] (expected "object")⟩ ::
      ((sectionConstraints limiterConstraints).map (Constraint.under "tagged_limiter") ++
        ((sectionConstraints runnerConstraints).map (Constraint.under "task_runner") ++
          (sectionConstraints loggingConstraints).map (Constraint.under "logging"))) := rfl

theorem onFields_section (onFields : OnFields cs) (key : String) :
    OnFields ((sectionConstraints cs).map (Constraint.under key)) := by
  refine onFields_under key ?_
  rw [sectionConstraints, broken_cons, onFields _ fun _ => rfl]
  rfl

theorem reports_check (v : Value) : Reports (check v) (broken constraints v) := by
  rw [constraints_eq]
  refine reports_checkMapping (fun v => ?_) ?_ (by simp)
  · rw [broken_append, broken_append, broken_under, broken_under, broken_under]
    exact (((reports_limiterSection _).under _).and
      (((reports_runnerSection _).under _).and ((reports_loggingSection _).under _))).map _
  · exact (onFields_section onFields_limiterConstraints _).append
      ((onFields_section onFields_runnerConstraints _).append
        (onFields_section onFields_loggingConstraints _))

/-- A missing value, or one of a kind. -/
def Optional (kind : Value → Prop) (v : Value) : Prop := v = .undefined ∨ kind v

/-- A valid configuration: sections and fields are missing or what they have to be. -/
structure Valid (v : Value) : Prop where
  mapping : v.kind = "object"
  limiterSection : Optional (·.kind = "object") (v.field "tagged_limiter")
  runnerSection : Optional (·.kind = "object") (v.field "task_runner")
  loggingSection : Optional (·.kind = "object") (v.field "logging")
  maxConcurrentPerTag :
    Optional (fun w => ∃ n : Nat, w = .number (.ofInt n))
      ((v.field "tagged_limiter").field "max_concurrent_per_tag")
  concurrency :
    Optional (fun w => ∃ n : Nat, w = .number (.ofInt n) ∧ 1 ≤ n)
      ((v.field "task_runner").field "concurrency")
  terminationTimeoutMs :
    Optional (fun w => ∃ n : Nat, w = .number (.ofInt n) ∧ 0 < n)
      ((v.field "task_runner").field "termination_timeout_ms")
  level :
    Optional (fun w => ∃ s ∈ ["fatal", "error", "warn", "info", "debug", "trace", "silent"],
      w = .text s) ((v.field "logging").field "level")
  name : Optional (fun w => ∃ s, w = .text s ∧ s ≠ "") ((v.field "logging").field "name")

/-- A value that is given, or what stands for a missing one. -/
def given (fallback : Value) : Value → Value
  | .undefined => fallback
  | v => v

/-- A configuration with what is missing of it filled in, and without all that is not declared. -/
def completed (v : Value) : Value :=
  let limiter := v.field "tagged_limiter"
  let runner := v.field "task_runner"
  let logging := v.field "logging"
  .ofFields [
    ("tagged_limiter", .ofFields [
      ("max_concurrent_per_tag",
        given (.number (.ofInt 2)) (limiter.field "max_concurrent_per_tag"))]),
    ("task_runner", .ofFields [
      ("concurrency", given (.number (.ofInt 4)) (runner.field "concurrency")),
      ("termination_timeout_ms",
        given (.number (.ofInt 1000)) (runner.field "termination_timeout_ms"))]),
    ("logging", .ofFields [
      ("level", given (.text "info") (logging.field "level")),
      ("name", given (.text "tagged-limiter") (logging.field "name"))])]

theorem exists_states (reads : Value → α → Prop) (fallback : α) :
    (∃ a, States reads fallback v a) ↔ Optional (fun w => ∃ a, reads w a) v := by
  simp only [States, exists_or, Optional, exists_and_left, exists_eq, and_true]

theorem exists_states_count (fallback : Nat) :
    (∃ n, States (IsCount 0) fallback v n) ↔
      Optional (fun w => ∃ n : Nat, w = .number (.ofInt n)) v := by
  simp only [exists_states, IsCount, Nat.zero_le, and_true]

theorem exists_states_level (fallback : Logging.Threshold) :
    (∃ t, States IsLevel fallback v t) ↔
      Optional (fun w => ∃ s ∈ ["fatal", "error", "warn", "info", "debug", "trace", "silent"],
        w = .text s) v := by
  have level (w : Value) : (∃ s ∈ ["fatal", "error", "warn", "info", "debug", "trace", "silent"],
      w = .text s) ↔ ∃ t, IsLevel w t := by
    constructor
    · rintro ⟨s, mem, rfl⟩
      obtain ⟨t, rfl⟩ := mem_levels.1 mem
      exact ⟨t, rfl⟩
    · rintro ⟨t, rfl⟩
      exact ⟨t.text, mem_levels.2 ⟨t, rfl⟩, rfl⟩
  simp only [exists_states, level]

theorem valid_iff : Valid v ↔ v.kind = "object" ∧ ∃ c, Stated v c := by
  constructor
  · intro valid
    obtain ⟨limit, a⟩ :=
      (exists_states_count Defaults.maxConcurrentPerTag).2 valid.maxConcurrentPerTag
    obtain ⟨lanes, b⟩ := (exists_states (IsCount 1) Defaults.concurrency).2 valid.concurrency
    obtain ⟨ms, d⟩ :=
      (exists_states (IsCount 1) Defaults.terminationTimeoutMs).2 valid.terminationTimeoutMs
    obtain ⟨level, e⟩ := (exists_states_level Defaults.level).2 valid.level
    obtain ⟨name, f⟩ := (exists_states IsName Defaults.name).2 valid.name
    exact ⟨valid.mapping, ⟨limit, lanes, ms, level, name⟩,
      ⟨valid.limiterSection, valid.runnerSection, valid.loggingSection, a, b, d, e, f⟩⟩
  · rintro ⟨mapping, c, stated⟩
    exact {
      mapping
      limiterSection := stated.limiterSection
      runnerSection := stated.runnerSection
      loggingSection := stated.loggingSection
      maxConcurrentPerTag := (exists_states_count _).1 ⟨_, stated.maxConcurrentPerTag⟩
      concurrency := (exists_states _ _).1 ⟨_, stated.concurrency⟩
      terminationTimeoutMs := (exists_states _ _).1 ⟨_, stated.terminationTimeoutMs⟩
      level := (exists_states_level _).1 ⟨_, stated.level⟩
      name := (exists_states _ _).1 ⟨_, stated.name⟩ }

/-- What a setting states is what is given, or the default. -/
theorem given_of_states {reads : Value → α → Prop} (write : α → Value) {fallback a : α}
    (written : ∀ a, reads v a → v = write a) (present : ∀ a, write a ≠ .undefined)
    (states : States reads fallback v a) : given (write fallback) v = write a := by
  obtain ⟨rfl, rfl⟩ | reads := states
  · rfl
  · rw [written a reads]
    have present := present a
    cases here : write a with
    | undefined => exact absurd here present
    | _ => rfl

theorem given_of_states_count {least fallback n : Nat}
    (states : States (IsCount least) fallback v n) :
    given (.number (.ofInt fallback)) v = .number (.ofInt n) :=
  given_of_states (fun n : Nat => .number (.ofInt n)) (fun _ count => count.1) (by simp) states

/-- The configuration that a value states is the value with what is missing filled in. -/
theorem completed_eq {c : Config} (stated : Stated v c) : completed v = c.toValue := by
  have limit : given (.number (.ofInt 2)) _ = .number (.ofInt c.maxConcurrentPerTag) :=
    given_of_states_count stated.maxConcurrentPerTag
  have lanes : given (.number (.ofInt 4)) _ = .number (.ofInt c.concurrency) :=
    given_of_states_count stated.concurrency
  have ms : given (.number (.ofInt 1000)) _ = .number (.ofInt c.terminationTimeoutMs) :=
    given_of_states_count stated.terminationTimeoutMs
  have level : given (.text "info") _ = .text c.level.text :=
    given_of_states (fun t : Logging.Threshold => .text t.text) (fun _ level => level) (by simp)
      stated.level
  have name : given (.text "tagged-limiter") _ = .text c.name :=
    given_of_states Value.text (fun _ name => name.1) (by simp) stated.name
  simp only [completed, limit, lanes, ms, level, name]
  rfl

theorem States.holds {reads : Value → α → Prop} {fallback a : α}
    (states : States reads fallback v a) (good : α → Prop) (default : good fallback)
    (read : reads v a → good a) : good a := by
  obtain ⟨-, rfl⟩ | reads := states
  · exact default
  · exact read reads

/-- A configuration states itself. -/
theorem stated_toValue {c : Config} (stated : Stated v c) : Stated c.toValue c where
  limiterSection := .inr rfl
  runnerSection := .inr rfl
  loggingSection := .inr rfl
  maxConcurrentPerTag := .inr ⟨rfl, Nat.zero_le _⟩
  concurrency := .inr ⟨rfl, stated.concurrency.holds (1 ≤ ·) (by decide) And.right⟩
  terminationTimeoutMs := .inr ⟨rfl, stated.terminationTimeoutMs.holds (1 ≤ ·) (by decide) And.right⟩
  level := .inr rfl
  name := .inr ⟨rfl, stated.name.holds (· ≠ "") (by decide) And.right⟩

def lines (s : String) : List String := (s.toList.splitOn '\n').map String.ofList

theorem lines_append (s t : String) : lines (s ++ "\n" ++ t) = lines s ++ lines t := by
  have list : (s ++ "\n" ++ t).toList = s.toList ++ '\n' :: t.toList := by
    simp [String.toList_append]
  rw [lines, list, List.splitOn_append_cons_self, List.map_append]
  rfl

theorem lines_of_unbroken {s : String} (unbroken : '\n' ∉ s.toList) : lines s = [s] := by
  rw [lines, List.splitOn_eq_singleton unbroken]
  simp

theorem lines_intercalate {texts : List String} (some : texts ≠ []) :
    lines ("\n".intercalate texts) = texts.flatMap lines := by
  induction texts with
  | nil => exact absurd rfl some
  | cons s rest ih =>
      by_cases last : rest = []
      · subst last
        simp
      · rw [String.intercalate_cons_of_ne_nil last, lines_append, ih last, List.flatMap_cons]

/-- Where an issue is reported: the dotted path, or the label of a whole configuration. -/
def place (path : List String) : String :=
  if path = [] then "Configuration" else ".".intercalate path

/-- The issues of a value, one for each constraint that it breaks. -/
def issues (v : Value) : List Issue :=
  constraints.filterMap fun c =>
    (c.objection (c.path.foldl Value.field v)).map fun message => ⟨place c.path, message⟩

/-- The text that a message has for an issue. -/
def entry (i : Issue) : String := i.path ++ " " ++ i.message

theorem issues_eq (v : Value) :
    issues v = (broken constraints v).map (Problem.issue "Configuration") := by
  rw [issues, broken, List.map_filterMap]
  refine List.filterMap_congr fun c _ => ?_
  rw [Option.map_map]
  refine congrArg (Option.map · _) (funext fun message => ?_)
  simp [place, Problem.issue, List.isEmpty_iff]

theorem invalid_eq {problems : List Problem} (some : problems ≠ []) :
    invalid "Configuration" problems =
      .configuration ("\n".intercalate ("Configuration validation failed:" ::
          (problems.map (Problem.issue "Configuration")).map entry))
        (problems.map (Problem.issue "Configuration")) none := by
  rw [String.intercalate_cons_of_ne_nil (by simpa using some)]
  rfl

/-- Objections of one line. -/
def Unbroken (objection : Value → Option String) : Prop :=
  ∀ v message, objection v = some message → '\n' ∉ message.toList

theorem unbroken_kind (v : Value) : '\n' ∉ v.kind.toList := by
  cases v with
  | number n => cases n <;> simp only [Value.kind] <;> decide
  | _ =>
      simp only [Value.kind]
      decide

theorem unbroken_expected {wanted : String} (unbroken : '\n' ∉ wanted.toList) (v : Value) :
    '\n' ∉ (expected wanted v).toList := by
  cases v with
  | undefined =>
      rw [expected]
      decide
  | _ => simp [expected, String.toList_append, unbroken, unbroken_kind]

theorem unbroken_otherThan {kinds : List String} {said : Value → String}
    (unbroken : ∀ v, '\n' ∉ (said v).toList) : Unbroken (otherThan kinds said) := by
  intro v message here
  rw [otherThan] at here
  split_ifs at here
  cases here
  exact unbroken v

theorem unbroken_fraction {text : String} (unbroken : '\n' ∉ text.toList) :
    Unbroken (fraction text) := by
  intro v message here
  unfold fraction at here
  split at here <;> [cases here; split_ifs at here; cases here]
  cases here
  exact unbroken

theorem unbroken_below {tooSmall : Number → Bool} {text : String} (unbroken : '\n' ∉ text.toList) :
    Unbroken (below tooSmall text) := by
  intro v message here
  unfold below at here
  split at here <;> [split_ifs at here; cases here]
  cases here
  exact unbroken

theorem unbroken_emptyText {text : String} (unbroken : '\n' ∉ text.toList) :
    Unbroken (emptyText text) := by
  intro v message here
  unfold emptyText at here
  split at here <;> [split_ifs at here; cases here]
  cases here
  exact unbroken

theorem unknownLevel_broken {message : String} (here : unknownLevel v = some message)
    (broken : '\n' ∈ message.toList) : ∃ s, v = .text s ∧ '\n' ∈ s.toList := by
  have levels : '\n' ∉ levelNames.toList := by decide
  unfold unknownLevel at here
  split at here
  · split_ifs at here
    cases here
    refine ⟨_, rfl, ?_⟩
    simpa [String.toList_append, levels] using broken
  · cases here

theorem unbroken_place : ∀ path ∈ constraints.map Constraint.path, '\n' ∉ (place path).toList := by
  decide

/-- Only the objection to an unknown level can be of several lines. -/
theorem unbroken_or_level : ∀ c ∈ constraints,
    Unbroken c.objection ∨ c = ⟨["logging", "level"], unknownLevel⟩ := by
  have levels : '\n' ∉ levelNames.toList := by decide
  have mapping (kinds : List String) : Unbroken (otherThan kinds (expected "object")) :=
    unbroken_otherThan (unbroken_expected (by decide))
  simp only [constraints, List.forall_mem_cons]
  exact ⟨.inl (mapping _),
    .inl (mapping _),
    .inl (unbroken_otherThan fun _ => by decide),
    .inl (unbroken_fraction (by decide)),
    .inl (unbroken_below (by decide)),
    .inl (mapping _),
    .inl (unbroken_otherThan fun _ => by decide),
    .inl (unbroken_fraction (by decide)),
    .inl (unbroken_below (by decide)),
    .inl (unbroken_otherThan (unbroken_expected (by decide))),
    .inl (unbroken_fraction (by decide)),
    .inl (unbroken_below (by decide)),
    .inl (mapping _),
    .inl (unbroken_otherThan (unbroken_expected levels)),
    .inr trivial,
    .inl (unbroken_otherThan (unbroken_expected (by decide))),
    .inl (unbroken_emptyText (by decide)), by simp⟩

/-- An issue is one line of the message, or quotes a level of several. -/
theorem line_or_level {i : Issue} (mem : i ∈ issues v) :
    lines (entry i) = [entry i] ∨ i.path = "logging.level" ∧
      ∃ s, (v.field "logging").field "level" = .text s ∧ '\n' ∈ s.toList := by
  obtain ⟨c, member, here⟩ := List.mem_filterMap.1 mem
  obtain ⟨message, said, rfl⟩ := Option.map_eq_some_iff.1 here
  have unbroken (line : '\n' ∉ message.toList) :
      lines (entry ⟨place c.path, message⟩) = [entry ⟨place c.path, message⟩] :=
    lines_of_unbroken (by
      simp [entry, String.toList_append, line, unbroken_place c.path (List.mem_map_of_mem member)])
  obtain line | rfl := unbroken_or_level c member
  · exact .inl (unbroken (line _ _ said))
  · by_cases broken : '\n' ∈ message.toList
    · have path : place ["logging", "level"] = "logging.level" := by decide
      exact .inr ⟨path, unknownLevel_broken said broken⟩
    · exact .inl (unbroken broken)

theorem validate_eq_error {e : Fault} (failed : validate v = .error e) :
    issues v ≠ [] ∧ e = .configuration ("\n".intercalate ("Configuration validation failed:" ::
      (issues v).map entry)) (issues v) none := by
  have reports := reports_check v
  rw [validate] at failed
  cases verdict : check v with
  | ok c =>
      rw [verdict] at failed
      cases failed
  | error problems =>
      rw [verdict] at failed reports
      obtain ⟨rfl, some⟩ := reports
      cases failed
      rw [issues_eq]
      exact ⟨by simpa using some, invalid_eq some⟩

theorem exists_error_iff : (∃ e, validate v = .error e) ↔ issues v ≠ [] := by
  refine ⟨fun ⟨e, failed⟩ => (validate_eq_error failed).1, fun some => ?_⟩
  cases outcome : validate v with
  | error e => exact ⟨e, rfl⟩
  | ok c =>
      have accepted : check v = .ok c := check_eq_ok.2 (validate_eq_ok.1 outcome)
      have reports := reports_check v
      rw [accepted] at reports
      exact absurd ((issues_eq v).trans (congrArg _ reports)) some

theorem path_of_place : ∀ path ∈ constraints.map Constraint.path,
    ∀ key ∈ ["tagged_limiter", "task_runner", "logging"], place path = key → path = [key] := by
  decide

theorem objection_of_path {key : String} : ∀ c ∈ constraints, c.path = [key] →
    c.objection = otherThan ["undefined", "object"] (expected "object") := by
  simp [constraints]

/-- There is an issue of a section just if it is no mapping. -/
theorem section_issue_iff {key : String}
    (named : key ∈ ["tagged_limiter", "task_runner", "logging"]) :
    (∃ i ∈ issues v, i.path = key) ↔ (v.field key).kind ∉ ["undefined", "object"] := by
  constructor
  · rintro ⟨i, mem, path⟩
    obtain ⟨⟨place, objection⟩, member, here⟩ := List.mem_filterMap.1 mem
    obtain ⟨message, said, rfl⟩ := Option.map_eq_some_iff.1 here
    obtain rfl := path_of_place place (List.mem_map_of_mem member) key named path
    obtain rfl : objection = _ := objection_of_path _ member rfl
    intro known
    exact absurd said (by simp [otherThan, known])
  · intro other
    have own : ⟨[key], otherThan ["undefined", "object"] (expected "object")⟩ ∈ constraints := by
      simp only [List.mem_cons, List.not_mem_nil, or_false] at named
      obtain rfl | rfl | rfl := named <;> simp [constraints]
    have path : place [key] = key := by
      simp only [List.mem_cons, List.not_mem_nil, or_false] at named
      obtain rfl | rfl | rfl := named <;> decide
    refine ⟨⟨place [key], expected "object" (v.field key)⟩, List.mem_filterMap.2 ⟨_, own, ?_⟩, path⟩
    simp [otherThan, other]

/-- A value is accepted just if it is valid, and is then completed. Else each constraint that it
breaks is one issue and one entry of the message, in the order of the schema; an entry is a line
unless it quotes a level that has several. -/
theorem validate_reports (v : Value) :
    ((∃ c, validate v = .ok c) ↔ Valid v) ∧
    (∀ c, validate v = .ok c → c.toValue = completed v ∧ validate c.toValue = .ok c) ∧
    (∀ e, validate v = .error e →
      issues v ≠ [] ∧
      ∃ message, e = .configuration message (issues v) none ∧
        message = "\n".intercalate ("Configuration validation failed:" :: (issues v).map entry) ∧
        lines message = "Configuration validation failed:" :: ((issues v).map entry).flatMap lines ∧
        ∀ i ∈ issues v, lines (entry i) = [entry i] ∨ i.path = "logging.level" ∧
          ∃ s, (v.field "logging").field "level" = .text s ∧ '\n' ∈ s.toList) := by
  refine ⟨?_, fun c accepted => ?_, fun e failed => ?_⟩
  · rw [valid_iff, ← exists_and_left]
    exact exists_congr fun c => validate_eq_ok
  · obtain ⟨-, stated⟩ := validate_eq_ok.1 accepted
    exact ⟨(completed_eq stated).symm, validate_eq_ok.2 ⟨rfl, stated_toValue stated⟩⟩
  · obtain ⟨some, rfl⟩ := validate_eq_error failed
    refine ⟨some, _, rfl, rfl, ?_, fun i => line_or_level⟩
    rw [lines_intercalate (by simp), List.flatMap_cons,
      lines_of_unbroken (s := "Configuration validation failed:") (by decide)]
    rfl

theorem not_always_one_line :
    ¬∀ (v : Value) (message : String) (found : List Issue),
      validate v = .error (.configuration message found none) →
        lines message = "Configuration validation failed:" :: found.map entry := by
  intro always
  let v : Value := .ofFields [("logging", .ofFields [("level", .text "a\nb")])]
  have more : (lines ("\n".intercalate
      ("Configuration validation failed:" :: (issues v).map entry))).length = 3 := by
    decide +kernel
  have one : (issues v).length = 1 := by decide +kernel
  cases failed : validate v with
  | ok c =>
      have accepted : (validate v).toBool = false := by decide +kernel
      rw [failed] at accepted
      cases accepted
  | error e =>
      obtain ⟨-, rfl⟩ := validate_eq_error failed
      have same := congrArg List.length (always v _ _ failed)
      rw [more, List.length_cons, List.length_map, one] at same
      cases same

end Turnstile.Config
