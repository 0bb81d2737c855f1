import Turnstile.Config
import Turnstile.Fault

/-!
Checks of untrusted values against the configuration's rules. A check reports every violated
constraint, sections and fields in the order in which `Config` declares them; for one number, a
value that is no integer is reported before one that is too small.

Fields that no rule names are never looked at.
-/
namespace Turnstile.Config

structure Problem where
  path : List String
  message : String
  deriving DecidableEq

abbrev Verdict (α : Type) := Except (List Problem) α

namespace Verdict

def fail (message : String) : Verdict α := .error [⟨[], message⟩]

def under (key : String) : Verdict α → Verdict α
  | .ok a => .ok a
  | .error problems => .error (problems.map fun p => { p with path := key :: p.path })

def and : Verdict α → Verdict β → Verdict (α × β)
  | .ok a, .ok b => .ok (a, b)
  | .ok _, .error q => .error q
  | .error p, .ok _ => .error p
  | .error p, .error q => .error (p ++ q)

end Verdict

def orDefault (fallback : α) (check : Value → Verdict α) : Value → Verdict α
  | .undefined => .ok fallback
  | v => check v

def requiredMessage : String := "Required"

def expected (wanted : String) (v : Value) : String :=
  match v with
  | .undefined => requiredMessage
  | v => "Expected " ++ wanted ++ ", received " ++ v.kind

/-- A rule for whole numbers: a bound from below, and the message of each violation. -/
structure CountRule where
  tooSmall : Number → Bool
  kindMessage : Value → String
  integerMessage : String
  boundMessage : String

namespace CountRule

def violations (rule : CountRule) (n : Number) : List Problem :=
  (if n.isInteger then [] else [⟨[], rule.integerMessage⟩]) ++
    (if rule.tooSmall n then [⟨[], rule.boundMessage⟩] else [])

def check (rule : CountRule) : Value → Verdict Nat
  | .number .nan => Verdict.fail (rule.kindMessage (.number .nan))
  | .number n =>
    match rule.violations n with
    | [] => .ok ((n.toInt?.getD 0).toNat)
    | problems => .error problems
  | v => Verdict.fail (rule.kindMessage v)

/-- A whole number from `least` on. -/
def atLeast (least : Nat) : CountRule where
  tooSmall n := n.lt least
  kindMessage
    | .undefined => requiredMessage
    | _ => "must be a number"
  integerMessage := "must be an integer"
  boundMessage := "must be >= " ++ toString least

def positive : CountRule where
  tooSmall n := n.le 0
  kindMessage := expected "number"
  integerMessage := "Expected integer, received float"
  boundMessage := "must be positive"

end CountRule

/-- Concurrent tasks of one tag. Zero is legal: every submission stays pending. -/
def checkTagLimit : Value → Verdict Nat := (CountRule.atLeast 0).check

def checkConcurrency : Value → Verdict Nat := (CountRule.atLeast 1).check

def checkTimeout : Value → Verdict Nat := CountRule.positive.check

def levelNames : String :=
  " | ".intercalate (Logging.Threshold.all.map fun t => "'" ++ t.text ++ "'")

def checkLevel : Value → Verdict Logging.Threshold
  | .text s =>
    match Logging.Threshold.ofText? s with
    | some t => .ok t
    | none =>
      Verdict.fail ("Invalid enum value. Expected " ++ levelNames ++ ", received '" ++ s ++ "'")
  | v => Verdict.fail (expected levelNames v)

def checkName : Value → Verdict String
  | .text s => if s.isEmpty then Verdict.fail "Logger name cannot be empty" else .ok s
  | v => Verdict.fail (expected "string" v)

/-- Checks the fields of a mapping. An instant is no section, though it counts as a mapping. -/
def checkMapping (fields : Value → Verdict α) : Value → Verdict α
  | .mapping own inherited => fields (.mapping own inherited)
  | .binary bytes => fields (.binary bytes)
  | v => Verdict.fail (expected "object" v)

def checkField (v : Value) (key : String) (fallback : α) (check : Value → Verdict α) : Verdict α :=
  (orDefault fallback check (v.field key)).under key

def checkSection (fields : Value → Verdict α) : Value → Verdict α
  | .undefined => fields (.ofFields [])
  | v => checkMapping fields v

def checkLimiterSection : Value → Verdict Nat :=
  checkSection fun v =>
    checkField v "max_concurrent_per_tag" Defaults.maxConcurrentPerTag checkTagLimit

def checkRunnerSection : Value → Verdict (Nat × Nat) :=
  checkSection fun v =>
    (checkField v "concurrency" Defaults.concurrency checkConcurrency).and
      (checkField v "termination_timeout_ms" Defaults.terminationTimeoutMs checkTimeout)

def checkLoggingSection : Value → Verdict (Logging.Threshold × String) :=
  checkSection fun v =>
    (checkField v "level" Defaults.level checkLevel).and
      (checkField v "name" Defaults.name checkName)

def ofSections : Nat × (Nat × Nat) × Logging.Threshold × String → Config
  | (maxConcurrentPerTag, (concurrency, terminationTimeoutMs), level, name) =>
    { maxConcurrentPerTag, concurrency, terminationTimeoutMs, level, name }

def check : Value → Verdict Config :=
  checkMapping fun v =>
    (((checkLimiterSection (v.field "tagged_limiter")).under "tagged_limiter").and
      (((checkRunnerSection (v.field "task_runner")).under "task_runner").and
        ((checkLoggingSection (v.field "logging")).under "logging"))).map ofSections

/-- Where an issue is reported: the dotted path, or the label of the whole value at its root. -/
def Problem.issue (label : String) (p : Problem) : Issue :=
  { path := if p.path.isEmpty then label else ".".intercalate p.path, message := p.message }

/-- The error for a value that breaks rules: a header, then a line for each issue. -/
def invalid (label : String) (problems : List Problem) : Fault :=
  let issues := problems.map (Problem.issue label)
  let lines := issues.map fun i => i.path ++ " " ++ i.message
  .configuration (label ++ " validation failed:\n" ++ "\n".intercalate lines) issues none

def Verdict.orFault (label : String) : Verdict α → Except Fault α
  | .ok a => .ok a
  | .error problems => .error (invalid label problems)

/-- The configuration that a value states, or the error that lists all that is wrong with it. -/
def validate (v : Value) : Except Fault Config := (check v).orFault "Configuration"

inductive Rule where
  | tagLimit | concurrency | level | limiterSection | runnerSection | loggingSection | configuration
  deriving DecidableEq

namespace Rule

/-- The checked value, with defaults filled in and unknown fields left out. -/
def check : Rule → Value → Verdict Value
  | .tagLimit, v => (checkTagLimit v).map fun n => .number (.ofInt n)
  | .concurrency, v => (checkConcurrency v).map fun n => .number (.ofInt n)
  | .level, v => (checkLevel v).map fun t => .text t.text
  | .limiterSection, v =>
    (checkLimiterSection v).map fun n => ({ maxConcurrentPerTag := n } : Config).limiterSection
  | .runnerSection, v =>
    (checkRunnerSection v).map fun (lanes, ms) =>
      ({ concurrency := lanes, terminationTimeoutMs := ms } : Config).runnerSection
  | .loggingSection, v =>
    (checkLoggingSection v).map fun (threshold, name) =>
      ({ level := threshold, name := name } : Config).loggingSection
  | .configuration, v => (Config.check v).map Config.toValue

def parse (rule : Rule) (label : String) (v : Value) : Except Fault Value :=
  (rule.check v).orFault label

end Rule
end Turnstile.Config
