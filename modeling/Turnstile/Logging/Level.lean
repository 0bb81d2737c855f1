import Turnstile.Number

/-!
Severity levels of log records, and the thresholds a logger can stand at.
-/
namespace Turnstile.Logging

inductive Level where
  | trace | debug | info | warn | error | fatal
  deriving DecidableEq, Inhabited

namespace Level

def severity : Level → Nat
  | .trace => 10
  | .debug => 20
  | .info => 30
  | .warn => 40
  | .error => 50
  | .fatal => 60

def text : Level → String
  | .trace => "trace"
  | .debug => "debug"
  | .info => "info"
  | .warn => "warn"
  | .error => "error"
  | .fatal => "fatal"

end Level

inductive Threshold where
  | atLeast (level : Level)
  | silent
  deriving DecidableEq, Inhabited

namespace Threshold

def text : Threshold → String
  | .atLeast level => level.text
  | .silent => "silent"

def all : List Threshold :=
  [.atLeast .fatal, .atLeast .error, .atLeast .warn, .atLeast .info, .atLeast .debug,
    .atLeast .trace, .silent]

def ofText? (s : String) : Option Threshold := all.find? fun t => t.text == s

/-- The severity that a threshold stands at; silence stands above all. -/
def severity : Threshold → Number
  | .atLeast level => .ofInt level.severity
  | .silent => .infinite false

def ofSeverity? (n : Number) : Option Threshold := all.find? fun t => t.severity.equals n

def admits : Threshold → Level → Bool
  | .atLeast least, level => least.severity ≤ level.severity
  | .silent, _ => false

end Threshold
end Turnstile.Logging
