import Turnstile.Config.Defaults
import Turnstile.Fault
import Turnstile.Value.Ancestor
import Turnstile.Value.Reading

/-!
Loggers: a threshold and the name that every line carries. A level is given by its name or by its
severity. A name that every mapping inherits is taken for a level, too; that level lets nothing pass
and has no name of its own.
-/
namespace Turnstile.Logging

structure Logger where
  threshold : Threshold
  named : Bool := true
  name : Value
  deriving Inhabited

namespace Logger

def level? (logger : Logger) : Option String :=
  if logger.named then some logger.threshold.text else none

def ofName? (s : String) : Option (Threshold × Bool) :=
  match Threshold.ofText? s with
  | some threshold => some (threshold, true)
  | none => if Value.isInheritedName s then some (.silent, false) else none

/-- A name as a new logger reads it: in small letters, if that makes it one of the six levels or an
inherited name. -/
def settleName (s : String) : String :=
  match ofName? s.toLower with
  | some (.atLeast _, _) => s.toLower
  | some (.silent, false) => s.toLower
  | _ => s

def ofLevel? : Value → Option (Threshold × Bool)
  | .number n => (Threshold.ofSeverity? n).map fun threshold => (threshold, true)
  | .text s => ofName? (settleName s)
  | v => ofName? v.plainText

/-- A logger with a level and a name, where they are given; an unknown level is an error. -/
def create (level name : Value) : Except Fault Logger :=
  let level := level.orElse (.text Config.Defaults.level.text)
  match ofLevel? level with
  | some (threshold, named) =>
    .ok { threshold, named, name := name.orElse (.text Config.Defaults.name) }
  | none =>
    .error (.plain "Error"
      ("default level:" ++ level.plainText ++ " must be included in custom levels"))

def setLevel (logger : Logger) : Value → Except Fault Logger
  | .number n =>
    match Threshold.ofSeverity? n with
    | some threshold => .ok { logger with threshold, named := true }
    | none => .error (.plain "Error" ("unknown level value" ++ n.text))
  | level =>
    match ofName? level.plainText with
    | some (threshold, named) => .ok { logger with threshold, named }
    | none => .error (.plain "Error" ("unknown level " ++ level.plainText))

end Logger
end Turnstile.Logging
