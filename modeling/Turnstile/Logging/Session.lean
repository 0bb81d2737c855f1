import Turnstile.Logging.Line
import Turnstile.Logging.Logger

/-!
A sequence of calls on one logger, and what each of them wrote.
-/
namespace Turnstile.Logging

inductive Call where
  | eager (level : Threshold) (message : String) (context : Context)
  /-- A lazy call at a level given by its name; without a logger it is made on none. -/
  | deferred (level : String) (message : String) (context : Context) (attached : Bool)
  | setLevel (level : Value)

def Written.checked (w : Written) : Except Fault Written :=
  match w.records.findSome? Record.refusal? with
  | some f => .error f
  | none => .ok w

namespace Logger

/-- What a lazy call does. At the level of silence it builds its context all the same, unless the
logger's own level has no name; a name that is no level does nothing. -/
def defer (logger : Logger) (level message : String) (context : Context) : Written :=
  match Threshold.ofText? level with
  | some (.atLeast level) => writeLazily (some logger.threshold) level message fun _ => context
  | some .silent => ⟨[], if logger.named then 1 else 0⟩
  | none => ⟨[], 0⟩

def perform (logger : Logger) : Call → Logger × Except Fault Written
  | .eager (.atLeast level) message context =>
    (logger, Written.checked ⟨write (some logger.threshold) level message context, 0⟩)
  | .eager .silent _ _ => (logger, .ok ⟨[], 0⟩)
  | .deferred level message context attached =>
    (logger, (if attached then logger.defer level message context else ⟨[], 0⟩).checked)
  | .setLevel level =>
    match logger.setLevel level with
    | .ok moved => (moved, .ok ⟨[], 0⟩)
    | .error f => (logger, .error f)

def session (logger : Logger) : List Call → List (Except Fault Written)
  | [] => []
  | call :: rest =>
    let (next, written) := logger.perform call
    written :: session next rest

end Logger
end Turnstile.Logging
