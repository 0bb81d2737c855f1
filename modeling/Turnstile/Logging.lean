import Turnstile.Fault
import Turnstile.Logging.Level

/-!
Log records and the two ways of writing one: at once, or from a context that is only built when the
level passes. Either way a record is written iff its level reaches the threshold. The absence of a
logger is the threshold `none`.

Where records go, and the clock, process and host fields of a line, are not covered.
-/
namespace Turnstile.Logging

abbrev Context := List (String × Thrown)

structure Record where
  level : Level
  message : String
  context : Context
  deriving Inhabited

def enabled (logger : Option Threshold) (level : Level) : Bool :=
  match logger with
  | some threshold => threshold.admits level
  | none => false

structure Written where
  records : List Record
  built : Nat

def write (logger : Option Threshold) (level : Level) (message : String) (context : Context) :
    List Record :=
  if enabled logger level then [{ level, message, context }] else []

def writeLazily (logger : Option Threshold) (level : Level) (message : String)
    (context : Unit → Context) : Written :=
  if enabled logger level then ⟨[{ level, message, context := context () }], 1⟩ else ⟨[], 0⟩

def flag (key : String) (b : Bool) : String × Thrown := (key, .value (.boolean b))

def amount (key : String) (n : Number) : String × Thrown := (key, .value (.number n))

def count (key : String) (n : Nat) : String × Thrown := amount key (.ofInt n)

def label (key : String) (s : String) : String × Thrown := (key, .value (.text s))

def err (e : Thrown) : String × Thrown := ("err", e)

end Turnstile.Logging
