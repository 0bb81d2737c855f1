import Turnstile.Text.Blank
import Turnstile.Value

/-!
Errors: the library's own three classes and the classes of the platform, each with its text, and the
stack text that lists a chain of causes. Call sites are not covered, so a stack is its header lines.
-/
namespace Turnstile

/-- One violated constraint: where, as a dotted path, and what. -/
structure Issue where
  path : String
  message : String
  deriving DecidableEq, Inhabited

inductive Fault where
  /-- An error of the platform: a class name and a message. -/
  | plain (name message : String)
  | limiter (message : String) (code : Option String) (cause : Option Fault)
  | configuration (message : String) (issues : List Issue) (cause : Option Fault)
  | shutdown (message : String)
  deriving Inhabited

namespace Fault

def shutdownMessage : String := "Task runner has been shut down"

def name : Fault → String
  | .plain name _ => name
  | .limiter .. => "LimiterError"
  | .configuration .. => "ConfigurationError"
  | .shutdown _ => "RunnerShutdownError"

def message : Fault → String
  | .plain _ message => message
  | .limiter message _ _ => message
  | .configuration message _ _ => message
  | .shutdown message => message

def code? : Fault → Option String
  | .plain .. => none
  | .limiter _ code _ => code
  | .configuration .. => some "CONFIGURATION_ERROR"
  | .shutdown _ => some "RUNNER_SHUTDOWN"

def issues? : Fault → Option (List Issue)
  | .configuration _ issues _ => some issues
  | _ => none

def cause? : Fault → Option Fault
  | .limiter _ _ cause => cause
  | .configuration _ _ cause => cause
  | _ => none

def classes : Fault → List String
  | .plain .. => []
  | .limiter .. => ["LimiterError"]
  | fault => ["LimiterError", fault.name]

/-- A class name and a message on one header; the name alone for an empty message. -/
def headed (name message : String) : String :=
  if message.isEmpty then name else name ++ ": " ++ message

def text (fault : Fault) : String := headed fault.name fault.message

/-- An error while its constructors run: the name that it has so far, and the text of its stack once
that was set. Before, a stack that is read is made of the name and the message of the moment. -/
structure Raised where
  name : String
  message : String
  trace : Option String := none

namespace Raised

def stack (e : Raised) : String := e.trace.getD (headed e.name e.message)

def rename (e : Raised) (name : String) : Raised := { e with name }

/-- Sets the stack of an error with a cause: its own as it is by then, and that of the cause. -/
def follow (e : Raised) : Option Raised → Raised
  | none => e
  | some cause => { e with trace := some (e.stack ++ "\nCaused by: " ++ cause.stack) }

/-- What the constructor of the general class makes. -/
def limiter (message : String) (cause : Option Raised) : Raised :=
  (Raised.rename { name := "Error", message } "LimiterError").follow cause

end Raised

mutual

/-- What the constructors make. A special class takes its name after the general one has run. -/
def raised : Fault → Raised
  | .plain name message => { name, message }
  | .limiter message _ cause => .limiter message (raisedCause cause)
  | .configuration message _ cause =>
    (Raised.limiter message (raisedCause cause)).rename "ConfigurationError"
  | .shutdown message => (Raised.limiter message none).rename "RunnerShutdownError"

def raisedCause : Option Fault → Option Raised
  | none => none
  | some cause => some (raised cause)

end

/-- Stack text without call sites: a header, then the stack of the cause. -/
def stack (fault : Fault) : String := fault.raised.stack

/-- Whether a line of a stack reads like a call site, which it does if it is indented and starts
with `at`. -/
def isCallSite (line : String) : Bool :=
  let rest := line.toList.dropWhile Text.isBlank
  rest.length < line.length && "at ".toList.isPrefixOf rest

def stackLines (fault : Fault) : List String :=
  (fault.stack.splitOn "\n").filter fun line => !isCallSite line

end Fault

/-- Whatever a task, a listener or a runner throws: an error or any other value. -/
inductive Thrown where
  | fault (fault : Fault)
  | value (value : Value)
  deriving Inhabited

end Turnstile
