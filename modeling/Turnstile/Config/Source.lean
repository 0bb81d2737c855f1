import Turnstile.Config.Document
import Turnstile.Files
import Turnstile.Yaml.Document

/-!
Loading a configuration: reading a file as YAML, taking the settings of an environment and checking
them. Each way to fail is a `LoadError`; `LoadError.fault` is what the caller sees of it.
-/
namespace Turnstile.Config

inductive LoadError where
  | missing (path : String) (reason : Files.ReadError)
  | unreadable (reason : Files.ReadError)
  | malformed (reason : Yaml.Failure)
  | notMapping (path : String)
  | invalid (fault : Fault)
  | endless

namespace LoadError

def unloadable (cause : Fault) : Fault :=
  .configuration ("Failed to load configuration: " ++ cause.text) [] (some cause)

def fault : LoadError → Fault
  | .missing path reason =>
    .configuration ("Configuration file not found: " ++ path ++
        ". Please ensure config/runtime.yaml exists in the project root.") []
      (some (.plain "Error" reason.message))
  | .unreadable reason => unloadable (.plain "Error" reason.message)
  | .malformed reason => unloadable (.plain reason.name reason.message)
  | .notMapping path =>
    .configuration ("Failed to load configuration: " ++ path ++ " is not a YAML mapping") [] none
  | .invalid fault => fault
  | .endless => .plain "RangeError" "Maximum call stack size exceeded"

end LoadError

def packagedText : String :=
  "tagged_limiter:\n" ++
  "  max_concurrent_per_tag: 2\n" ++
  "task_runner:\n" ++
  "  concurrency: 4\n" ++
  "  termination_timeout_ms: 1000\n" ++
  "logging:\n" ++
  "  level: info\n" ++
  "  name: tagged-limiter\n" ++
  "environments:\n" ++
  "  production:\n" ++
  "    logging:\n" ++
  "      level: warn\n" ++
  "  development:\n" ++
  "    logging:\n" ++
  "      level: debug\n" ++
  "  test:\n" ++
  "    logging:\n" ++
  "      level: silent\n"

/-- The file that the library brings along: where it is, and what reading it comes to. -/
structure Package where
  path : String := "config/runtime.yaml"
  contents : Except Files.ReadError (List UInt8) := .ok (Text.Utf8.encode packagedText)

/-- Where a configuration comes from: a file, or the one that the library brings along. -/
inductive Source where
  | file (path : String)
  | packaged
  deriving DecidableEq

def ofDocument (path : String) (document : Option Yaml.Graph) (env : Environment) :
    Except LoadError Config :=
  match document with
  | none => .error (.notMapping path)
  | some graph =>
    let value := documentOf graph
    if !value.isMapping then .error (.notMapping path)
    else if !mergeEnds graph env then .error .endless
    else match validate (settings value env) with
      | .ok config => .ok config
      | .error fault => .error (.invalid fault)

def ofText (path text : String) (env : Environment) : Except LoadError Config :=
  match Yaml.parse text with
  | .error reason => .error (.malformed reason)
  | .ok document => ofDocument path document env

/-- The configuration of a file at a path, from what reading the file comes to. -/
def ofContents (path : String) (contents : Except Files.ReadError (List UInt8)) (env : Environment) :
    Except LoadError Config :=
  match contents with
  | .error (.missing p) => .error (.missing path (.missing p))
  | .error reason => .error (.unreadable reason)
  | .ok bytes => ofText path (Text.Utf8.decode bytes) env

end Turnstile.Config
