import Turnstile.Config.Source

/-!
The configuration that is shared by all of a program: loaded once, kept until it is replaced or
reset. A load that fails leaves it as it was. Each loaded configuration has a number, so that two
equal ones can be told apart.
-/
namespace Turnstile.Config

structure Loaded where
  config : Config
  number : Nat
  deriving DecidableEq

structure World where
  files : Files := {}
  package : Package := {}
  ambient : Option String := none
  shared : Option Loaded := none
  loads : Nat := 0

namespace World

def environment (w : World) (argument : Option String) : Environment :=
  Environment.resolve argument w.ambient

def pathOf (w : World) : Source → String
  | .file path => path
  | .packaged => w.package.path

def read (w : World) : Source → Except Files.ReadError (List UInt8)
  | .file path => w.files.read path
  | .packaged => w.package.contents

def load (w : World) (source : Source) (argument : Option String) : Except LoadError Config :=
  Config.ofContents (w.pathOf source) (w.read source) (w.environment argument)

def share (w : World) (source : Source) (argument : Option String) :
    World × Except LoadError Loaded :=
  match w.load source argument with
  | .ok config =>
    let loaded : Loaded := { config, number := w.loads }
    ({ w with shared := some loaded, loads := w.loads + 1 }, .ok loaded)
  | .error e => (w, .error e)

/-- The shared configuration; the packaged one is loaded and shared if there is none. -/
def get (w : World) : World × Except LoadError Loaded :=
  match w.shared with
  | some loaded => (w, .ok loaded)
  | none => w.share .packaged none

def reset (w : World) : World := { w with shared := none }

inductive Request where
  | load (source : Source) (environment : Option String)
  | share (source : Source) (environment : Option String)
  | get
  | limiterSettings
  | reset
  | validate (value : Value)
  | setAmbient (value : Option String)
  | write (path : String) (bytes : List UInt8)
  | remove (path : String)
  /-- The file that the library brings along is replaced or can no longer be read. -/
  | install (contents : Except Files.ReadError (List UInt8))

inductive Response where
  | config (config : Config)
  | loaded (loaded : Loaded)
  | settings (config : Config)
  | done
  | failed (fault : Fault)

def respond (answer : α → Response) : World × Except LoadError α → World × Response
  | (w, .ok a) => (w, answer a)
  | (w, .error e) => (w, .failed e.fault)

def perform (w : World) : Request → World × Response
  | .load source environment => respond .config (w, w.load source environment)
  | .share source environment => respond .loaded (w.share source environment)
  | .get => respond .loaded w.get
  | .limiterSettings => respond (fun loaded => .settings loaded.config) w.get
  | .reset => (w.reset, .done)
  | .validate value =>
    match Config.validate value with
    | .ok config => (w, .config config)
    | .error fault => (w, .failed fault)
  | .setAmbient value => ({ w with ambient := value }, .done)
  | .write path bytes => ({ w with files := w.files.write path bytes }, .done)
  | .remove path => ({ w with files := w.files.remove path }, .done)
  | .install contents => ({ w with package := { w.package with contents } }, .done)

def run (w : World) : List Request → List Response
  | [] => []
  | request :: rest =>
    let (next, response) := w.perform request
    response :: run next rest

end World
end Turnstile.Config
