import Turnstile.Config.Cache
import Turnstile.Logging.Logger
import Turnstile.System.Moves

/-!
A limiter with its runner and its logger, put together from options and settings. What the options
leave open is taken from the settings: those passed in or else the shared configuration. A runner
that was passed in stays with whoever passed it; one that was made here is closed with the bundle.
-/
namespace Turnstile

structure Settings where
  limit : Value
  concurrency : Value
  timeout : Value
  level : Value
  name : Value

namespace Settings

def ofConfig (c : Config) : Settings where
  limit := .number (.ofInt c.maxConcurrentPerTag)
  concurrency := .number (.ofInt c.concurrency)
  timeout := .number (.ofInt c.terminationTimeoutMs)
  level := .text c.level.text
  name := .text c.name

def ofValue (v : Value) : Settings where
  limit := v.field "maxConcurrentPerTag"
  concurrency := v.field "runnerConcurrency"
  timeout := v.field "terminationTimeoutMs"
  level := v.field "logLevel"
  name := v.field "loggerName"

end Settings

inductive GivenRunner where
  | outside
  | pool (pool : Pool)

structure Bundle where
  limiter : Limiter
  /-- The runner; without a pool it is outside. -/
  pool : Option Pool
  owned : Bool
  logger : Logging.Logger
  timeout : Number
  records : List Logging.Record

namespace Bundle

structure Options where
  limit : Value := .undefined
  runner : Option GivenRunner := none
  logger : Option Logging.Logger := none
  settings : Value := .undefined

def settings (w : Config.World) (options : Options) : Config.World × Except Fault Settings :=
  match options.settings with
  | .undefined | .null =>
    match w.get with
    | (w, .ok loaded) => (w, .ok (.ofConfig loaded.config))
    | (w, .error e) => (w, .error e.fault)
  | v => (w, .ok (.ofValue v))

/-- Builds a bundle by given settings. The logger comes first, then the runner, then the limiter. -/
def build (options : Options) (settings : Settings) : Except Fault Bundle := do
  let logger ← match options.logger with
    | some logger => pure logger
    | none => Logging.Logger.create settings.level settings.name
  let pool ← match options.runner with
    | some .outside => pure none
    | some (.pool pool) => pure (some pool)
    | none => some <$> Pool.create settings.concurrency (some logger.threshold)
  let (limiter, records) ←
    Limiter.create (options.limit.orElse settings.limit) (some logger.threshold)
  pure {
    limiter, pool, logger, records
    owned := options.runner.isNone
    timeout := settings.timeout.toNumber }

def create (w : Config.World) (options : Options) : Config.World × Except Fault Bundle :=
  let (w, settings) := settings w options
  (w, settings.bind (build options))

def system (b : Bundle) : System := { limiter := b.limiter, pool := b.pool }

/-- The moves that close a bundle. A runner that was passed in is left alone, and nothing waits. -/
def closing (b : Bundle) : List Move :=
  if b.owned then [.shutdown, .awaitTermination b.timeout] else []

end Bundle
end Turnstile
