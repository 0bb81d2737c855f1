import Turnstile.Config.Defaults
import Turnstile.Value

/-!
A checked configuration, and the value it is written as.
-/
namespace Turnstile

structure Config where
  maxConcurrentPerTag : Nat := Config.Defaults.maxConcurrentPerTag
  concurrency : Nat := Config.Defaults.concurrency
  terminationTimeoutMs : Nat := Config.Defaults.terminationTimeoutMs
  level : Logging.Threshold := Config.Defaults.level
  name : String := Config.Defaults.name
  deriving DecidableEq, Inhabited

namespace Config

def limiterSection (c : Config) : Value :=
  .ofFields [("max_concurrent_per_tag", .number (.ofInt c.maxConcurrentPerTag))]

def runnerSection (c : Config) : Value :=
  .ofFields [("concurrency", .number (.ofInt c.concurrency)),
    ("termination_timeout_ms", .number (.ofInt c.terminationTimeoutMs))]

def loggingSection (c : Config) : Value :=
  .ofFields [("level", .text c.level.text), ("name", .text c.name)]

/-- The configuration as a document: three sections, five fields. -/
def toValue (c : Config) : Value :=
  .ofFields [("tagged_limiter", c.limiterSection), ("task_runner", c.runnerSection),
    ("logging", c.loggingSection)]

end Config
end Turnstile
