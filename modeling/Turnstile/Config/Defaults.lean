import Turnstile.Logging.Level

/-!
Settings used where neither the caller nor a configuration file gives any.
-/
namespace Turnstile.Config.Defaults

def maxConcurrentPerTag : Nat := 2

def concurrency : Nat := 4

def terminationTimeoutMs : Nat := 1000

def level : Logging.Threshold := .atLeast .info

def name : String := "tagged-limiter"

end Turnstile.Config.Defaults
