import Turnstile.Config.Cache
import Turnstile.Logging.Session
import Turnstile.System.Moves
import Turnstile.Bundle
import Turnstile.Emitter
import Turnstile.Scenario.Play
import Turnstile.Text.Blank
import Turnstile.Number.Reading
import Turnstile.Value.Reading
import Turnstile.Proofs.Pools
import Turnstile.Proofs.Admission
import Turnstile.Proofs.Reactions
import Turnstile.Proofs.Courses
import Turnstile.Proofs.Tallies
import Turnstile.Proofs.Answers
import Turnstile.Proofs.Fates
import Turnstile.Proofs.Handover
import Turnstile.Proofs.Stranding
import Turnstile.Proofs.Outstanding
import Turnstile.Proofs.Limits
import Turnstile.Proofs.Order
import Turnstile.Proofs.Recency
import Turnstile.Proofs.Traffic
import Turnstile.Proofs.Passages
import Turnstile.Proofs.Lanes
import Turnstile.Proofs.Coverage
import Turnstile.Proofs.Agreement
import Turnstile.Proofs.Dispatches
import Turnstile.Proofs.Termination
import Turnstile.Proofs.Closing
import Turnstile.Proofs.Clock
import Turnstile.Proofs.Waiters
import Turnstile.Proofs.Independence
import Turnstile.Proofs.Outcomes
import Turnstile.Proofs.Shutdowns
import Turnstile.Proofs.Merges
import Turnstile.Proofs.Nesting
import Turnstile.Proofs.Trees
import Turnstile.Proofs.Checks
import Turnstile.Proofs.Settings
import Turnstile.Proofs.Sharing
import Turnstile.Proofs.Calls
import Turnstile.Proofs.Turns
import Turnstile.Proofs.Overflow
import Turnstile.Proofs.Mending
import Turnstile.Proofs.Endings
import Turnstile.Proofs.Loggers
import Turnstile.Proofs.Listeners
import Turnstile.Proofs.Stream
import Turnstile.Proofs.Unknowns
import Turnstile.Proofs.Stacks
import Turnstile.Proofs.Violations
import Turnstile.Proofs.Deadlines
import Turnstile.Proofs.Rejections
import Turnstile.Proofs.Unions
