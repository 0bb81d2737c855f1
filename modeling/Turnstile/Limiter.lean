import Turnstile.Config.Schema
import Turnstile.Slot

/-!
A limiter: one slot for each tag, all with the same limit, and the tallies over all of them. A slot
is made by the first submission to its tag and then kept. What a slot announces becomes one event of
the limiter, or two where a waiting task was replaced.
-/
namespace Turnstile

inductive LimiterEvent where
  | dispatched (tag : Tag) (running : Number)
  | queued (tag : Tag)
  | dropped (tag : Tag)
  | finished (tag : Tag) (running : Number)
  | rejected (tag : Tag) (e : Thrown)
  | anomaly (tag : Tag) (kind : Anomaly) (observed : Number)

namespace LimiterEvent

def name : LimiterEvent → String
  | .dispatched .. => "dispatched"
  | .queued _ => "queued"
  | .dropped _ => "dropped"
  | .finished .. => "finished"
  | .rejected .. => "rejected"
  | .anomaly .. => "anomaly"

def names : List String := ["dispatched", "queued", "dropped", "finished", "rejected", "anomaly"]

def tag : LimiterEvent → Tag
  | .dispatched tag _ => tag
  | .queued tag => tag
  | .dropped tag => tag
  | .finished tag _ => tag
  | .rejected tag _ => tag
  | .anomaly tag _ _ => tag

/-- The events for what a slot announces: the first, then the rest. -/
def ofNotice (tag : Tag) : Slot.Notice → LimiterEvent × List LimiterEvent
  | .dispatched _ running => (.dispatched tag running, [])
  | .queued _ (some _) => (.dropped tag, [.queued tag])
  | .queued _ none => (.queued tag, [])
  | .finished running => (.finished tag running, [])
  | .rejected _ e => (.rejected tag e, [])
  | .anomaly kind observed => (.anomaly tag kind observed, [])

end LimiterEvent

structure Tally where
  dispatched : Nat := 0
  queued : Nat := 0
  dropped : Nat := 0
  finished : Nat := 0
  rejected : Nat := 0
  anomalies : Nat := 0
  deriving DecidableEq, Inhabited

def Tally.count (t : Tally) : Slot.Notice → Tally
  | .dispatched .. => { t with dispatched := t.dispatched + 1 }
  | .queued _ (some _) => { t with queued := t.queued + 1, dropped := t.dropped + 1 }
  | .queued _ none => { t with queued := t.queued + 1 }
  | .finished _ => { t with finished := t.finished + 1 }
  | .rejected .. => { t with rejected := t.rejected + 1 }
  | .anomaly .. => { t with anomalies := t.anomalies + 1 }

structure Limiter where
  limit : Limit
  logger : Option Logging.Threshold := none
  slots : List (Tag × Slot) := []
  tally : Tally := {}

namespace Limiter

/-- A limiter without slots, and the record it writes; the limit is checked. -/
def create (limit : Value) (logger : Option Logging.Threshold) :
    Except Fault (Limiter × List Logging.Record) :=
  ((Config.checkTagLimit limit).orFault "limit").map fun (n : Nat) =>
    ({ limit := some (.ofInt n), logger },
      Logging.write logger .info "TaggedLimiter initialized" [Logging.count "limit" n])

def setting (l : Limiter) (tag : Tag) : Slot.Setting where
  tag := tag
  limit := l.limit
  logger := l.logger

def slot? (l : Limiter) (tag : Tag) : Option Slot := l.slots.lookup tag

def slot (l : Limiter) (tag : Tag) : Slot := (l.slot? tag).getD {}

def putSlot : List (Tag × Slot) → Tag → Slot → List (Tag × Slot)
  | [], tag, slot => [(tag, slot)]
  | entry :: rest, tag, slot =>
    if entry.1 = tag then (tag, slot) :: rest else entry :: putSlot rest tag slot

def setSlot (l : Limiter) (tag : Tag) (slot : Slot) : Limiter :=
  { l with slots := putSlot l.slots tag slot }

def count (l : Limiter) (notice : Slot.Notice) : Limiter :=
  { l with tally := l.tally.count notice }

def inspect (l : Limiter) (tag : Tag) : Option Snapshot :=
  (l.slot? tag).map (Slot.snapshot (l.setting tag))

structure Stats where
  limit : Limit
  tally : Tally
  perTag : List (Tag × Snapshot)

def stats (l : Limiter) : Stats where
  limit := l.limit
  tally := l.tally
  perTag := l.slots.map fun (tag, slot) => (tag, Slot.snapshot (l.setting tag) slot)

def listenerFailed (l : Limiter) (event : LimiterEvent) (e : Thrown) : List Logging.Record :=
  Logging.write l.logger .error ("Error emitting " ++ event.name ++ " event")
    [Logging.err e, Logging.label "event" event.name]

end Limiter
end Turnstile
