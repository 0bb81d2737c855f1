import Turnstile.Text.Ordinal

/-!
Listeners by the name of an event, in the order in which they were added. A name without listeners
is gone. Of the others, those that are numbers are listed first, by size, and the rest in the order
of their first listener.

An emission goes by the list of listeners as it was when the emission began. Who is added or
removed while it goes on makes no difference to it.
-/
namespace Turnstile

structure Listener (α : Type) where
  body : α
  once : Bool

structure Emitter (α : Type) where
  table : List (String × List (Listener α)) := []

namespace Emitter
variable {α : Type}

def listeners (e : Emitter α) (event : String) : List (Listener α) :=
  (e.table.lookup event).getD []

def names (e : Emitter α) : List String :=
  let all := e.table.map Prod.fst
  (all.filterMap Text.ordinal?).mergeSort.map toString ++
    all.filter fun name => (Text.ordinal? name).isNone

def addTo (event : String) (listener : Listener α) :
    List (String × List (Listener α)) → List (String × List (Listener α))
  | [] => [(event, [listener])]
  | entry :: rest =>
    if entry.1 = event then (event, entry.2 ++ [listener]) :: rest
    else entry :: addTo event listener rest

def add (e : Emitter α) (event : String) (listener : Listener α) : Emitter α :=
  { table := addTo event listener e.table }

def remove (e : Emitter α) (event : String) (test : Listener α → Bool) : Emitter α :=
  let kept := e.table.map fun entry =>
    if entry.1 = event then (event, entry.2.filter fun l => !test l) else entry
  { table := kept.filter fun entry => !entry.2.isEmpty }

/-- Removes every listener, of one event or of all. An empty name stands for all events. -/
def clear (e : Emitter α) : Option String → Emitter α
  | some event =>
    if event.isEmpty then {} else { table := e.table.filter fun entry => entry.1 != event }
  | none => {}

end Emitter
end Turnstile
