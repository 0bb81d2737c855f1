import Turnstile.Config.Environment
import Turnstile.Config.Schema
import Turnstile.Text.Ordinal
import Turnstile.Value.Merge
import Turnstile.Yaml.Graph

/-!
Documents as configurations: the settings of a mapping, with those of its environment merged over
them. A document whose base and override both contain themselves, so that merging them would have no
end, exhausts the stack. A stack has no other bound here. What a merge goes into may be an ancestor
that the override itself has brought in, and that ancestor may have been merged as well, so a
`Target` says how it has come about.
-/
namespace Turnstile.Config

def environmentsKey : String := "environments"

def base (document : Value) : Value :=
  .ofFields ((document.entries?.getD []).filter fun f => f.1 != environmentsKey)

/-- The override of an environment, if the document has a mapping of overrides and this one is a
mapping. -/
def override? (document : Value) (env : Environment) : Option Value :=
  let environments := document.field environmentsKey
  if environments.isMapping then
    let override := environments.field env.name
    if override.isMapping then some override else none
  else none

def settings (document : Value) (env : Environment) : Value :=
  match override? document env with
  | some override => (base document).merge override
  | none => base document

/-- What a merge goes into: the empty mapping that all mappings inherit from, an item of the document,
or what merging an item into such a target has made. -/
inductive Target where
  | empty
  | part (item : Yaml.Item)
  | merged (target : Target) (source : Yaml.Item)
  deriving DecidableEq

/-- The ancestor that a merge has from earlier fields of its source when it comes to a key. A key that
is a number comes before all others, so there is none by then. -/
def ancestorBefore? (fields : List (String × Yaml.Item)) (key : String) : Option Yaml.Item :=
  if (Text.ordinal? key).isSome then none
  else (fields.takeWhile fun f => f.1 != key).lookup Value.ancestorKey

namespace Target

def isMapping (g : Yaml.Graph) : Target → Bool
  | .part item => (g.fields? item).isSome
  | .empty | .merged _ _ => true

/-- What an item becomes that comes in where a target was found. -/
def entering (g : Yaml.Graph) (found : Option Target) (item : Yaml.Item) : Target :=
  match found.filter (isMapping g), g.fields? item with
  | some target, some _ => .merged target item
  | _, _ => .part item

/-- What is inherited under a key from an ancestor: its field, over what it inherits itself from an
ancestor that it names before that field, or else what it inherits. Where a merge has an end, a chain
of ancestors has no more steps than there are cells. -/
def inherited? (g : Yaml.Graph) (key : String) : Nat → Yaml.Item → Option Target
  | 0, _ => none
  | fuel + 1, ancestor =>
    (g.fields? ancestor).bind fun fields =>
      match fields.lookup key with
      | some item => some (entering g ((ancestorBefore? fields key).bind (inherited? g key fuel)) item)
      | none => (fields.lookup Value.ancestorKey).bind (inherited? g key fuel)

/-- What a merge finds under a key, in a target with these fields of its own or in the ancestor that
has come in before. -/
def found? (g : Yaml.Graph) (own? : String → Option Target) (fields : List (String × Yaml.Item))
    (key : String) : Option Target :=
  match own? key with
  | some target => some target
  | none =>
    if key = Value.ancestorKey then some .empty
    else if (own? Value.ancestorKey).isSome then none
    else (ancestorBefore? fields key).bind (inherited? g key (g.cells.size + 1))

/-- The own field of a target. A merge makes an ancestor an own field only where there was one. -/
def own? (g : Yaml.Graph) : Target → String → Option Target
  | .empty, _ => none
  | .part item, key => ((g.fields? item).bind (·.lookup key)).map .part
  | .merged target source, key =>
    let fields := (g.fields? source).getD []
    match fields.lookup key with
    | none => own? g target key
    | some item =>
      if key = Value.ancestorKey ∧ (own? g target key).isNone then none
      else some (entering g (found? g (own? g target) fields key) item)

end Target

/-- A merge of a mapping of a graph into a target. -/
structure Merge where
  target : Target
  source : Yaml.Item
  deriving DecidableEq

namespace Merge

/-- The merges that a merge makes for fields that are mappings on both sides. -/
def nested (g : Yaml.Graph) (m : Merge) : List Merge :=
  let fields := (g.fields? m.source).getD []
  fields.filterMap fun (key, item) =>
    (Target.found? g (m.target.own? g) fields key).bind fun target =>
      if target.isMapping g ∧ (g.fields? item).isSome then some ⟨target, item⟩ else none

/-- Whether a merge comes to an end. One that is nested in itself never does; `outer` are the merges
that it is nested in. Merges that go ever deeper without such a return leave the search without an
answer, which is not `true` either. -/
def endsWithin (g : Yaml.Graph) (outer : List Merge) (m : Merge) : Option Bool :=
  if outer.contains m then some false
  else (m.nested g).allM (· |>.endsWithin g (m :: outer))
partial_fixpoint

def ends (g : Yaml.Graph) (m : Merge) : Bool := m.endsWithin g [] == some true

end Merge

/-- A document without its overrides, as a cell more. -/
def detached (g : Yaml.Graph) (fields : List (String × Yaml.Item)) : Yaml.Graph where
  cells := g.cells.push (.mapping (fields.filter fun f => f.1 != environmentsKey))
  root := .cell g.cells.size

/-- The merge of a document with the override of an environment, if it has one, and the graph in
which it is made. -/
def merge? (g : Yaml.Graph) (env : Environment) : Option (Yaml.Graph × Merge) := do
  let fields ← g.fields? g.root
  let environments ← (fields.lookup environmentsKey).bind g.fields?
  let override ← environments.lookup env.name
  let g := detached g fields
  return (g, ⟨.part g.root, override⟩)

def mergeEnds (g : Yaml.Graph) (env : Environment) : Bool :=
  (merge? g env).all fun (g, m) => m.ends g

def sections : Yaml.Outline :=
  .fields [
    ("tagged_limiter", .each ["max_concurrent_per_tag"] .leaf),
    ("task_runner", .each ["concurrency", "termination_timeout_ms"] .leaf),
    ("logging", .each ["level", "name"] .leaf)]

/-- What is wanted of a document: sections, and the same for each environment. -/
def outline : Yaml.Outline :=
  sections.and (.each [environmentsKey]
    (.each (Environment.all.map Environment.name) sections))

def documentOf (g : Yaml.Graph) : Value :=
  g.unfold Value.ancestorKey (g.cells.size + 6) outline g.root

end Turnstile.Config
