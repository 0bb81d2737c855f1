import Turnstile.Value.Ancestor

/-!
Merging two mappings, the second one winning: where both hold mappings the merge goes down,
anywhere else the second's value replaces the first's.

One key is special. `__proto__` names what a mapping inherits from, unless the mapping has an own
field of that name: a mapping merged in there is inherited by the result, any other value is
ignored.
-/
namespace Turnstile.Value

structure Merging where
  own : Fields
  inherited : Fields

namespace Merging

/-- Value under a key. The ancestor of a mapping without an own field of that name is an empty
mapping. -/
def held (m : Merging) (key : String) : Value :=
  match m.own.lookup key with
  | some value => value
  | none => if key = ancestorKey then .mapping [] [] else (m.inherited.lookup key).getD .undefined

def store (m : Merging) (key : String) (value : Value) : Merging :=
  if key = ancestorKey ∧ (m.own.lookup key).isNone then
    { m with inherited := if value.isMapping then value.visible else m.inherited }
  else { m with own := m.own.put key value }

end Merging

mutual

def mergeFields : List (String × Value) → Merging → Merging
  | [], m => m
  | field :: rest, m => mergeFields rest (mergeField field m)

def mergeField : String × Value → Merging → Merging
  | (_, .undefined), m => m
  | (key, value), m => m.store key (mergeOver value (m.held key))

/-- The value left where `target` stood and `source` came in. -/
def mergeOver : Value → Value → Value
  | .mapping own inherited, target =>
    match target.entries? with
    | some fields =>
      let merged := mergeFields own ⟨fields, []⟩
      .mapping merged.own merged.inherited
    | none => .mapping own inherited
  | source, target =>
    match target.entries?, source.entries? with
    | some fields, some new =>
      .mapping (new.foldl (fun acc field => Fields.put acc field.1 field.2) fields) []
    | _, _ => source

end

def merge (target source : Value) : Value := mergeOver source target

end Turnstile.Value
