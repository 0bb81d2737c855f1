import Turnstile.Number

/-!
Dynamic values: what a configuration document or a caller can hold before it is checked. A mapping
has own fields and fields it inherits; a look-up prefers the own ones. Instants and byte strings
also count as mappings: an instant has no fields, a byte string has one for each position.
-/
namespace Turnstile

inductive Value where
  | undefined
  | null
  | boolean (b : Bool)
  | number (n : Number)
  | text (s : String)
  | instant (ms : Int)
  | binary (bytes : List UInt8)
  | list (items : List Value)
  | mapping (own inherited : List (String × Value))
  deriving Inhabited

abbrev Fields := List (String × Value)

namespace Fields

def put : Fields → String → Value → Fields
  | [], key, value => [(key, value)]
  | field :: rest, key, value =>
    if field.1 = key then (key, value) :: rest else field :: put rest key value

end Fields

namespace Value

def kind : Value → String
  | .undefined => "undefined"
  | .null => "null"
  | .boolean _ => "boolean"
  | .number .nan => "nan"
  | .number _ => "number"
  | .text _ => "string"
  | .instant _ => "date"
  | .binary _ => "object"
  | .list _ => "array"
  | .mapping _ _ => "object"

def entries? : Value → Option Fields
  | .instant _ => some []
  | .binary bytes =>
    some (bytes.zipIdx.map fun (byte, i) => (toString i, .number (.ofInt byte.toNat)))
  | .mapping own _ => some own
  | _ => none

def isMapping (v : Value) : Bool := v.entries?.isSome

/-- Fields a value shows: its own before those it inherits. -/
def visible : Value → Fields
  | .mapping own inherited => own ++ inherited
  | v => v.entries?.getD []

/-- Value under a key, `undefined` where there is none. -/
def field (v : Value) (key : String) : Value :=
  (v.visible.lookup key).getD .undefined

def ofFields (own : Fields) : Value := .mapping own []

def orElse (v fallback : Value) : Value :=
  match v with
  | .undefined => fallback
  | .null => fallback
  | v => v

end Value
end Turnstile
