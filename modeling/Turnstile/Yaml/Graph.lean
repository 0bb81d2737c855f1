import Turnstile.Value

/-!
Documents as graphs: an alias shares the collection it names, also when that collection encloses the
alias, so collections are numbered cells. `Graph.unfold` reads a graph as a value, as far as an
outline has names for what is wanted of it.
-/
namespace Turnstile.Yaml

inductive Item where
  | null
  | boolean (b : Bool)
  | number (n : Number)
  | text (s : String)
  | instant (ms : Int)
  | binary (bytes : List UInt8)
  | cell (index : Nat)
  deriving Inhabited, DecidableEq

inductive Cell where
  | list (items : List Item)
  | mapping (fields : List (String × Item))
  deriving Inhabited, DecidableEq

structure Graph where
  cells : Array Cell
  root : Item
  deriving Inhabited, DecidableEq

/-- The names of the fields that are wanted of a mapping, each with what is wanted of the field. -/
inductive Outline where
  | fields (names : List (String × Outline))
  deriving Inhabited

namespace Outline

def leaf : Outline := .fields []

def each (names : List String) (part : Outline) : Outline :=
  .fields (names.map fun name => (name, part))

def names : Outline → List (String × Outline)
  | .fields names => names

def and (a b : Outline) : Outline := .fields (a.names ++ b.names)

end Outline

namespace Graph

/-- The fields that a merge or a look-up sees; none for what is no mapping. -/
def fields? (g : Graph) : Item → Option (List (String × Item))
  | .cell i =>
    match g.cells[i]? with
    | some (.mapping fields) => some fields
    | _ => none
  | .instant _ => some []
  | .binary bytes =>
    some (bytes.zipIdx.map fun (byte, i) => (toString i, .number (.ofInt byte.toNat)))
  | _ => none

/-- A graph as a value. Fields that the outline does not name are left out, and so are the items of
lists. What stands under `bridge` is an ancestor, of which the same is wanted. -/
def unfold (g : Graph) (bridge : String) : Nat → Outline → Item → Value
  | _, _, .null => .null
  | _, _, .boolean b => .boolean b
  | _, _, .number n => .number n
  | _, _, .text s => .text s
  | _, _, .instant ms => .instant ms
  | _, _, .binary bytes => .binary bytes
  | 0, _, .cell i =>
    match g.cells[i]? with
    | some (.list _) => .list []
    | _ => .mapping [] []
  | fuel + 1, outline, .cell i =>
    match g.cells[i]? with
    | some (.list _) => .list []
    | some (.mapping fields) =>
      .mapping (fields.filterMap fun (key, item) =>
        if key = bridge then some (key, unfold g bridge fuel outline item)
        else (outline.names.lookup key).map fun part => (key, unfold g bridge fuel part item)) []
    | none => .mapping [] []

end Graph
end Turnstile.Yaml
