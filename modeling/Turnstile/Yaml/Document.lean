import Turnstile.Yaml.Collection

/-!
Texts as documents. A text holds one document; none makes the value `undefined`, and more than one
is a failure without a place.
-/
namespace Turnstile.Yaml

/-- Rounds that reading a text can need: a few for each unit. -/
def fuelFor (units : Array Nat) : Nat := 8 * units.size + 64

def readDocument (fuel : Nat) : ReadM Item := do
  modify fun r => { r with version := none, tagHandles := [], anchors := [] }
  let directives ← readDirectives (← get).rounds false
  let _ ← skipSeparation true
  let r ← get
  let marked := (List.range 3).all fun i => r.unitAt (r.offset + i) = unit '-'
  if r.indent = 0 && marked then
    advance 3
    let _ ← skipSeparation true
  else if directives then fail "directives end mark is expected"
  let _ ← readNode fuel (((← get).indent : Int) - 1) .blockOut false true
  let _ ← skipSeparation true
  let r ← get
  if r.offset = r.lineStart && r.atSeparator then
    if r.unitAt r.offset = unit '.' then
      advance 3
      let _ ← skipSeparation true
  else if r.offset + 1 < r.units.size then
    fail "end of the stream or a document separator is expected"
  return r.result

def readDocuments (fuel : Nat) : Nat → ReadM (List Item)
  | 0 => return []
  | rounds + 1 => do
    let r ← get
    if r.offset + 1 < r.units.size then
      let item ← readDocument fuel
      return item :: (← readDocuments fuel rounds)
    else return []

/-- The text as it is read: it ends with a line break, and a byte order mark at its start is left
out. -/
def prepare (units : List Nat) : List Nat :=
  match units.getLast? with
  | none => []
  | some last =>
    let ended := if isBreak last then units else units ++ [10]
    if ended.head? = some 0xFEFF then ended.tail else ended

def documents (units : Array Nat) : Except Failure (List Item × Array Cell) := do
  match units.findIdx? (· = 0) with
  | some i =>
    .error {
      reason := "null byte is not allowed in input"
      mark := some { units := units.pop, offset := i, line := 0, column := i } }
  | none =>
    let start : Reader := { units }
    let spaces := start.span (· = 32) start.rounds 0
    let start := { start with offset := spaces, indent := spaces }
    let (items, r) ← (readDocuments (fuelFor units) units.size).run start
    .ok (items, r.cells)

/-- The document of a text; none if the text holds none. -/
def parse (text : String) : Except Failure (Option Graph) := do
  let (items, cells) ← documents (prepare (Text.toUnits text)).toArray
  match items with
  | [] => .ok none
  | [root] => .ok (some { cells, root })
  | _ =>
    .error { reason := "expected a single document in the stream, but found more", mark := none }

end Turnstile.Yaml
