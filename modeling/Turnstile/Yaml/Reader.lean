import Turnstile.Yaml.Graph
import Turnstile.Yaml.Mark

/-!
The state of reading a text of 16-bit units, and the moves all productions share: looking ahead,
skipping blanks, comments and line breaks, and collecting text. The text ends where the unit is
null; no text holds one.

The properties of the node under way, tag, anchor and kind, are part of the state, because reading
a nested node clears them.
-/
namespace Turnstile.Yaml

inductive Kind where
  | scalar | sequence | mapping
  deriving DecidableEq

def Kind.name : Kind → String
  | .scalar => "scalar"
  | .sequence => "sequence"
  | .mapping => "mapping"

structure Reader where
  units : Array Nat
  offset : Nat := 0
  line : Nat := 0
  lineStart : Nat := 0
  indent : Nat := 0
  firstTab : Option Nat := none
  buffer : Array Nat := #[]
  tag : Option String := none
  anchor : Option String := none
  kind : Option Kind := none
  result : Item := .null
  cells : Array Cell := #[]
  depth : Nat := 0
  /-- How many fields merges have brought, counting those that were there already. -/
  merged : Nat := 0
  version : Option String := none
  tagHandles : List (String × String) := []
  anchors : List (String × Item) := []

abbrev ReadM := StateT Reader (Except Failure)

def isBreak (u : Nat) : Bool := u = 10 || u = 13

def isBlank (u : Nat) : Bool := u = 9 || u = 32

def isSpace (u : Nat) : Bool := isBlank u || isBreak u

/-- `,` `[` `]` `\x7b` `\x7d` -/
def isFlowIndicator (u : Nat) : Bool := u = 44 || u = 91 || u = 93 || u = 123 || u = 125

def unit (c : Char) : Nat := c.toNat

namespace Reader

def unitAt (r : Reader) (offset : Nat) : Nat := r.units[offset]?.getD 0

def mark (r : Reader) : Mark :=
  { units := r.units, offset := r.offset, line := r.line, column := (r.offset : Int) - r.lineStart }

def slice (r : Reader) (start stop : Nat) : List Nat := (r.units.extract start stop).toList

/-- How many of the next `fuel` units from an offset satisfy `p`. -/
def span (r : Reader) (p : Nat → Bool) : Nat → Nat → Nat
  | 0, _ => 0
  | fuel + 1, offset => if p (r.unitAt offset) then span r p fuel (offset + 1) + 1 else 0

def rounds (r : Reader) : Nat := r.units.size + 2

def atSeparator (r : Reader) : Bool :=
  let u := r.unitAt r.offset
  (u = unit '-' || u = unit '.') && u = r.unitAt (r.offset + 1) && u = r.unitAt (r.offset + 2) &&
    (r.unitAt (r.offset + 3) = 0 || isSpace (r.unitAt (r.offset + 3)))

end Reader

def fail (reason : String) : ReadM α := do
  throw { reason, mark := some (← get).mark }

def either (first second : ReadM Bool) : ReadM Bool := do
  let found ← first
  if found then return true else second

def onlyIf (condition : Bool) (reader : ReadM Bool) : ReadM Bool :=
  if condition then reader else return false

def peek : ReadM Nat := do
  let r ← get
  return r.unitAt r.offset

def peekAt (ahead : Nat) : ReadM Nat := do
  let r ← get
  return r.unitAt (r.offset + ahead)

def advance (count : Nat) : ReadM Unit :=
  modify fun r => { r with offset := r.offset + count }

def skipWhile (p : Nat → Bool) : ReadM Unit :=
  modify fun r => { r with offset := r.offset + r.span (fun u => u ≠ 0 && p u) r.rounds r.offset }

def skipLine : ReadM Unit := skipWhile fun u => !isBreak u

def sliceFrom (start : Nat) : ReadM (List Nat) := do
  let r ← get
  return r.slice start r.offset

def textFrom (start : Nat) : ReadM String := return Text.ofUnits (← sliceFrom start)

def readBreak : ReadM Unit := do
  let u ← peek
  if u = 10 then advance 1
  else if u = 13 then
    advance 1
    if (← peek) = 10 then advance 1
  else fail "a line break is expected"
  modify fun r => { r with line := r.line + 1, lineStart := r.offset, firstTab := none }

def skipBlanks : ReadM Unit :=
  modify fun r =>
    let count := r.span isBlank r.rounds r.offset
    let spaces := r.span (· = 32) r.rounds r.offset
    { r with
      offset := r.offset + count
      firstTab := match r.firstTab with
        | some tab => some tab
        | none => if spaces < count then some (r.offset + spaces) else none }

def readIndent : ReadM Unit :=
  modify fun r =>
    let spaces := r.span (· = 32) r.rounds r.offset
    { r with offset := r.offset + spaces, indent := spaces }

def skipSeparationFrom (comments : Bool) : Nat → Nat → ReadM Nat
  | 0, breaks => return breaks
  | fuel + 1, breaks => do
    if (← peek) = 0 then return breaks
    skipBlanks
    if comments && (← peek) = unit '#' then skipLine
    if isBreak (← peek) then
      readBreak
      readIndent
      skipSeparationFrom comments fuel (breaks + 1)
    else return breaks

/-- Skips blanks, line breaks and, if wanted, comments; the number of line breaks. -/
def skipSeparation (comments : Bool) : ReadM Nat := do
  skipSeparationFrom comments (← get).rounds 0

/-- Whether a unit or a pair of units has a printed form. A lone half has none. -/
def allPrintable : List Nat → Bool
  | [] => true
  | u :: rest =>
    if Text.isHigh u then
      match rest with
      | v :: rest => Text.isLow v && allPrintable rest
      | [] => false
    else
      (u = 9 || u = 10 || u = 13 || u = 0x85 || (32 ≤ u && u < 0x7F) ||
        (0xA0 ≤ u && u < 0xFFFE && !Text.isLow u)) && allPrintable rest

def append (units : List Nat) : ReadM Unit :=
  modify fun r => { r with buffer := r.buffer ++ units.toArray }

/-- Adds a part of the text to the scalar under way. In quotes no control character may stand but
the tab, elsewhere all has to be printable. -/
def capture (start stop : Nat) (quoted : Bool) : ReadM Unit := do
  if start < stop then
    let units := (← get).slice start stop
    if quoted then
      if units.any fun u => u ≠ 9 && u < 32 then fail "expected valid JSON character"
    else if !allPrintable units then fail "the stream contains non-printable characters"
    append units

/-- Line breaks folded into text: a single one is a space, of more the first one is dropped. -/
def fold (breaks : Nat) : ReadM Unit :=
  if breaks = 1 then append [32] else append (List.replicate (breaks - 1) 10)

def clearBuffer : ReadM Unit := modify fun r => { r with buffer := #[] }

def finishScalar : ReadM Unit :=
  modify fun r =>
    { r with kind := some .scalar, result := .text (Text.ofUnits r.buffer.toList) }

def allocate (cell : Cell) : ReadM Nat := do
  let index := (← get).cells.size
  modify fun r => { r with cells := r.cells.push cell }
  return index

def cellAt (index : Nat) : ReadM Cell := do
  return (← get).cells[index]?.getD default

def setCell (index : Nat) (cell : Cell) : ReadM Unit :=
  modify fun r => { r with cells := r.cells.setIfInBounds index cell }

def pushItem (index : Nat) (item : Item) : ReadM Unit := do
  match ← cellAt index with
  | .list items => setCell index (.list (items ++ [item]))
  | .mapping _ => pure ()

def fieldsAt (index : Nat) : ReadM (List (String × Item)) := do
  match ← cellAt index with
  | .mapping fields => return fields
  | .list _ => return []

def bindAnchor (item : Item) : ReadM Unit :=
  modify fun r =>
    match r.anchor with
    | some name => { r with anchors := (name, item) :: r.anchors }
    | none => r

end Turnstile.Yaml
