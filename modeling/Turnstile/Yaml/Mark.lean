import Turnstile.Text.Units

/-!
Failures of the YAML reader: a reason and, for most, the place, shown with the lines around it. A
line is cut to keep the place visible; tabs are shown as arrows.
-/
namespace Turnstile.Yaml

/-- A place in a text of 16-bit units. The column is counted from the start of the reader's line and
can fall before it. -/
structure Mark where
  units : Array Nat
  offset : Nat
  line : Nat
  column : Int
  deriving Inhabited

structure Failure where
  name : String := "YAMLException"
  reason : String
  mark : Option Mark
  deriving Inhabited

namespace Mark

def width : Nat := 79

def linesBefore : Nat := 3

def linesAfter : Nat := 2

/-- The line breaks of a text, as start and end of each. A null also ends a line. -/
def breaksFrom : Nat → List Nat → List (Nat × Nat)
  | _, [] => []
  | i, 13 :: 10 :: rest => (i, i + 2) :: breaksFrom (i + 2) rest
  | i, u :: rest =>
    if u = 10 ∨ u = 13 ∨ u = 0 then (i, i + 1) :: breaksFrom (i + 1) rest
    else breaksFrom (i + 1) rest

/-- A line of the text: its start, and its end unless it is the last one. -/
structure Line where
  start : Nat
  stop : Option Nat
  deriving Inhabited

/-- The lines of a text; the last starts after the last break and has no end. -/
def linesOf (breaks : List (Nat × Nat)) : List Line :=
  let starts := 0 :: breaks.map (·.2)
  let stops := breaks.map (fun b => some b.1) ++ [none]
  starts.zipWith Line.mk stops

/-- Part of a line that is shown around a place, and where the place falls in it. -/
def window (units : Array Nat) (line : Line) (position : Int) (room : Nat) : List Nat × Int :=
  let half : Int := room / 2 - 1
  let arrows := fun u => if u = 9 then 0x2192 else u
  let cutHead := position - line.start > half
  let head := if cutHead then Text.toUnits " ... " else []
  let start : Int := if cutHead then position - half + head.length else line.start
  let cutTail := match line.stop with
    | some stop => decide ((stop : Int) - position > half)
    | none => false
  let tail := if cutTail then Text.toUnits " ..." else []
  let stop : Int := if cutTail then position + half - tail.length
    else match line.stop with
      | some stop => stop
      | none => units.size
  let shown := (units.extract start.toNat stop.toNat).toList.map arrows
  (head ++ shown ++ tail, position - start + head.length)

def padLeft (s : String) (size : Nat) : String :=
  String.ofList (List.replicate (size - s.length) ' ') ++ s

def snippet (m : Mark) : String :=
  let breaks := breaksFrom 0 m.units.toList
  let lines := linesOf breaks
  let found := (breaks.findIdx? fun b => m.offset ≤ b.1).getD breaks.length
  let digits := (toString (min (m.line + linesAfter) breaks.length)).length
  let room := width - (1 + digits + 3)
  let here := (lines[found]?.getD default).start
  let shown (index : Nat) : String × Int :=
    let line := lines[index]?.getD default
    let (units, column) := window m.units line ((m.offset : Int) - here + line.start) room
    let number := toString (((m.line : Int) + index - found) + 1)
    (" " ++ padLeft number digits ++ " | " ++ Text.ofUnits units, column)
  let above := (List.range found).drop (found - linesBefore)
  let below := ((List.range linesAfter).map (found + 1 + ·)).takeWhile (· < breaks.length)
  let (marked, column) := shown found
  let pointer := String.ofList (List.replicate ((1 + digits + 3 : Int) + column).toNat '-') ++ "^"
  "\n".intercalate (above.map (fun i => (shown i).1) ++ [marked, pointer] ++
    below.map fun i => (shown i).1)

end Mark

namespace Failure

def message (f : Failure) : String :=
  match f.mark with
  | none => f.reason
  | some m =>
    let place := f.reason ++ " (" ++ toString (m.line + 1) ++ ":" ++ toString (m.column + 1) ++ ")"
    if m.units.isEmpty then place else place ++ "\n\n" ++ m.snippet

end Failure
end Turnstile.Yaml
