/-!
Texts as sequences of 16-bit units. A character past the first plane takes two units, a high and a
low half. A half that stands alone is no character, but a text can hold it: it is written as the
last code point, followed by a code point that tells which half it is. Where the last code point
itself is meant, it is written twice, so every sequence of units is the text of exactly one string.
-/
namespace Turnstile.Text

inductive Piece where
  | char (c : Char)
  | half (index : Fin 0x800)
  deriving DecidableEq

def announcer : Char := Char.ofNat 0x10FFFF

def halfChar (index : Fin 0x800) : Char := Char.ofNat (0xE000 + index)

def halfOf? (c : Char) : Option (Fin 0x800) :=
  if h : 0xE000 ≤ c.toNat ∧ c.toNat < 0xE800 then some ⟨c.toNat - 0xE000, by omega⟩ else none

def Piece.chars : Piece → List Char
  | .char c => if c = announcer then [announcer, announcer] else [c]
  | .half index => [announcer, halfChar index]

/-- The pieces that characters of a string write. An announcer that announces nothing stands for
itself. -/
def pieces : List Char → List Piece
  | [] => []
  | [c] => [.char c]
  | c :: d :: rest =>
    if c = announcer then
      match halfOf? d with
      | some index => .half index :: pieces rest
      | none => if d = announcer then .char c :: pieces rest else .char c :: pieces (d :: rest)
    else .char c :: pieces (d :: rest)

def toPieces (s : String) : List Piece := pieces s.toList

def ofPieces (ps : List Piece) : String := String.ofList (ps.flatMap Piece.chars)

def ofChars (cs : List Char) : String := ofPieces (cs.map .char)

def isHigh (unit : Nat) : Bool := 0xD800 ≤ unit && unit < 0xDC00

def isLow (unit : Nat) : Bool := 0xDC00 ≤ unit && unit < 0xE000

def unitsOfChar (c : Char) : List Nat :=
  let n := c.toNat
  if n < 0x10000 then [n]
  else [0xD800 + (n - 0x10000) / 0x400, 0xDC00 + (n - 0x10000) % 0x400]

def Piece.units : Piece → List Nat
  | .char c => unitsOfChar c
  | .half index => [0xD800 + index]

def toUnits (s : String) : List Nat := (toPieces s).flatMap Piece.units

def Piece.ofUnit (unit : Nat) : Piece :=
  if h : 0xD800 ≤ unit ∧ unit < 0xE000 then .half ⟨unit - 0xD800, by omega⟩
  else .char (Char.ofNat unit)

def Piece.ofHalves (high low : Nat) : Piece :=
  .char (Char.ofNat (0x10000 + (high - 0xD800) * 0x400 + (low - 0xDC00)))

/-- Joins halves that stand in order; the unit before the list is `held`, if it is a high half. -/
def joinUnits : Option Nat → List Nat → List Piece
  | none, [] => []
  | some high, [] => [.ofUnit high]
  | none, u :: rest =>
    if isHigh u then joinUnits (some u) rest else .ofUnit u :: joinUnits none rest
  | some high, u :: rest =>
    if isLow u then .ofHalves high u :: joinUnits none rest
    else if isHigh u then .ofUnit high :: joinUnits (some u) rest
    else .ofUnit high :: .ofUnit u :: joinUnits none rest

def ofUnits (units : List Nat) : String := ofPieces (joinUnits none units)

end Turnstile.Text
