import Turnstile.Text.Units

/-!
UTF-8 with replacement. In decoding, each longest start of a character that goes wrong, and each
byte that starts none, becomes one U+FFFD; in encoding, each lone half does.
-/
namespace Turnstile.Text.Utf8

/-- A character under way: how many bytes it still needs, its bits so far, and the bounds of the
next byte. -/
structure Pending where
  needed : Nat
  bits : Nat
  low : Nat := 0x80
  high : Nat := 0xBF

def replacement : Char := Char.ofNat 0xFFFD

def lead (b : Nat) : Option Pending × List Char :=
  if b < 0x80 then (none, [Char.ofNat b])
  else if 0xC2 ≤ b ∧ b ≤ 0xDF then (some { needed := 1, bits := b - 0xC0 }, [])
  else if b = 0xE0 then (some { needed := 2, bits := 0, low := 0xA0 }, [])
  else if b = 0xED then (some { needed := 2, bits := 0xD, high := 0x9F }, [])
  else if 0xE1 ≤ b ∧ b ≤ 0xEF then (some { needed := 2, bits := b - 0xE0 }, [])
  else if b = 0xF0 then (some { needed := 3, bits := 0, low := 0x90 }, [])
  else if b = 0xF4 then (some { needed := 3, bits := 4, high := 0x8F }, [])
  else if 0xF1 ≤ b ∧ b ≤ 0xF3 then (some { needed := 3, bits := b - 0xF0 }, [])
  else (none, [replacement])

def step (state : Option Pending) (b : Nat) : Option Pending × List Char :=
  match state with
  | none => lead b
  | some p =>
    if p.low ≤ b ∧ b ≤ p.high then
      let bits := p.bits * 64 + (b - 0x80)
      if p.needed = 1 then (none, [Char.ofNat bits])
      else (some { needed := p.needed - 1, bits }, [])
    else
      let (next, chars) := lead b
      (next, replacement :: chars)

def decodeFrom : Option Pending → List UInt8 → List Char
  | none, [] => []
  | some _, [] => [replacement]
  | state, b :: rest =>
    let (next, chars) := step state b.toNat
    chars ++ decodeFrom next rest

def decode (bytes : List UInt8) : String := ofChars (decodeFrom none bytes)

def visible (s : String) : String :=
  String.ofList ((toPieces s).map fun
    | .char c => c
    | .half _ => replacement)

def encode (s : String) : List UInt8 := (visible s).toUTF8.toList

end Turnstile.Text.Utf8
