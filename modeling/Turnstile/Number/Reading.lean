import Turnstile.Number
import Turnstile.Text.Blank

/-!
The number that a text spells: a decimal, an infinity by its name, or a whole number after the mark
of its base. Blanks around it do not count; blanks alone spell zero, and any other text spells
not-a-number.
-/
namespace Turnstile.Number

def digitOf? (base : Nat) (c : Char) : Option Nat :=
  let value :=
    if '0' ≤ c ∧ c ≤ '9' then some (c.toNat - 48)
    else if 'a' ≤ c ∧ c ≤ 'z' then some (c.toNat - 87)
    else if 'A' ≤ c ∧ c ≤ 'Z' then some (c.toNat - 55)
    else none
  value.filter (· < base)

/-- The digits at the start, as their value and their number, and the rest. -/
def takeDigits (base : Nat) (cs : List Char) : Nat × Nat × List Char :=
  let digits := (cs.takeWhile fun c => (digitOf? base c).isSome).filterMap (digitOf? base)
  (digits.foldl (fun n d => n * base + d) 0, digits.length, cs.drop digits.length)

def ofDigits? (base : Nat) (cs : List Char) : Option Nat :=
  match takeDigits base cs with
  | (n, count, rest) => if count ≠ 0 ∧ rest.isEmpty then some n else none

def ofExponent? (cs : List Char) : Option Int :=
  match cs with
  | [] => some 0
  | e :: rest =>
    if e = 'e' ∨ e = 'E' then
      match rest with
      | '-' :: digits => (ofDigits? 10 digits).map fun n => -(n : Int)
      | '+' :: digits => (ofDigits? 10 digits).map Int.ofNat
      | digits => (ofDigits? 10 digits).map Int.ofNat
    else none

def ofPlainDecimal? (negative : Bool) (cs : List Char) : Option Number :=
  let (whole, wholeCount, rest) := takeDigits 10 cs
  let (part, partCount, rest) := match rest with
    | '.' :: tail => takeDigits 10 tail
    | rest => (0, 0, rest)
  if wholeCount + partCount = 0 then none
  else (ofExponent? rest).map fun exponent =>
    ofDecimal negative (whole * Nat.pow 10 partCount + part) (exponent - partCount)

def ofUnsigned? (negative : Bool) (cs : List Char) : Option Number :=
  if cs = "Infinity".toList then some (.infinite negative) else ofPlainDecimal? negative cs

def ofMarked? : List Char → Option Number
  | '0' :: mark :: digits =>
    if mark = 'x' ∨ mark = 'X' then (ofDigits? 16 digits).map fun n => ofDecimal false n 0
    else if mark = 'o' ∨ mark = 'O' then (ofDigits? 8 digits).map fun n => ofDecimal false n 0
    else if mark = 'b' ∨ mark = 'B' then (ofDigits? 2 digits).map fun n => ofDecimal false n 0
    else none
  | _ => none

def ofChars? (cs : List Char) : Option Number :=
  match cs with
  | [] => some 0
  | '-' :: rest => ofUnsigned? true rest
  | '+' :: rest => ofUnsigned? false rest
  | cs => (ofMarked? cs).or (ofUnsigned? false cs)

def ofText (s : String) : Number := (ofChars? (Text.trim s.toList)).getD .nan

end Turnstile.Number
