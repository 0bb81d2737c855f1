/-!
Numbers as a binary64 cell holds them: not-a-number, the two infinities, and finite values kept as
exact rationals. `Number.nearest` rounds a rational to the nearest such value, ties to the even
significand; `Number.text` is the shortest decimal that rounds back.

The two zeros are one value here, and of arithmetic only adding a whole number is covered.
-/
namespace Turnstile

inductive Number where
  | nan
  | infinite (negative : Bool)
  | finite (value : Rat)
  deriving DecidableEq, Inhabited

namespace Number

def ofInt (n : Int) : Number := .finite n

instance : OfNat Number n := ⟨.finite n⟩

/-- Quotient of two naturals to the nearest natural, a tie to the even one. -/
def divNearest (num den : Nat) : Nat :=
  let q := num / den
  let r := num % den
  if 2 * r < den then q
  else if 2 * r > den then q + 1
  else if q % 2 = 0 then q else q + 1

/-- The power of two that one unit in the last place of `num / den` stands for. -/
def unitExponent (num den : Nat) : Int :=
  let e : Int := (num.log2 : Int) - den.log2
  let below := if e < 0 then num <<< (-e).toNat < den else num < den <<< e.toNat
  max ((if below then e - 1 else e) - 52) (-1074)

/-- Nearest binary64 magnitude of `num / den`; `none` past the largest finite one. -/
def nearestMagnitude (num den : Nat) : Option Rat :=
  let e := unitExponent num den
  let units := if e < 0 then divNearest (num <<< (-e).toNat) den
    else divNearest num (den <<< e.toNat)
  let value : Rat := if e < 0 then mkRat units (1 <<< (-e).toNat)
    else ((units <<< e.toNat : Nat) : Rat)
  if value < ((1 <<< 1024 : Nat) : Rat) then some value else none

def isExactInteger (q : Rat) : Bool := q.den = 1 && q.num.natAbs ≤ Nat.pow 2 53

def nearest (q : Rat) : Number :=
  if isExactInteger q then .finite q
  else match nearestMagnitude q.num.natAbs q.den with
    | some m => .finite (if q < 0 then -m else m)
    | none => .infinite (q < 0)

/-- Value of the decimal `digits · 10 ^ exponent`. Exponents far outside the range of finite
values are answered without computing the power. -/
def ofDecimal (negative : Bool) (digits : Nat) (exponent : Int) : Number :=
  if digits = 0 then .finite 0
  else
    let top : Int := exponent + (Nat.toDigits 10 digits).length
    if top > 310 then .infinite negative
    else if top < -330 then .finite 0
    else
      let m : Rat := if exponent < 0 then mkRat digits (Nat.pow 10 (-exponent).toNat)
        else ((digits * Nat.pow 10 exponent.toNat : Nat) : Rat)
      nearest (if negative then -m else m)

def isInteger : Number → Bool
  | .finite q => q.den = 1
  | _ => false

def toInt? : Number → Option Int
  | .finite q => if q.den = 1 then some q.num else none
  | _ => none

/-- Whether the number is below `bound`; never true of not-a-number. -/
def lt (n : Number) (bound : Rat) : Bool :=
  match n with
  | .nan => false
  | .infinite negative => negative
  | .finite q => q < bound

/-- Whether the number is at most `bound`; never true of not-a-number. -/
def le (n : Number) (bound : Rat) : Bool :=
  match n with
  | .nan => false
  | .infinite negative => negative
  | .finite q => q ≤ bound

/-- Whether a number is below another; never true of not-a-number. -/
def below : Number → Number → Bool
  | .nan, _ => false
  | _, .nan => false
  | .infinite p, .infinite q => p && !q
  | .infinite negative, .finite _ => negative
  | .finite _, .infinite negative => !negative
  | .finite p, .finite q => p < q

/-- Whether two numbers are equal; never true of not-a-number. -/
def equals (a b : Number) : Bool := a ≠ .nan && a = b

def plus (n : Number) (k : Int) : Number :=
  match n with
  | .finite q => nearest (q + k)
  | n => n

/-- A positive decimal: its digits as a natural number, and the power of ten of the last one. -/
structure Decimal where
  digits : Nat
  exponent : Int

namespace Decimal

def value (d : Decimal) : Rat :=
  if d.exponent < 0 then mkRat d.digits (Nat.pow 10 (-d.exponent).toNat)
  else ((d.digits * Nat.pow 10 d.exponent.toNat : Nat) : Rat)

/-- Drops the zeros at the end, at most `fuel` of them. -/
def trim : Nat → Decimal → Decimal
  | 0, d => d
  | fuel + 1, d =>
    if d.digits ≠ 0 ∧ d.digits % 10 = 0 then trim fuel ⟨d.digits / 10, d.exponent + 1⟩ else d

end Decimal

/-- Number of digits before the point of a positive rational, negative when it starts with zeros. -/
def pointPosition (q : Rat) : Int :=
  let whole := q.num.natAbs / q.den
  if whole ≠ 0 then (Nat.toDigits 10 whole).length
  else
    let scaled := q.num.natAbs * Nat.pow 10 400 / q.den
    (Nat.toDigits 10 scaled).length - 400

/-- Of the two points of the grid of `count`-digit decimals beside `q`, the nearer one that rounds
back to `q`; of two that are as near, the even one. -/
def onGrid (q : Rat) (count : Nat) : Option Decimal :=
  let exponent := pointPosition q - count
  let scaled : Rat := if exponent < 0 then q * (Nat.pow 10 (-exponent).toNat : Rat)
    else q / (Nat.pow 10 exponent.toNat : Rat)
  let low : Decimal := ⟨scaled.floor.toNat, exponent⟩
  let high : Decimal := ⟨scaled.floor.toNat + 1, exponent⟩
  let hit (d : Decimal) : Bool := nearest d.value = .finite q
  match hit low, hit high with
  | true, true =>
    let past := q - low.value
    let left := high.value - q
    if past < left ∨ (past = left ∧ low.digits % 2 = 0) then some low else some high
  | true, false => some low
  | false, true => some high
  | false, false => none

/-- First grid, coarsest first, with a decimal that rounds back; seventeen digits always do. -/
def shortest (q : Rat) : Decimal :=
  (((List.range 17).findSome? fun n => onGrid q (n + 1)).getD ⟨0, 0⟩).trim 400

/-- Positional up to twenty-one places before the point and six zeros after it, scientific
otherwise. -/
def layout (d : Decimal) : String :=
  let digits := String.ofList (Nat.toDigits 10 d.digits)
  let count := digits.length
  let point := d.exponent + count
  let zeros (n : Nat) := String.ofList (List.replicate n '0')
  if 0 ≤ d.exponent ∧ point ≤ 21 then digits ++ zeros d.exponent.toNat
  else if 0 < point ∧ point ≤ 21 then
    (digits.take point.toNat).toString ++ "." ++ (digits.drop point.toNat).toString
  else if -6 < point ∧ point ≤ 0 then "0." ++ zeros (-point).toNat ++ digits
  else
    let shift := point - 1
    let mark := (if shift < 0 then "e-" else "e+") ++ toString shift.natAbs
    if count = 1 then digits ++ mark
    else (digits.take 1).toString ++ "." ++ (digits.drop 1).toString ++ mark

def text : Number → String
  | .nan => "NaN"
  | .infinite negative => if negative then "-Infinity" else "Infinity"
  | .finite q =>
    if q = 0 then "0"
    else if q < 0 then "-" ++ layout (shortest (-q))
    else layout (shortest q)

end Number
end Turnstile
