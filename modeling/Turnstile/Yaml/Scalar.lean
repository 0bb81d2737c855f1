import Turnstile.Yaml.Graph
import Turnstile.Yaml.Timestamp

/-!
What the text of a scalar stands for. A plain scalar is tried as null, truth value, whole number,
other number, timestamp and merge key, in this order, and is a text otherwise.
-/
namespace Turnstile.Yaml.Scalar

def standard (name : String) : String := "tag:yaml.org,2002:" ++ name

/-- The tag of a plain scalar before it is resolved, and after if it is a text. -/
def unresolved : String := "?"

def mergeTag : String := standard "merge"

def isNull (s : String) : Bool := s = "~" || s = "null" || s = "Null" || s = "NULL"

def boolean? (s : String) : Option Bool :=
  if s = "true" ∨ s = "True" ∨ s = "TRUE" then some true
  else if s = "false" ∨ s = "False" ∨ s = "FALSE" then some false
  else none

def digitValue? (c : Char) : Option Nat :=
  if '0' ≤ c ∧ c ≤ '9' then some (c.toNat - 48)
  else if 'a' ≤ c ∧ c ≤ 'f' then some (c.toNat - 87)
  else if 'A' ≤ c ∧ c ≤ 'F' then some (c.toNat - 55)
  else none

def natural? (base : Nat) (s : List Char) : Option Nat :=
  if s.isEmpty then none
  else s.foldl (fun acc c =>
    match acc, digitValue? c with
    | some n, some d => if d < base then some (n * base + d) else none
    | _, _ => none) (some 0)

def signed (s : List Char) : Bool × List Char :=
  match s with
  | '-' :: rest => (true, rest)
  | '+' :: rest => (false, rest)
  | _ => (false, s)

def magnitude? (s : List Char) : Option Nat :=
  match s with
  | '0' :: 'b' :: rest => natural? 2 rest
  | '0' :: 'x' :: rest => natural? 16 rest
  | '0' :: 'o' :: rest => natural? 8 rest
  | _ => natural? 10 s

def ofDigits? (negative : Bool) (digits : Nat) (exponent : Int) : Option Number :=
  match Number.ofDecimal negative digits exponent with
  | .finite q => some (.finite q)
  | _ => none

/-- A whole number: decimal, or binary, octal or hexadecimal after its mark. -/
def integer? (s : String) : Option Number :=
  let (negative, rest) := signed s.toList
  (magnitude? rest).bind fun n => ofDigits? negative n 0

def isDigit (c : Char) : Bool := '0' ≤ c && c ≤ '9'

def exponent? (s : List Char) : Option Int :=
  match s with
  | [] => some 0
  | c :: rest =>
    if c = 'e' ∨ c = 'E' then
      let (negative, digits) := signed rest
      (natural? 10 digits).map fun n => if negative then -(n : Int) else n
    else none

def decimal? (negative : Bool) (whole part : List Char) (exponent : Int) : Option Number :=
  ofDigits? negative ((natural? 10 (whole ++ part)).getD 0) (exponent - part.length)

/-- A number with point or exponent, an infinity, or not-a-number. A number that starts with its
point has no sign. -/
def float? (s : String) : Option Number :=
  let (negative, rest) := signed s.toList
  let isSigned := rest.length < s.length
  match rest with
  | '.' :: tail =>
    let name := String.ofList tail
    if name = "inf" ∨ name = "Inf" ∨ name = "INF" then some (.infinite negative)
    else if isSigned then none
    else if name = "nan" ∨ name = "NaN" ∨ name = "NAN" then some .nan
    else
      let part := tail.takeWhile isDigit
      if part.isEmpty then none
      else (exponent? (tail.dropWhile isDigit)).bind (decimal? false [] part)
  | _ =>
    let whole := rest.takeWhile isDigit
    if whole.isEmpty then none
    else
      match rest.dropWhile isDigit with
      | '.' :: tail =>
        (exponent? (tail.dropWhile isDigit)).bind
          (decimal? negative whole (tail.takeWhile isDigit))
      | tail => (exponent? tail).bind (decimal? negative whole [])

def sextet? (c : Char) : Option Nat :=
  if 'A' ≤ c ∧ c ≤ 'Z' then some (c.toNat - 65)
  else if 'a' ≤ c ∧ c ≤ 'z' then some (c.toNat - 71)
  else if '0' ≤ c ∧ c ≤ '9' then some (c.toNat + 4)
  else if c = '+' then some 62
  else if c = '/' then some 63
  else none

def isLineBreak (c : Char) : Bool := c = '\n' || c = '\r'

/-- Groups of four digits as three bytes; a last group of two or three digits as one or two. -/
def bytesOf : List Nat → List Nat
  | a :: b :: c :: d :: rest =>
    let bits := ((a * 64 + b) * 64 + c) * 64 + d
    bits / 65536 % 256 :: bits / 256 % 256 :: bits % 256 :: bytesOf rest
  | [a, b, c] =>
    let bits := (a * 64 + b) * 64 + c
    [bits / 1024 % 256, bits / 4 % 256]
  | [a, b] => [(a * 64 + b) / 16 % 256]
  | _ => []

/-- Bytes in base 64. Line breaks are skipped and the padding counts as digits; no digits at all
make three null bytes. -/
def binary? (s : String) : Option (List UInt8) :=
  let chars := s.toList.filter fun c => !isLineBreak c
  let digits := chars.filter (· ≠ '=')
  match digits.mapM sextet? with
  | none => none
  | some sextets =>
    if chars.length * 6 % 8 ≠ 0 then none
    else if sextets.isEmpty then some [0, 0, 0]
    else some ((bytesOf sextets).map UInt8.ofNat)

def resolve (s : String) : Item × String :=
  if isNull s then (.null, standard "null")
  else match boolean? s with
  | some b => (.boolean b, standard "bool")
  | none =>
    match integer? s with
    | some n => (.number n, standard "int")
    | none =>
      match float? s with
      | some n => (.number n, standard "float")
      | none =>
        match Timestamp.parse? s with
        | some ms => (.instant ms, standard "timestamp")
        | none => (.text s, if s = "<<" then mergeTag else unresolved)

end Turnstile.Yaml.Scalar
