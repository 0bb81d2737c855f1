/-!
Timestamps: a date, or a date with a time of day and a zone, as milliseconds from the start of 1970.
Months and days past their range run over into the next ones.
-/
namespace Turnstile.Yaml.Timestamp

/-- Days from the start of 1970 to the first day of a month, counted from zero. -/
def daysToMonth (year month : Nat) : Int :=
  let year := year + month / 12
  let month := month % 12
  -- years that start in March, so that the leap day comes last
  let y : Int := if month < 2 then (year : Int) - 1 else year
  let m : Int := (month + 10) % 12
  let era := y.fdiv 400
  let yearOfEra := y - era * 400
  let dayOfYear := (153 * m + 2) / 5
  era * 146097 + (yearOfEra * 365 + yearOfEra / 4 - yearOfEra / 100 + dayOfYear) - 719468

def fullYear (year : Nat) : Nat := if year < 100 then 1900 + year else year

def ofParts (year month day : Nat) (msOfDay : Int) : Int :=
  let days := if month = 0 then daysToMonth (fullYear year - 1) 11
    else daysToMonth (fullYear year) (month - 1)
  (days + day - 1) * 86400000 + msOfDay

def isDigit (c : Char) : Bool := '0' ≤ c && c ≤ '9'

def value (digits : List Char) : Nat := digits.foldl (fun n c => n * 10 + (c.toNat - 48)) 0

/-- Exactly `count` digits at the start. -/
def digits? (count : Nat) (s : List Char) : Option (Nat × List Char) :=
  let taken := s.take count
  if taken.length = count ∧ taken.all isDigit then some (value taken, s.drop count) else none

def shortDigits? (s : List Char) : Option (Nat × List Char) :=
  match digits? 2 s with
  | some r => some r
  | none => digits? 1 s

def char? (c : Char) : List Char → Option (List Char)
  | [] => none
  | d :: rest => if d = c then some rest else none

def isBlank (c : Char) : Bool := c = ' ' || c = '\t'

def fraction (s : List Char) : Nat × List Char :=
  match s with
  | '.' :: rest =>
    let digits := rest.takeWhile isDigit
    (value ((digits ++ ['0', '0', '0']).take 3), rest.dropWhile isDigit)
  | _ => (0, s)

/-- A zone, or nothing, up to the end: the milliseconds it lies ahead. -/
def zone? (s : List Char) : Option Int :=
  match s with
  | [] => some 0
  | _ =>
    match s.dropWhile isBlank with
    | ['Z'] => some 0
    | sign :: rest =>
      if sign = '+' ∨ sign = '-' then do
        let (hours, rest) ← shortDigits? rest
        let minutes ← match rest with
          | [] => some 0
          | ':' :: rest =>
            match digits? 2 rest with
            | some (minutes, []) => some minutes
            | _ => none
          | _ => none
        let ahead : Int := (hours * 60 + minutes : Nat) * 60000
        some (if sign = '-' then -ahead else ahead)
      else none
    | [] => none

def separator? (s : List Char) : Option (List Char) :=
  match s with
  | 'T' :: rest => some rest
  | 't' :: rest => some rest
  | c :: rest => if isBlank c then some (rest.dropWhile isBlank) else none
  | [] => none

def dateOnly? (s : List Char) : Option Int := do
  let (year, s) ← digits? 4 s
  let (month, s) ← digits? 2 (← char? '-' s)
  let (day, s) ← digits? 2 (← char? '-' s)
  if s.isEmpty then some (ofParts year month day 0) else none

def full? (s : List Char) : Option Int := do
  let (year, s) ← digits? 4 s
  let (month, s) ← shortDigits? (← char? '-' s)
  let (day, s) ← shortDigits? (← char? '-' s)
  let (hour, s) ← shortDigits? (← separator? s)
  let (minute, s) ← digits? 2 (← char? ':' s)
  let (second, s) ← digits? 2 (← char? ':' s)
  let (ms, s) := fraction s
  let ahead ← zone? s
  some (ofParts year month day ((hour * 3600 + minute * 60 + second) * 1000 + ms) - ahead)

def parse? (s : String) : Option Int :=
  match dateOnly? s.toList with
  | some ms => some ms
  | none => full? s.toList

def weekday (days : Int) : String :=
  match (days + 4) % 7 with
  | 0 => "Sun" | 1 => "Mon" | 2 => "Tue" | 3 => "Wed" | 4 => "Thu" | 5 => "Fri" | _ => "Sat"

def monthNames : List String :=
  ["Jan", "Feb", "Mar", "Apr", "May", "Jun", "Jul", "Aug", "Sep", "Oct", "Nov", "Dec"]

def civil (days : Int) : Int × Nat × Nat :=
  let z := days + 719468
  let era := z.fdiv 146097
  let dayOfEra := z - era * 146097
  let yearOfEra := (dayOfEra - dayOfEra / 1460 + dayOfEra / 36524 - dayOfEra / 146096) / 365
  let dayOfYear := dayOfEra - (365 * yearOfEra + yearOfEra / 4 - yearOfEra / 100)
  let m := (5 * dayOfYear + 2) / 153
  let day := dayOfYear - (153 * m + 2) / 5 + 1
  let month := (m + 2) % 12
  let year := yearOfEra + era * 400 + (if month < 2 then 1 else 0)
  (year, month.toNat, day.toNat)

def padded (width n : Nat) : String :=
  let s := toString n
  String.ofList (List.replicate (width - s.length) '0') ++ s

def text (ms : Int) : String :=
  let days := ms.fdiv 86400000
  let seconds := ((ms - days * 86400000) / 1000).toNat
  let (year, month, day) := civil days
  let yearText := (if year < 0 then "-" else "") ++ padded (if year < 0 then 6 else 4) year.natAbs
  weekday days ++ " " ++ monthNames.getD month "" ++ " " ++ padded 2 day ++ " " ++ yearText ++
    " " ++ padded 2 (seconds / 3600) ++ ":" ++ padded 2 (seconds / 60 % 60) ++ ":" ++
    padded 2 (seconds % 60) ++ " GMT+0000 (Coordinated Universal Time)"

end Turnstile.Yaml.Timestamp
