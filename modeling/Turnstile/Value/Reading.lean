import Turnstile.Number.Reading
import Turnstile.Value
import Turnstile.Yaml.Timestamp

/-!
What a value counts as where a text, a number or a truth value is wanted.
-/
namespace Turnstile.Value

/-- Whether a value counts as true: all do but the missing ones, `false`, zero, not-a-number and the
empty text. -/
def isTruthy : Value → Bool
  | .undefined => false
  | .null => false
  | .boolean b => b
  | .number n => n ≠ .nan && n ≠ 0
  | .text s => !s.isEmpty
  | _ => true

mutual

/-- The text that a value counts as. Items of a list stand between commas, and a missing one leaves
nothing. -/
def plainText : Value → String
  | .undefined => "undefined"
  | .null => "null"
  | .boolean b => if b then "true" else "false"
  | .number n => n.text
  | .text s => s
  | .instant ms => Yaml.Timestamp.text ms
  | .binary bytes => ",".intercalate (bytes.map fun b => toString b.toNat)
  | .list items => ",".intercalate (itemTexts items)
  | .mapping _ _ => "[object Object]"

def itemTexts : List Value → List String
  | [] => []
  | item :: rest =>
    (match item with
    | .undefined => ""
    | .null => ""
    | item => plainText item) :: itemTexts rest

end

def toNumber : Value → Number
  | .undefined => .nan
  | .null => 0
  | .boolean b => if b then 1 else 0
  | .number n => n
  | .instant ms => .ofInt ms
  | v => .ofText v.plainText

end Turnstile.Value
