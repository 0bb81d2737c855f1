import Turnstile.Number.Reading

/-!
Names that are numbers below 2^32 - 1, written as they are printed. Wherever names are listed, these
come before the others.
-/
namespace Turnstile.Text

def maxOrdinal : Nat := Nat.pow 2 32 - 1

def ordinal? (name : String) : Option Nat :=
  match Number.ofDigits? 10 name.toList with
  | some n => if n < maxOrdinal ∧ toString n = name then some n else none
  | none => none

end Turnstile.Text
