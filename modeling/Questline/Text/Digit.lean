import Questline.Text.DigitTable

/-! Digits of all scripts.  Decimal digits have a value in a positional number; the other digits
only look like a number. -/

namespace Questline.Text

/-- The value of a decimal digit of any script. -/
def decimalValue? (c : Char) : Option Nat :=
  decimalZeros.findSome? fun z =>
    if z ≤ c.toNat ∧ c.toNat < z + 10 then some (c.toNat - z) else none

def isDigit (c : Char) : Bool :=
  (decimalValue? c).isSome || otherDigits.any fun (a, b) => a ≤ c.toNat && c.toNat ≤ b

/-- A non-empty text of digits only, decimal or not. -/
def isNumeral (s : String) : Bool :=
  !s.isEmpty && s.toList.all isDigit

end Questline.Text
