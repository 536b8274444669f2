/-! Doubles by their bits: sign, shape and the integers next to them. -/

namespace Questline.Decimal

/-- The real number `mantissa * 2 ^ exponent`, a positive finite double, and whether the next
smaller double is only half as far away as the next larger one. -/
structure Binary where
  mantissa : Nat
  exponent : Int
  uneven : Bool
  deriving DecidableEq, Repr

/-- A double apart from its sign. -/
inductive Shape
  | zero : Shape
  | finite : Binary → Shape
  | infinite : Shape
  | nan : Shape

def isNegative (x : Float) : Bool := x.toBits >>> 63 == 1

/-- Reads the fields of the 64-bit format. -/
def shape (x : Float) : Shape :=
  let fraction := (x.toBits &&& 0xfffffffffffff).toNat
  let field := ((x.toBits >>> 52) &&& 0x7ff).toNat
  if field = 0x7ff then if fraction = 0 then .infinite else .nan
  else if field = 0 then
    if fraction = 0 then .zero else .finite ⟨fraction, -1074, false⟩
  else .finite ⟨fraction + 0x10000000000000, field - 1075, fraction == 0 && field > 1⟩

/-- The largest integer not beyond the number, towards zero; none for what is no number. -/
def truncate? (x : Float) : Option Int :=
  match shape x with
  | .zero => some 0
  | .finite b =>
    let n : Nat := if 0 ≤ b.exponent then b.mantissa * Nat.pow 2 b.exponent.toNat
      else b.mantissa / Nat.pow 2 (-b.exponent).toNat
    some (if isNegative x then -n else n)
  | .infinite => none
  | .nan => none

/-- The integer that equals the number, if there is one. -/
def integer? (x : Float) : Option Int :=
  match shape x with
  | .finite b =>
    if 0 ≤ b.exponent ∨ b.mantissa % Nat.pow 2 (-b.exponent).toNat = 0 then truncate? x
    else none
  | .zero => some 0
  | _ => none

/-- How an integer compares with a float; nothing when the float is no number. -/
def compareInt (n : Int) (x : Float) : Option Ordering :=
  match truncate? x with
  | some whole =>
    if n < whole then some .lt
    else if whole < n then some .gt
    else if (integer? x).isSome then some .eq
    else some (if isNegative x then .gt else .lt)
  | none => if x.isNaN then none else some (if isNegative x then .gt else .lt)

end Questline.Decimal
