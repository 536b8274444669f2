import Questline.Decimal.Binary

/-! The shortest decimal that reads back as a given binary number.  A positive finite number is
`m * 2 ^ q`; the decimals that round to it form an interval around it, and the first decimal grid
with a point in that interval gives the digits. -/

namespace Questline.Decimal

/-- The real number `digits * 10 ^ exponent`. -/
structure Digits where
  digits : Nat
  exponent : Int
  deriving DecidableEq, Repr

/-- The exponent `k` with `10 ^ (k - 1) ≤ num / den < 10 ^ k`. -/
def pointPosition (num den : Nat) : Int :=
  if den ≤ num then (Nat.toDigits 10 (num / den)).length
  else 1 - (Nat.toDigits 10 ((den - 1) / num)).length

/-- The grid point `d * 10 ^ e` nearest to `num / den` of the two around it, among those inside
the interval from `low / den` to `high / den`; at a tie the even one. -/
def onGrid? (low num high den : Nat) (closed : Bool) (e : Int) : Option Nat :=
  let up := Nat.pow 10 (-e).toNat
  let down := den * Nat.pow 10 e.toNat
  let below := num * up / down
  let inside (d : Nat) : Bool :=
    let v := d * down
    if closed then low * up ≤ v && v ≤ high * up else low * up < v && v < high * up
  match inside below && below != 0, inside (below + 1) with
  | true, true =>
    let gap := 2 * (num * up)
    let middle := (2 * below + 1) * down
    some (if gap < middle || (gap == middle && below % 2 == 0) then below else below + 1)
  | true, false => some below
  | false, true => some (below + 1)
  | false, false => none

/-- Tries grids from coarse to fine. -/
def firstGrid (low num high den : Nat) (closed : Bool) (point : Int) : Nat → Nat → Digits
  | 0, _ => ⟨num / den, 0⟩
  | grids + 1, count =>
    match onGrid? low num high den closed (point - count) with
    | some d => ⟨d, point - count⟩
    | none => firstGrid low num high den closed point grids (count + 1)

/-- Moves factors of ten from the digits into the exponent. -/
def dropZeros : Nat → Digits → Digits
  | 0, d => d
  | steps + 1, d =>
    if d.digits % 10 = 0 then dropZeros steps ⟨d.digits / 10, d.exponent + 1⟩ else d

/-- The shortest digits that round to the number, the nearest of those, without trailing zeros.
Seventeen digits always suffice. -/
def Binary.shortest (b : Binary) : Digits :=
  let scale := b.exponent - 2
  let unit := Nat.pow 2 scale.toNat
  let den := Nat.pow 2 (-scale).toNat
  let num := 4 * b.mantissa * unit
  let low := (4 * b.mantissa - if b.uneven then 1 else 2) * unit
  let high := (4 * b.mantissa + 2) * unit
  let found := firstGrid low num high den (b.mantissa % 2 == 0) (pointPosition num den) 17 1
  dropZeros 18 found

end Questline.Decimal
