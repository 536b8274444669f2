import Questline.Decimal.Shortest
import Questline.Text.Blank
import Questline.Text.Case
import Questline.Text.Digit

/-! Numbers as text.  Floats are written with the fewest digits that read back, positionally
while the point stays near them; integers and floats are read with surrounding white space, a
sign, decimal digits of any script, and single underscores between digits. -/

namespace Questline.Decimal

/-- Digits written with the decimal point after the first `point` of them. -/
def positional (digits : List Char) (point : Int) : String :=
  if point ≤ 0 then
    "0." ++ String.ofList (List.replicate (-point).toNat '0' ++ digits)
  else
    let whole := digits.take point.toNat
    let zeros := List.replicate (point.toNat - digits.length) '0'
    let rest := digits.drop point.toNat
    String.ofList (whole ++ zeros) ++ "." ++ (if rest.isEmpty then "0" else String.ofList rest)

/-- Digits written with one digit before the point and an exponent of at least two digits. -/
def scientific (digits : List Char) (exponent : Int) : String :=
  let head := String.ofList (digits.take 1)
  let rest := digits.drop 1
  let size := Nat.toDigits 10 exponent.natAbs
  head ++ (if rest.isEmpty then "" else "." ++ String.ofList rest) ++
    (if exponent < 0 then "e-" else "e+") ++
    String.ofList (List.replicate (2 - size.length) '0' ++ size)

/-- Floats are positional from `0.0001` up to below `10 ^ 16`, and always show a point or an
exponent. -/
def writeFloat (x : Float) : String :=
  let sign := if isNegative x then "-" else ""
  match shape x with
  | .nan => "nan"
  | .infinite => sign ++ "inf"
  | .zero => sign ++ "0.0"
  | .finite b =>
    let short := b.shortest
    let digits := Nat.toDigits 10 short.digits
    let point := short.exponent + digits.length
    sign ++ if -3 ≤ point ∧ point ≤ 16 then positional digits point
      else scientific digits (point - 1)

/-- Digits of one number, in order, with single underscores between them allowed; none when the
text does not start with a digit. -/
def readDigits : List Char → Option (List Nat × List Char)
  | [] => none
  | c :: rest =>
    match Text.decimalValue? c with
    | none => none
    | some d => some (go [d] rest)
where
  go (seen : List Nat) : List Char → List Nat × List Char
    | '_' :: c :: rest =>
      match Text.decimalValue? c with
      | some d => go (d :: seen) rest
      | none => (seen.reverse, '_' :: c :: rest)
    | c :: rest =>
      match Text.decimalValue? c with
      | some d => go (d :: seen) rest
      | none => (seen.reverse, c :: rest)
    | [] => (seen.reverse, [])

def ofDigits (digits : List Nat) : Nat := digits.foldl (fun n d => 10 * n + d) 0

/-- An optional sign and the rest. -/
def readSign : List Char → Bool × List Char
  | '-' :: rest => (true, rest)
  | '+' :: rest => (false, rest)
  | cs => (false, cs)

/-- The most digits that an integer is read from. -/
def maxDigits : Nat := 4300

/-- How many digits a text begins with, if they are too many for an integer and well separated. -/
def excessDigits? (s : String) : Option Nat :=
  match readDigits (readSign (Text.trimBy Text.isNumberBlank s.toList)).2 with
  | some (digits, rest) =>
    if maxDigits < digits.length ∧ rest.head? ≠ some '_' then some digits.length else none
  | none => none

def readInt? (s : String) : Option Int :=
  let (negative, cs) := readSign (Text.trimBy Text.isNumberBlank s.toList)
  match readDigits cs with
  | some (digits, []) => some (if negative then -(ofDigits digits : Int) else ofDigits digits)
  | _ => none

/-- The nearest double to `m * 10 ^ e`. -/
def nearest (m : Nat) (e : Int) : Float :=
  if m = 0 then 0
  else
    let point := (Nat.toDigits 10 m).length + e
    if point > 310 then 1 / 0
    else if point < -330 then 0
    else if 0 ≤ e then Float.ofScientific m false e.toNat
    else Float.ofScientific m true (-e).toNat

/-- An exponent mark with its number; zero when the text ends instead. -/
def readExponent : List Char → Option Int
  | [] => some 0
  | c :: rest =>
    if c = 'e' ∨ c = 'E' then
      let (negative, cs) := readSign rest
      match readDigits cs with
      | some (digits, []) => some (if negative then -(ofDigits digits : Int) else ofDigits digits)
      | _ => none
    else none

/-- An unsigned decimal with optional point and exponent. -/
def readMagnitude (cs : List Char) : Option Float :=
  match readDigits cs with
  | some (whole, '.' :: rest) =>
    match readDigits rest with
    | some (fraction, tail) =>
      (readExponent tail).map fun e => nearest (ofDigits (whole ++ fraction)) (e - fraction.length)
    | none => (readExponent rest).map fun e => nearest (ofDigits whole) e
  | some (whole, rest) => (readExponent rest).map fun e => nearest (ofDigits whole) e
  | none =>
    match cs with
    | '.' :: rest =>
      match readDigits rest with
      | some (fraction, tail) =>
        (readExponent tail).map fun e => nearest (ofDigits fraction) (e - fraction.length)
      | none => none
    | _ => none

def readFloat? (s : String) : Option Float :=
  let (negative, cs) := readSign (Text.trimBy Text.isNumberBlank s.toList)
  let name := Text.lower (String.ofList cs)
  let magnitude :=
    if name = "inf" ∨ name = "infinity" then some (1 / 0)
    else if name = "nan" then some (0 / 0)
    else readMagnitude cs
  magnitude.map fun x => if negative then -x else x

/-- The nearest double to an integer; none when it is beyond every double. -/
def ofInt? (n : Int) : Option Float :=
  let x := nearest n.natAbs 0
  match shape x with
  | .infinite => none
  | _ => some (if n < 0 then -x else x)

end Questline.Decimal
