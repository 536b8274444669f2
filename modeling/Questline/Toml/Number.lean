import Questline.Toml.Quotes

/-! Numbers: integers in base ten and, behind a mark, in bases two, eight and sixteen, and floats.
Underscores may stand in them. -/

namespace Questline.Toml

def hasPair (a b : Char) (cs : List Char) : Bool := (cs.zip (cs.drop 1)).contains (a, b)

/-- Whether a number has its underscores between digits and no zero in front. -/
def isWellFormed (given : List Char) : Bool :=
  let cs := Text.trimBy Text.isBlank given
  let isLed (cs : List Char) (marks : List Char) : Bool :=
    match cs with
    | '0' :: c :: _ => !marks.contains c
    | _ => false
  if cs.isEmpty || cs.head? == some '_' || cs.getLast? == some '_' then false
  else if hasPair '_' '.' cs || hasPair '.' '_' cs then false
  else if cs.length = 1 then true
  else if isLed cs ['.', 'o', 'b', 'x'] then false
  else match cs with
    | '+' :: rest | '-' :: rest => !isLed rest ['.'] && !hasPair '_' '_' rest
    | _ => !hasPair '_' '_' cs

/-- Whether a text begins with two digits that an underscore sets apart. -/
def isGrouped : List Char → Bool
  | a :: '_' :: b :: _ => isBetween '0' '9' a && isBetween '0' '9' b
  | _ => false

def withoutUnderscores (cs : List Char) : List Char := cs.filter (· != '_')

/-- A digit of any script as one of the usual ones. -/
def usualDigit (c : Char) : Char :=
  ((Text.decimalValue? c).map fun d => Char.ofNat (48 + d)).getD c

/-- A number in base ten may begin with a zero only if it is zero. -/
def readUnsigned (digits : List Char) : Option Nat :=
  match digits with
  | [] => none
  | '0' :: c :: rest =>
    let base := if c = 'x' || c = 'X' then 16 else if c = 'o' || c = 'O' then 8
      else if c = 'b' || c = 'B' then 2 else 10
    if base ≠ 10 then if rest.isEmpty then none else ofBase? base rest
    else (ofBase? 10 (c :: rest)).filter (· = 0)
  | _ => ofBase? 10 digits

/-- An integer. -/
def readWhole (v : List Char) : Except Flaw Int :=
  let (negative, digits) := Decimal.readSign ((Text.trimBy Text.isNumberBlank v).map usualDigit)
  let count := (digits.takeWhile (isBetween '0' '9')).length
  if Decimal.maxDigits < count then broken (.tooManyDigits count)
  else match readUnsigned digits with
    | some n => .ok (if negative then -n else n)
    | none => broken (.notInteger (String.ofList v))

def readFraction (v : List Char) : Except Flaw Float :=
  (Decimal.readFloat? (String.ofList v)).elim (broken (.notFloat (String.ofList v))) .ok

/-- Whether a number has a fraction or an exponent. -/
def isFraction (v : List Char) : Bool :=
  v.contains '.' || (!v.contains 'x' && (v.contains 'e' || v.contains 'E'))

/-- A number that may have been found to be malformed. -/
def readNumber (wellFormed : Bool) (given : List Char) : Except Flaw Value := do
  if !wellFormed then broken .oddNumber
  let (negative, rest) := Decimal.readSign given
  let v := withoutUnderscores rest
  if isFraction v then
    if v.contains '.' && ((v.dropWhile (· != '.')).drop 1).isEmpty then broken .noFraction
    if !(v.head?.any (isBetween '0' '9')) then broken .noLeadingDigit
    let x ← readFraction v
    return .float (if negative then 0 - x else x)
  else if ["inf", "nan"].contains (Text.lower (String.ofList v)) then
    let x ← readFraction v
    return .float (if negative then 0 - x else x)
  else
    let n ← readWhole v
    return .int (if negative then -n else n)

end Questline.Toml
