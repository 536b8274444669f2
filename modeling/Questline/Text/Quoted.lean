import Questline.Text.PrintableTable

/-! Quoted text as messages show it: single quotes unless only a single quote occurs inside,
escapes for the quote, the backslash and everything that is not printable. -/

namespace Questline.Text

def isPrintable (c : Char) : Bool :=
  printableRanges.any fun (a, b) => a ≤ c.toNat && c.toNat ≤ b

/-- A number in small hexadecimal digits, at least as many as asked for. -/
def hex (width n : Nat) : String :=
  let digits := Nat.toDigits 16 n
  String.ofList (List.replicate (width - digits.length) '0' ++ digits)

/-- The quote that encloses a text. -/
def quoteMark (cs : List Char) : Char :=
  if cs.contains '\x27' && !cs.contains '"' then '"' else '\x27'

/-- One character inside the given quotes. -/
def quoteChar (mark c : Char) : String :=
  let n := c.toNat
  if c = mark || c = '\\' then String.ofList ['\\', c]
  else if c = '\n' then "\\n"
  else if c = '\r' then "\\r"
  else if c = '\t' then "\\t"
  else if n < 32 || n == 127 then "\\x" ++ hex 2 n
  else if n < 127 then String.singleton c
  else if isPrintable c then String.singleton c
  else if n < 0x100 then "\\x" ++ hex 2 n
  else if n < 0x10000 then "\\u" ++ hex 4 n
  else "\\U" ++ hex 8 n

def quote (s : String) : String :=
  let mark := quoteMark s.toList
  let body := s.toList.map (quoteChar mark)
  String.singleton mark ++ String.join body ++ String.singleton mark

/-- One byte inside the given quotes: ASCII as in a text, the others by number. -/
def quoteByte (mark : Char) (b : UInt8) : String :=
  if b < 127 then quoteChar mark (Char.ofNat b.toNat) else "\\x" ++ hex 2 b.toNat

def quoteBytes (bytes : List UInt8) : String :=
  let mark := quoteMark (bytes.map fun b => Char.ofNat b.toNat)
  "b" ++ String.singleton mark ++ String.join (bytes.map (quoteByte mark)) ++ String.singleton mark

end Questline.Text
