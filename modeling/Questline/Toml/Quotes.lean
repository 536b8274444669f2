import Questline.Toml.Outline

/-! Quotes: where they cut a line, and the texts that stand in them.  Between double quotes a
backslash begins an escape, between single quotes all characters stand for themselves. -/

namespace Questline.Toml

/-- The pieces of a text between the places where a mark stands. -/
def pieces (mark : List Char) (cs : List Char) : List (List Char) := cut 0 [] cs
where
  cut (skipped : Nat) (seen : List Char) : List Char → List (List Char)
    | [] => [seen.reverse]
    | c :: rest =>
      if skipped > 0 then cut (skipped - 1) seen rest
      else if mark.isPrefixOf (c :: rest) then seen.reverse :: cut (mark.length - 1) [] rest
      else cut 0 (c :: seen) rest

def isBetween (low high c : Char) : Bool := low ≤ c && c ≤ high

/-- A backslash at the end that is not itself escaped. -/
def endsInEscape (cs : List Char) : Bool :=
  Outline.isOdd (cs.reverse.takeWhile (· == '\\')).length

/-- A text without its first and last character. -/
def inside (cs : List Char) : List Char := (cs.drop 1).dropLast

/-- Single quotes before the first double quote: as long as one of them is open, it runs on over the
double quotes. -/
def absorb (single : List (List Char)) : List (List Char) → List (List Char)
  | [] => single
  | piece :: rest =>
    if single.length % 2 = 0 then
      let last := (single.getLast?.getD []) ++ '"' :: piece
      absorb (single.dropLast ++ last.splitOn '\x27') rest
    else single ++ piece.splitOn '\x27' ++ rest

/-- The pieces of a line between its quotes, the ones outside and the ones inside in turn. -/
def quotePieces (line : List Char) : List (List Char) :=
  match line.splitOn '"' with
  | first :: second :: rest =>
    if first.contains '\x27' then absorb (first.splitOn '\x27') (second :: rest)
    else first :: second :: rest
  | single => single.flatMap (·.splitOn '\x27')

/-- How many marks stand before the first piece outside of quotes that has one. -/
def marksBefore (mark : List Char) (quoted : Bool) : List (List Char) → Nat
  | [] => 0
  | piece :: rest =>
    let here := (pieces mark piece).length - 1
    if !quoted && here > 0 then 0 else here + marksBefore mark (!quoted) rest

/-- What a backslash and a character stand for. -/
def escaped? (c : Char) : Option Char :=
  [('0', '\x00'), ('b', '\x08'), ('f', '\x0c'), ('n', '\n'), ('r', '\r'), ('t', '\t'),
    ('"', '"')].lookup c

/-- Replaces escapes by what they stand for; numbered ones stay. -/
def unescape : List Char → Except Flaw (List Char)
  | '\\' :: c :: rest =>
    match escaped? c with
    | some e => (unescape rest).map (e :: ·)
    | none =>
      if c = '\\' then (unescape rest).map ('\\' :: ·)
      else if c = 'u' || c = 'U' then (unescape rest).map ('\\' :: c :: ·)
      else broken .reservedEscape
  | c :: rest => (unescape rest).map (c :: ·)
  | [] => .ok []

/-- Turns away unknown escapes, given what stands between backslashes; two backslashes stand for
one. -/
def checkEscapes (taken : Bool) : List (List Char) → Except Flaw Unit
  | [] => .ok ()
  | [] :: rest => checkEscapes (!taken) rest
  | (c :: _) :: rest =>
    if (escaped? c).isSome || c = 'u' || c = 'U' || taken then checkEscapes false rest
    else broken .reservedEscape

/-- The value of a digit in bases up to sixteen. -/
def digitValue? (c : Char) : Option Nat :=
  if isBetween '0' '9' c then some (c.toNat - 48)
  else if isBetween 'a' 'f' c then some (c.toNat - 87)
  else if isBetween 'A' 'F' c then some (c.toNat - 55)
  else none

/-- The number that digits make in a base. -/
def ofBase? (base : Nat) (digits : List Char) : Option Nat :=
  digits.foldlM (fun n c => ((digitValue? c).filter (· < base)).map (base * n + ·)) 0

/-- The character of a code point that is given by its digits in base sixteen. -/
def numbered (digits : List Char) : Except Flaw Char :=
  let shown := Text.lower (String.ofList digits)
  match ofBase? 16 digits, shown.toList with
  | none, _ => broken (.badEscape shown)
  | some _, [] | some _, ['d'] => .error (.fault .outOfRange)
  | some n, a :: rest =>
    if a = 'd' && (rest.head?.any fun b => !isBetween '0' '7' b) then
      broken (.surrogateEscape shown)
    else if 0x80000000 ≤ n then .error (.fault .tooLarge)
    else if 0x110000 ≤ n then broken .noCodePoint
    else if n.isValidChar then .ok (Char.ofNat n)
    else .error (.fault .unreadable)

/-- Replaces numbered escapes, given what stands between them.  Where a backslash stands before one,
it stays. -/
def joinNumbered (width : Nat) (mark seen : List Char) (taken : Bool) :
    List (List Char) → Except Flaw (List Char)
  | [] => .ok seen
  | piece :: rest => do
    if taken then joinNumbered width mark (seen ++ mark ++ piece) (endsInEscape piece) rest
    else
      let c ← numbered (piece.take width)
      joinNumbered width mark (seen ++ c :: piece.drop width) false rest

def replaceNumbered (width : Nat) (mark v : List Char) : Except Flaw (List Char) :=
  match pieces mark v with
  | first :: rest => joinNumbered width mark first (endsInEscape first) rest
  | [] => .ok v

/-- Turns away what stands behind a text, given the pieces between its quotes. -/
def checkClosed (long : Bool) (quotes : Nat) (closed : Bool) : List (List Char) → Except Flaw Unit
  | [] => .ok ()
  | [] :: rest =>
    if long then checkClosed long (quotes + 1) closed rest else checkClosed long quotes true rest
  | piece :: rest =>
    if endsInEscape piece then checkClosed long quotes closed rest
    else if closed then broken .behindText
    else if !long || quotes > 1 then checkClosed long quotes true rest
    else checkClosed long 0 closed rest

/-- Cuts the quotes off at both ends: three if at least two stand there, else one. -/
def unquote (v : List Char) : List Char :=
  match v with
  | q :: b :: rest =>
    if b = q && (rest.head?.all (· == b)) then inside (inside (inside v)) else inside v
  | _ => inside v

/-- The text that quotes enclose. -/
def readText (quote : Char) (v : List Char) : Except Flaw Value := do
  match (v.drop 1).splitOn quote with
  | [] :: [] :: rest => checkClosed true 0 false rest
  | all => checkClosed false 0 false all
  if quote ≠ '"' then return .text (String.ofList (unquote v))
  checkEscapes false ((v.splitOn '\\').drop 1)
  let short ← replaceNumbered 4 ['\\', 'u'] v
  let plain ← unescape (← replaceNumbered 8 ['\\', 'U'] short)
  return .text (String.ofList (unquote plain))

end Questline.Toml
