import Questline.Text.Blank
import Questline.Text.Letter
import Questline.Toml.Fault

/-! The outline of a text: what is comment, name, text and array in it.  Going over the characters
once, the reader blanks the comments, joins the lines of an array into one, and turns away names and
quotes that are not right.  The places of all other characters stay as they are. -/

namespace Questline.Toml

/-- Where the reader stands with the name of a field. -/
inductive NamePart
  | outside : NamePart
  | within : NamePart
  | behind : NamePart
  deriving DecidableEq

structure Outline where
  /-- The characters that have been passed, last first.  In front of the first of them the text is
  seen once more from its end. -/
  passed : List Char
  name : NamePart := .outside
  /-- Whether the name has a dot. -/
  dotted : Bool := false
  /-- The quote that is open. -/
  quote : Option Char := none
  /-- Whether a text over several lines is open. -/
  long : Bool := false
  inHeader : Bool := false
  inArrayHeader : Bool := false
  /-- How many arrays are open. -/
  depth : Int := 0
  /-- Whether the line has been blank so far. -/
  atStart : Bool := true

namespace Outline

def isQuote (c : Char) : Bool := c == '"' || c == '\x27'

def isOdd (n : Nat) : Bool := n % 2 == 1

def pass (c : Char) (o : Outline) : Outline := { o with passed := c :: o.passed }

/-- Whether brackets and comments count. -/
def isPlain (o : Outline) : Bool := o.quote.isNone && !o.inHeader && !o.inArrayHeader

/-- Whether a quote stands behind a backslash that is not itself taken by another one.  Behind one
quote it does not, and behind two the backslashes before them decide. -/
def isEscaped (o : Outline) (quotes : Nat) : Bool :=
  quotes != 1 && isOdd ((o.passed.drop quotes).takeWhile (· == '\\')).length

/-- A quote opens or closes a text; the third in a row does so with a text over several lines. -/
def meetQuote (c : Char) (o : Outline) : Outline :=
  let quotes := ((o.passed.take 2).takeWhile (· == c)).length
  if c = '"' && o.isEscaped quotes then o
  else
    let isOpen := if quotes = 2 then !o.long else o.quote.isNone
    { o with long := if quotes = 2 then isOpen else o.long
             quote := if isOpen then some c else none }

def meetOpening (next : Option Char) (o : Outline) : Outline :=
  if !o.isPlain then o
  else if !o.atStart then { o with depth := o.depth + 1 }
  else if next = some '[' then { o with inArrayHeader := true }
  else { o with inHeader := true }

def meetClosing (o : Outline) : Outline :=
  if o.quote.isSome then o
  else if o.inHeader then { o with inHeader := false }
  else if o.inArrayHeader then
    { o with inArrayHeader := o.passed.head? != some ']' }
  else { o with depth := o.depth - 1 }

/-- The third character from the front blanked, if it is the given one. -/
def blankThird (c : Char) : List Char → List Char
  | a :: b :: third :: rest => a :: b :: (if third = c then ' ' else third) :: rest
  | cs => cs

/-- A line ends.  In an array it goes on; in a text over several lines two quotes at its end become
three, so that the next line stays apart. -/
def meetLineEnd (o : Outline) : Except Flaw Outline :=
  if o.quote.isSome || o.long then
    if !o.long then broken .unbalancedQuotes
    else match o.passed with
      | a :: b :: _ =>
        if isQuote a && a = b then .ok { o with passed := a :: blankThird a o.passed }
        else .ok (o.pass '\n')
      | _ => .ok (o.pass '\n')
  else if o.depth ≠ 0 then .ok (o.pass ' ')
  else .ok { o.pass '\n' with atStart := true }

/-- The first character of a line that is not blank begins a name unless it begins a header. -/
def meetFirst (c : Char) (o : Outline) : Except Flaw Outline :=
  if o.inHeader || o.inArrayHeader then .ok { o.pass c with atStart := false }
  else if c = '=' then broken .noName
  else .ok { o.pass c with atStart := false, name := .within }

/-- A character outside of names. -/
def meet (c : Char) (next : Option Char) (o : Outline) : Except Flaw Outline :=
  let o := if isQuote c && (o.quote.isNone || o.quote == some c) then o.meetQuote c else o
  let o := if c = '[' then o.meetOpening next else if c = ']' then o.meetClosing else o
  if c = '\n' then o.meetLineEnd
  else if o.atStart && c != ' ' && c != '\t' then o.meetFirst c
  else .ok (o.pass c)

/-- Behind a blank or a dot the name goes on with the next character if that is none of them. -/
def meetGap (next : Option Char) (o : Outline) : Except Flaw Outline :=
  match next with
  | none => .error (.fault .outOfRange)
  | some c => .ok (if Text.isBlank c || c = '.' then o else { o with name := .within })

/-- A name ends in an equals sign, and nothing else can end it. -/
def endName (c : Char) (o : Outline) : Except Flaw Outline :=
  if c = '=' then .ok { o.pass c with name := .outside, dotted := false }
  else broken (.nameCharacter c)

/-- A character of a name.  Behind a dot a part of it may stand in quotes. -/
def meetInName (c : Char) (next : Option Char) (o : Outline) : Except Flaw Outline :=
  if c = '\n' then broken .lineWithoutValue
  else if o.quote.isSome then
    .ok (if o.quote = some c then { o.pass c with name := .behind, quote := none } else o.pass c)
  else match o.name with
    | .within =>
      if Text.isBlank c then .ok { o.pass c with name := .behind }
      else if c = '.' then .ok { o.pass c with dotted := true }
      else if Text.isLetter c || c = '_' || c = '-' then .ok (o.pass c)
      else if o.dotted && o.passed.head? == some '.' && isQuote c then
        .ok { o.pass c with quote := some c }
      else o.endName c
    | _ =>
      if c = '.' then { o.pass c with dotted := true }.meetGap next
      else if Text.isBlank c then if o.dotted then (o.pass c).meetGap next else .ok (o.pass c)
      else o.endName c

/-- A line end of two characters is one of one character behind a blank. -/
def step (c : Char) (next : Option Char) (o : Outline) : Except Flaw Outline :=
  match c, next with
  | '\r', none => .error (.fault .outOfRange)
  | '\r', some '\n' => .ok (o.pass ' ')
  | _, _ => if o.name = .outside then o.meet c next else o.meetInName c next

/-- At the end no name and no text is open. -/
def finish (o : Outline) : Except Flaw Outline :=
  if o.name ≠ .outside then broken .textWithoutValue
  else if o.quote.isSome then broken .unterminated
  else .ok o

/-- Goes over the rest of a text.  In a comment every character becomes a blank. -/
def passAll (o : Outline) (inComment : Bool) (place : Nat) : List Char → Except Rejection Outline
  | [] => o.finish.mapError (·.at place)
  | c :: rest =>
    if (inComment && c != '\n') || (c = '#' && o.name = .outside && o.isPlain) then
      passAll (o.pass ' ') true (place + 1) rest
    else match o.step c rest.head? with
      | .error why => .error (why.at place)
      | .ok o => passAll o false (place + 1) rest

end Outline

/-- The lines of a text, with comments blanked and arrays joined. -/
def outline (text : List Char) : Except Rejection (List (List Char)) := do
  let o ← Outline.passAll { passed := text.reverse } false 0 text
  return (o.passed.take text.length).reverse.splitOn '\n'

end Questline.Toml
