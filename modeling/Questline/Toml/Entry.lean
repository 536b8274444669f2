import Questline.Toml.Array
import Questline.Toml.Number

/-! Entries: a key, an equals sign and a value.  The key may be dotted, and its parts quoted; the
value is a truth value, a number, a text, an array or an inline table, which holds entries. -/

namespace Questline.Toml

/-- A text that goes on over several lines. -/
structure Pending where
  name : String
  /-- What has been read of it, the quotes included. -/
  text : List Char
  /-- Whether a backslash has taken away the line end. -/
  spliced : Bool

/-- What has been read of a text over several lines; a backslash at the end joins the line behind
it. -/
def Pending.of (name : String) (text : List Char) : Pending :=
  if endsInEscape text then ⟨name, text.dropLast, true⟩ else ⟨name, text ++ ['\n'], false⟩

/-- Reads a value as it is written, being told whether it is well formed as a number. -/
abbrev ValueReader := Bool → List Char → Except Flaw Value

def trim (cs : List Char) : List Char := Text.trimBy Text.isBlank cs

/-- An entry that has been cut in two. -/
structure Cut where
  key : List Char
  value : List Char
  /-- Whether all that could be the value is well formed as a number. -/
  wellFormed : Bool

/-- Whether a value may be one: numbers are known by all their characters, the other values by the
first one, and behind a blank anything may stand. -/
def mayBegin (value : List Char) : Bool :=
  match value with
  | [] => true
  | c :: _ =>
    [' ', '\t', '\x27', '"', '[', '\x7b'].contains c ||
    ["true", "false"].contains (String.ofList (trim value)) ||
    (Decimal.readFloat? (String.ofList value)).isSome

/-- Moves on to the next equals sign until a value may begin behind it. -/
def cutBehind (key : List (List Char)) (value : List Char) (wellFormed : Bool) :
    List (List Char) → Except Flaw Cut
  | [] => broken .notDateOrNumber
  | piece :: rest =>
    if mayBegin value then .ok ⟨['='].intercalate key, value, wellFormed⟩
    else
      let value := ['='].intercalate rest
      cutBehind (key ++ [piece]) value (wellFormed && isWellFormed value) rest

/-- Cuts an entry at an equals sign that stands outside of quotes. -/
def cutEntry (line : List Char) : Except Flaw Cut :=
  let all := line.splitOn '='
  let count := min (marksBefore ['='] false (quotePieces line) + 1) (all.length - 1)
  let value := ['='].intercalate (all.drop count)
  cutBehind (all.take count) (if isGrouped value then withoutUnderscores value else value)
    (isWellFormed value) (all.drop count)

/-- The names of a dotted key, given its pieces between quotes. -/
def dottedNames (quoted : Bool) : List (List Char) → List (List Char)
  | [] => []
  | piece :: rest =>
    (if quoted then [piece] else (piece.splitOn '.').map trim) ++ dottedNames (!quoted) rest

/-- The tables that a key leads through, and the name at its end. -/
def keyPath (key : List Char) : Except Flaw (List String × String) :=
  if key.contains '.' then
    let names := if key.any Outline.isQuote then dottedNames false (quotePieces key)
      else key.splitOn '.'
    match names.reverse.dropWhile (·.isEmpty) with
    | [] => .error (.fault .outOfRange)
    | last :: before =>
      .ok (((before.filter (!·.isEmpty)).reverse).map String.ofList, String.ofList (trim last))
  else match key with
    | [] => .error (.fault .outOfRange)
    | c :: _ =>
      if Outline.isQuote c && key.getLast? == some c then
        (unescape (inside key)).map fun name => ([], String.ofList name)
      else .ok ([], String.ofList key)

/-- Changes the table at the end of a path; tables are made where they are missing. -/
def changeBelow {α : Type} (f : Value → Except Flaw (Value × α)) :
    List String → Value → Except Flaw (Value × α)
  | [], v => f v
  | name :: path, .table fields => do
    let (inner, a) ← changeBelow f path ((Table.field? fields name).getD (.table []))
    pure (.table (Assoc.put fields (.text name) inner), a)
  | _ :: _, _ => .error (.fault .mistyped)

/-- The fields of a table in which a name is still free. -/
def freeFields (name : String) : Value → Except Flaw Table
  | .table fields => if Assoc.has fields (.text name) then broken .duplicateKey else .ok fields
  | _ => broken .duplicateKey

/-- Whether three quotes open a text that three more do not close. -/
def isOpenText : List Char → Except Flaw Bool
  | [] => .error (.fault .outOfRange)
  | q :: rest =>
    if !Outline.isQuote q then .ok false
    else match rest with
      | b :: c :: more =>
        .ok (b == q && c == q && !(more.length > 2 && (more.reverse.take 3).all (· == q)))
      | [b] => if b = q then .error (.fault .outOfRange) else .ok false
      | [] => .error (.fault .outOfRange)

/-- The last text in an array, given its pieces from the last one on. -/
def lastText : List (List Char) → Except Flaw (List Char)
  | [] => .ok []
  | [piece] => .ok piece
  | [] :: _ => .error (.fault .outOfRange)
  | (c :: cs) :: before :: rest =>
    if Outline.isQuote c then .ok (c :: cs) else lastText ((before ++ ',' :: c :: cs) :: rest)
termination_by ps => ps.length

/-- Whether a value ends in a text that goes on in the next line. -/
def endsOpen (value : List Char) : Except Flaw Bool :=
  if value.length < 3 then .ok false
  else if value.head? == some '[' && value.getLast? != some ']' && isTextArray value then
    (lastText ((trim (value.drop 1)).splitOn ',').reverse).bind isOpenText
  else isOpenText value

/-- Reads an entry into the table that it belongs to.  A text that goes on in the next line is
handed back instead. -/
def readEntry (read : ValueReader) (line : List Char) (level : Value) :
    Except Flaw (Value × Option Pending) := do
  let cut ← cutEntry line
  let (path, name) ← keyPath (trim cut.key)
  let value := trim cut.value
  changeBelow (fun table => do
    if ← endsOpen value then
      let _ ← freeFields name table
      if name = "" then throw (.fault .unexpected)
      return (table, some (.of name value))
    else
      let v ← read cut.wellFormed value
      return (.table (Assoc.put (← freeFields name table) (.text name) v), none)) path level

/-- Whether a value in an inline table is complete. -/
def isComplete (value : List Char) : Bool :=
  match value with
  | [] => false
  | c :: _ =>
    let last := value.getLast?
    (Outline.isQuote c && last == some c) || c == '-' || isBetween '0' '9' c ||
    ["true", "false"].contains (String.ofList value) ||
    (c == '[' && last == some ']') || (c == '\x7b' && last == some '\x7d')

/-- Puts together the entries of an inline table that a comma has cut. -/
def joinEntries : List (List Char) → Except Flaw (List (List Char))
  | [] => .ok []
  | piece :: rest =>
    match piece.dropWhile (· != '=') with
    | [] => broken .badInlineTable
    | _ :: value =>
      let value := trim value
      if value.isEmpty then .error (.fault .outOfRange)
      else if isComplete value then (joinEntries rest).map (piece :: ·)
      else match rest with
        | [] => broken .badInlineValue
        | next :: rest => joinEntries ((piece ++ ',' :: next) :: rest)
termination_by ps => ps.length

/-- Reads entries one after the other, up to one that goes on in the next line. -/
def readEntries (read : ValueReader) (level : Value) : List (List Char) → Except Flaw Value
  | [] => .ok level
  | entry :: rest => do
    match ← readEntry read entry level with
    | (level, none) => readEntries read level rest
    | (level, some _) => pure level

/-- Reads the entries between two braces into a table. -/
def readInline (read : ValueReader) (line : List Char) (level : Value) : Except Flaw Value := do
  let written := inside line
  let entries ← if (trim written).isEmpty then pure [] else joinEntries (written.splitOn ',')
  readEntries read level entries

/-- Reads a value, given a reader for what stands in it. -/
def readAround (read : ValueReader) : ValueReader := fun wellFormed v => do
  match v with
  | [] => broken .emptyValue
  | c :: _ =>
    let word := String.ofList v
    if word = "true" then pure true
    else if word = "false" then pure false
    else if ["true", "false"].contains (Text.lower word) then broken .capitalTruth
    else if Outline.isQuote c then readText c v
    else if c = '[' then readArray (read true) v
    else if c = '\x7b' then readInline read v (.table [])
    else readNumber wellFormed v

/-- Reads a value that has less than so many others around each other in it. -/
def readWithin : Nat → ValueReader
  | 0, _, _ => .error (.fault .tooDeep)
  | depth + 1, wellFormed, v => readAround (readWithin depth) wellFormed v

/-- Reads a value.  What stands in a value is shorter than the value. -/
def readValue : ValueReader := fun wellFormed v => readWithin (v.length + 1) wellFormed v

end Questline.Toml
