import Questline.Toml.Entry
import Questline.Toml.Header

/-! Reading TOML: headers open tables, entries fill the table that was opened last.  Lines that are
neither are passed over. -/

namespace Questline.Toml

structure Reader where
  root : Value := .table []
  way : Way := ⟨[], []⟩
  pending : Option Pending := none

namespace Reader

/-- Changes the table that was opened last. -/
def inTable (r : Reader) (f : Value → Except Flaw (Value × Option Pending)) :
    Except Flaw Reader := do
  let (root, pending) ← changeAt f r.way.steps r.root
  pure { r with root, pending }

/-- Whether a text over several lines ends with a line. -/
def isClosedBy (text line : List Char) : Except Flaw Bool :=
  if text.head? == some '[' then
    line.getLast?.elim (.error (.fault .outOfRange)) fun c => .ok (c == ']')
  else .ok (line.length > 2 && (line.reverse.take 3).all fun c => some c == text.head?)

/-- Goes on with a text over several lines. -/
def continueText (r : Reader) (p : Pending) (line : List Char) : Except Flaw Reader := do
  let text := p.text ++ line
  if ← isClosedBy text line then
    let v ← readValue true text
    r.inTable fun
      | .table fields => .ok (.table (Assoc.put fields (.text p.name) v), none)
      | _ => .error (.fault .mistyped)
  else pure { r with pending := some (.of p.name text) }

/-- Reads a line of its own. -/
def readStatement (r : Reader) (line : List Char) : Except Flaw Reader := do
  match line with
  | '[' :: _ =>
    let header ← readHeader line
    let (root, way) ← Header.openIn header.inArray r.way.made header.path r.root
    pure { r with root, way }
  | '\x7b' :: _ =>
    if line.getLast? != some '\x7d' then broken .inlineLineBreak
    else r.inTable fun level => return (← readInline readValue line level, none)
  | _ => if line.contains '=' then r.inTable (readEntry readValue line) else pure r

/-- Reads a line.  Blanks around it count only in a text over several lines, and there only from its
second line on. -/
def readLine (r : Reader) (line : List Char) : Except Flaw Reader :=
  match r.pending with
  | none => if (trim line).isEmpty then .ok r else r.readStatement (trim line)
  | some p =>
    let line := if p.spliced || !p.text.contains '\n' then trim line else line
    if line.isEmpty && p.spliced then .ok r else r.continueText p line

/-- Reads lines, the first of which begins at a place. -/
def readLines (r : Reader) (place : Nat) : List (List Char) → Except Rejection Reader
  | [] => .ok r
  | line :: rest => do
    let r ← (r.readLine line).mapError (·.at place)
    readLines r (place + line.length + 1) rest

end Reader

/-- The table that a text holds. -/
def read (text : String) : Except Rejection Table := do
  let r ← Reader.readLines {} 0 (← outline text.toList)
  match r.root with
  | .table fields => pure fields
  | _ => pure []

end Questline.Toml
