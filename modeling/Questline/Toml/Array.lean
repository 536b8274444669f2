import Questline.Toml.Quotes

/-! The items of an array.  It is cut at its commas, and what a comma inside an item has cut is put
together again: texts by their quotes, inline tables by their braces, arrays by their brackets. -/

namespace Questline.Toml

/-- Whether the first thing in an array is a text. -/
def isTextArray (a : List Char) : Bool :=
  (Text.trimBy Text.isBlank (inside a)).head?.any Outline.isQuote

/-- Whether a text ends with the character that it begins with, not escaped. -/
def isBounded (s : List Char) : Bool :=
  s.isEmpty || (s.head? == s.getLast? && !endsInEscape (inside s))

/-- Whether a piece goes on behind the comma that ends it. -/
def isCut (piece : List Char) : Bool :=
  let s := Text.trimBy Text.isBlank piece
  !isBounded s ||
    match s, s.reverse with
    | a :: b :: c :: _, _ :: y :: x :: _ => a == b && b == c && y != a && x != a
    | _, _ => false

/-- Puts together the texts that a comma has cut.  The last piece stands as it is unless another one
has been joined to it. -/
def joinTexts (joined : Bool) (piece : List Char) :
    List (List Char) → Except Flaw (List (List Char))
  | [] => if joined && isCut piece then .error (.fault .outOfRange) else .ok [piece]
  | next :: rest =>
    if isCut piece then joinTexts true (piece ++ ',' :: next) rest
    else (joinTexts false next rest).map (piece :: ·)

/-- Cuts at the commas that stand outside of inner arrays. -/
def cutArrays (depth : Int) (seen : List Char) : List Char → List (List Char)
  | [] => [seen.reverse]
  | c :: rest =>
    if c = ',' && depth = 0 then seen.reverse :: cutArrays 0 [] rest
    else
      let depth := if c = '[' then depth + 1 else if c = ']' then depth - 1 else depth
      cutArrays depth (c :: seen) rest

/-- Where the reader stands in an array of inline tables: the table so far, last character first,
how many braces are open, and whether a text is open. -/
structure TableScan where
  seen : List Char
  depth : Nat
  inText : Bool := false

/-- A quote opens a text, or closes it unless it is escaped. -/
def TableScan.meet (s : TableScan) (c : Char) : TableScan :=
  let isEscaped := Outline.isOdd (s.seen.takeWhile (· == '\\')).length
  let inText := if Outline.isQuote c then !s.inText || isEscaped else s.inText
  { seen := c :: s.seen, inText
    depth := if !inText && c = '\x7b' then s.depth + 1 else s.depth }

/-- The inline tables in an array; one that is not closed is left out. -/
def cutTables (s : TableScan) : List Char → List (List Char)
  | [] => []
  | c :: rest =>
    let s := s.meet c
    if s.inText || c ≠ '\x7d' then cutTables s rest
    else if s.depth > 1 then cutTables { s with depth := s.depth - 1 } rest
    else
      have : ((rest.drop 1).dropWhile (· != '\x7b')).length ≤ rest.length := by
        have := ((rest.drop 1).dropWhile_sublist (· != '\x7b')).length_le
        grind
      match h : (rest.drop 1).dropWhile (· != '\x7b') with
      | [] => [s.seen.reverse]
      | brace :: rest => s.seen.reverse :: cutTables ⟨[brace], s.depth, false⟩ rest
termination_by cs => cs.length
decreasing_by all_goals grind

/-- The items of an array as they are written. -/
def itemsOf (a : List Char) : Except Flaw (List (List Char)) :=
  let a := Text.trimBy Text.isBlank a
  let first := ((inside a).dropWhile Text.isBlank).head?
  if first = some '[' then .ok (cutArrays 0 [] (inside a))
  else if first = some '\x7b' then
    match a with
    | _ :: c :: rest => .ok (cutTables ⟨[c], if c = '\x7b' then 1 else 0, false⟩ rest.dropLast)
    | _ => .ok []
  else match (inside a).splitOn ',' with
    | piece :: rest => if isTextArray a then joinTexts false piece rest else .ok (piece :: rest)
    | [] => .ok []

/-- Reads the items of an array, which are all of one kind.  An item may be left out. -/
def readArray (read : List Char → Except Flaw Value) (a : List Char) : Except Flaw Value := do
  let written := ((← itemsOf a).map (Text.trimBy Text.isBlank)).filter (!·.isEmpty)
  let items ← written.foldlM (fun items item => do
    let v ← read item
    match items.head? with
    | some first => if first.sameKind v then pure (items ++ [v]) else broken .mixedArray
    | none => pure [v]) []
  return .list items

end Questline.Toml
