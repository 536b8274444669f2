import Questline.Toml.Quotes

/-! Headers: a path of names in brackets, single ones for a table, double ones for the next table of
an array. -/

namespace Questline.Toml

structure Header where
  path : List String
  inArray : Bool

def isNameCharacter (c : Char) : Bool :=
  isBetween 'A' 'Z' c || isBetween 'a' 'z' c || isBetween '0' '9' c || c == '_' || c == '-'

/-- The name between two quotes, blanks around them left out. -/
def quotedName? (written : List Char) : Option String :=
  let name := Text.trimBy Text.isBlank written
  if name.length > 1 && name.head? == name.getLast? then some (String.ofList (inside name))
  else none

/-- Puts together a name in quotes that a dot has cut. -/
def joinQuoted (seen : List Char) : List (List Char) → Except Flaw (String × List (List Char))
  | [] =>
    (quotedName? seen).elim
      (broken (.unclosedGroup (String.ofList (Text.trimBy Text.isBlank seen)))) fun s => .ok (s, [])
  | piece :: rest =>
    match quotedName? seen with
    | some name => .ok (name, piece :: rest)
    | none => joinQuoted (seen ++ '.' :: piece) rest

theorem length_joinQuoted {seen : List Char} {rest after : List (List Char)} {name : String}
    (h : joinQuoted seen rest = .ok (name, after)) : after.length ≤ rest.length := by
  induction rest generalizing seen with
  | nil => cases hs : quotedName? seen <;> simp_all [joinQuoted, broken]
  | cons piece rest ih =>
    cases hs : quotedName? seen with
    | none => have := ih (by simpa [joinQuoted, hs] using h); simp; omega
    | some => simp_all [joinQuoted]

/-- The names of a path, given its pieces between dots. -/
def readNames : List (List Char) → Except Flaw (List String)
  | [] => .ok []
  | piece :: rest =>
    let name := Text.trimBy Text.isBlank piece
    if name.head?.any Outline.isQuote then
      match h : joinQuoted name rest with
      | .error why => .error why
      | .ok (name, after) =>
        have := length_joinQuoted h
        (readNames after).map (name :: ·)
    else if name.isEmpty || !name.all isNameCharacter then
      broken (.badGroup (String.ofList name))
    else (readNames rest).map (String.ofList name :: ·)
termination_by ps => ps.length

/-- Reads a line that begins with a bracket.  Nothing may stand behind the brackets that close
it. -/
def readHeader (line : List Char) : Except Flaw Header := do
  let inArray := (line.drop 1).head? == some '['
  let mark := if inArray then [']', ']'] else [']']
  let body := line.drop mark.length
  let all := pieces mark body
  let count := marksBefore mark false (quotePieces body) + 1
  if line.length = 1 then broken .loneBracket
  else if all.length ≤ count || !(all.drop count |> mark.intercalate).all Text.isBlank then
    broken .headerNotAlone
  else
    let path ← readNames ((mark.intercalate (all.take count)).splitOn '.')
    pure { path, inArray }

/-- One step down to a table: the field of a table, or the last item of an array. -/
inductive Step
  | field (name : String) : Step
  | last : Step

/-- Where headers have led: the steps to the table that they open, and the names of the tables that
they have made on the way. -/
structure Way where
  steps : List Step
  made : List String

/-- Opens what a header names, and makes it where it is missing.  A name that stands at the end of a
header for the second time is turned away, unless it was only made on the way to another one. -/
def Header.openIn (inArray : Bool) (made : List String) :
    List String → Value → Except Flaw (Value × Way)
  | [], level => .ok (level, ⟨[], made⟩)
  | "" :: _, _ => broken .emptyGroup
  | name :: rest, .table fields => do
    let fresh := if rest.isEmpty && inArray then Value.list [.table []] else .table []
    let (inner, made) ← match Table.field? fields name with
      | none => pure (fresh, if rest.isEmpty then made else name :: made)
      | some inner =>
        if !rest.isEmpty then pure (inner, made)
        else if made.contains name then
          if inArray then broken .madeByOthers else pure (inner, made.erase name)
        else if !inArray then broken (.groupExists name (.table fields))
        else match inner with
          | .list items => pure (.list (items ++ [.table []]), made)
          | _ => .error (.fault .mistyped)
    let (inner, way) ← below rest inner made
    pure (.table (Assoc.put fields (.text name) inner),
      { way with steps := .field name :: way.steps })
  | name :: rest, .list items =>
    match items.getLast? with
    | none => .error (.fault .outOfRange)
    | some (.table fields) => do
      let fresh := if rest.isEmpty && inArray then Value.list [.table []] else .table []
      let (inner, way) ← below rest ((Table.field? fields name).getD fresh) made
      let table := Value.table (Assoc.put fields (.text name) inner)
      pure (.list (items.dropLast ++ [table]),
        { way with steps := .last :: .field name :: way.steps })
    | some _ => .error (.fault .mistyped)
  | _ :: _, .text "" => .error (.fault .outOfRange)
  | _ :: _, .atom _ => .error (.fault .mistyped)
where
  /-- Goes on in what a name stands for; a header of an array enters the last item. -/
  below (rest : List String) (inner : Value) (made : List String) : Except Flaw (Value × Way) :=
    if !inArray then Header.openIn inArray made rest inner
    else match inner with
      | .list items =>
        match items.getLast? with
        | none => .error (.fault .outOfRange)
        | some v => do
          let (v, way) ← Header.openIn inArray made rest v
          pure (.list (items.dropLast ++ [v]), { way with steps := .last :: way.steps })
      | .table fields => Header.openIn inArray made rest (.table fields)
      | .text "" => .error (.fault .outOfRange)
      | .atom _ => .error (.fault .mistyped)

/-- Changes what some steps lead to. -/
def changeAt {α : Type} (f : Value → Except Flaw (Value × α)) :
    List Step → Value → Except Flaw (Value × α)
  | [], v => f v
  | .field name :: steps, .table fields => do
    let (inner, a) ← changeAt f steps (Table.field fields name)
    pure (.table (Assoc.put fields (.text name) inner), a)
  | .last :: steps, .list items => do
    let (inner, a) ← changeAt f steps (items.getLast?.getD .null)
    pure (.list (items.dropLast ++ [inner]), a)
  | _ :: _, _ => .error (.fault .mistyped)

end Questline.Toml
