/-! The DOT language: statements of a directed graph and their text.  The end of an edge is a
node, optionally with a place on it and a compass point behind colons; a node statement takes
its name whole. -/

namespace Questline.Dot

inductive Statement
  | node (id label shape : String) : Statement
  | edge (tail head label : String) : Statement
  deriving DecidableEq

structure Digraph where
  name : String
  label : String
  statements : List Statement

def isLetter (c : Char) : Bool := ('a' ≤ c && c ≤ 'z') || ('A' ≤ c && c ≤ 'Z') || c == '_'

def isNumeric (c : Char) : Bool := '0' ≤ c && c ≤ '9'

/-- A text without one newline at its end. -/
def chomp (cs : List Char) : List Char :=
  if cs.getLast? = some '\n' then cs.dropLast else cs

/-- A letter or underscore, then letters, digits and underscores. -/
def isIdentifier : List Char → Bool
  | [] => false
  | c :: rest => isLetter c && rest.all fun c => isLetter c || isNumeric c

/-- Digits with an optional point among, before or behind them. -/
def isUnsigned (cs : List Char) : Bool :=
  let whole := cs.takeWhile isNumeric
  match cs.dropWhile isNumeric with
  | [] => !whole.isEmpty
  | '.' :: fraction => fraction.all isNumeric && !(whole.isEmpty && fraction.isEmpty)
  | _ => false

def isNumber : List Char → Bool
  | '-' :: rest => isUnsigned rest
  | cs => isUnsigned cs

/-- Markup stands between angle brackets. -/
def isMarkup (cs : List Char) : Bool :=
  match chomp cs with
  | '<' :: rest => rest.getLast? = some '>'
  | _ => false

def keywords : List String := ["node", "edge", "graph", "digraph", "subgraph", "strict"]

/-- Escapes each quote that is not escaped yet; the first argument tells whether the character
before is a backslash that escapes the next one. -/
def escapeQuotes : Bool → List Char → List Char
  | _, [] => []
  | false, '"' :: rest => '\\' :: '"' :: escapeQuotes false rest
  | true, '"' :: rest => '"' :: escapeQuotes false rest
  | unfinished, c :: rest => c :: escapeQuotes (c = '\\' && !unfinished) rest

/-- A text as a DOT name: bare where the language allows it, else in quotes. -/
def quote (s : String) : String :=
  let cs := s.toList
  let bare := (isIdentifier (chomp cs) || isNumber (chomp cs)) && !keywords.contains s.toLower
  if isMarkup cs || bare then s
  else String.ofList ('"' :: escapeQuotes false cs ++ ['"'])

/-- The text before the first colon and the text after it. -/
def cut (cs : List Char) : List Char × List Char :=
  (cs.takeWhile (· != ':'), (cs.dropWhile (· != ':')).drop 1)

/-- What the end of an edge names: a node, a place on it and a compass point. -/
structure Anchor where
  node : String
  place : Option String
  compass : Option String
  deriving DecidableEq

/-- How the language reads the end of an edge. -/
def Anchor.ofText (s : String) : Anchor :=
  let (node, rest) := cut s.toList
  if rest.isEmpty then ⟨String.ofList node, none, none⟩
  else
    let (place, compass) := cut rest
    ⟨String.ofList node, some (String.ofList place),
      if compass.isEmpty then none else some (String.ofList compass)⟩

def Anchor.render (a : Anchor) : String :=
  ":".intercalate ([quote a.node] ++ (a.place.map quote).toList ++ a.compass.toList)

def Statement.render : Statement → String
  | .node id label shape => s!"\t{quote id} [label={quote label} shape={quote shape}]\n"
  | .edge tail head label =>
    let ends := (Anchor.ofText tail).render ++ " -> " ++ (Anchor.ofText head).render
    s!"\t{ends} [label={quote label}]\n"

def Digraph.render (d : Digraph) : String :=
  let name := if d.name = "" then "" else quote d.name ++ " "
  "digraph " ++ name ++ "\x7b\n" ++ s!"\tgraph [label={quote d.label} rankdir=TB]\n" ++
    String.join (d.statements.map Statement.render) ++ "\x7d\n"

end Questline.Dot
