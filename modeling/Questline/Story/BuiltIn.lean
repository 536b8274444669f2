import Questline.Files
import Questline.Settings.BuiltIn
import Questline.Story.Dialogues
import Questline.Story.Quests
import Questline.Toml

/-! The files that come with the engine, and reading content from them and from further texts. -/

namespace Questline.Story

/-- The built-in files by name. -/
def tables : List (String × Table) := [
  ("quests.toml", quests),
  ("dialogs.toml", dialogues),
  ("config.toml", Settings.builtInTree)]

/-- The folder of the built-in files, which paths to them start from. -/
def library : Files :=
  let here := ["story", "data"]
  { here, files := tables.map fun (name, _) => (here ++ [name], []) }

/-- Whether a name is set between double underscores, up to its ending.  Such a file marks the
folder and holds nothing. -/
def isMarker (name : String) : Bool :=
  let cs := name.toList
  let stem := cs.takeWhile (· != '.')
  stem.length > 4 && stem.length < cs.length &&
    stem.take 2 == ['_', '_'] && stem.reverse.take 2 == ['_', '_']

/-- The table in a built-in file. -/
def tableAt (place : Place) : Except FileFault Table :=
  let name := place.getLast?.getD ""
  if library.isFolderAt place then .error .isFolder
  else if place.dropLast ≠ library.here then .error .missing
  else match tables.lookup name with
    | some t => .ok t
    | none => if isMarker name then .ok [] else .error .missing

/-- A path without the parts that lead nowhere. -/
def directPath (path : String) : String :=
  let parts := (path.splitOn "/").filter fun part => part ≠ "" ∧ part ≠ "."
  let direct := "/".intercalate parts
  if path.startsWith "/" then "/" ++ direct else if parts.isEmpty then "." else direct

def builtInFile (name : Value) : Except Fault (String × Table) :=
  match name with
  | .text s =>
    match (library.place (directPath s)).bind tableAt with
    | .ok t => .ok (s, t)
    | .error why => .error (.file why s)
  | _ => .error .mistyped

/-- Why content cannot be had: it is turned down, or a text is no TOML. -/
inductive Rejection
  | content (why : ContentFault) : Rejection
  | toml (why : Toml.Reason) : Rejection

/-- A further file of content: its name, and its text if it can be read. -/
abbrev Extra := String × Except Fault String

def readExtra (extra : Extra) : Except Rejection (String × Table) :=
  match extra.2 with
  | .error why => .error (.content (.fault why))
  | .ok text =>
    match Toml.read text with
    | .ok t => .ok (extra.1, t)
    | .error (.malformed why _) => .error (.toml why)
    | .error (.fault why) => .error (.content (.fault why))

/-- The graphs of some built-in files and of further texts. -/
def load (cfg : Settings) (names : List Value) (extras : List Extra) :
    Except Rejection (List Graph) := do
  let own ← (names.mapM builtInFile).mapError fun why => .content (.fault why)
  let further ← extras.mapM readExtra
  let content ← (Content.join (own ++ further)).mapError .content
  (Content.load cfg content []).mapError .content

end Questline.Story
