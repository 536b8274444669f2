import Questline.Value

/-! The settings of a story: the bounds and names of the two scales, how factions are coupled,
which content is read, and how save files are marked. -/

namespace Questline

/-- The range that a score is kept in. -/
structure Bounds where
  min : Int
  max : Int
  deriving DecidableEq

def Bounds.clip (b : Bounds) (n : Int) : Int :=
  if n < b.min then b.min else if n > b.max then b.max else n

/-- A change of one faction's reputation moves the other one's the opposite way, divided. -/
structure Coupling where
  a : String
  b : String
  divisor : Int
  deriving DecidableEq

/-- The title from a reputation upwards; authored settings may leave the wording out. -/
structure Title where
  threshold : Int
  wording : Option Value

structure Settings where
  reputation : Bounds
  couplings : List Coupling
  titles : List Title
  relationship : Bounds
  initialRelationship : Int
  levels : List (String × Int)
  contentFiles : List Value
  mainQuest : String
  saveMagic : String
  saveVersion : Int

namespace Settings

/-- The factions coupled with a given one and the divisors, in the order of the settings. -/
def coupledWith (cfg : Settings) (faction : String) : List (String × Int) :=
  cfg.couplings.flatMap fun c =>
    (if c.a = faction then [(c.b, c.divisor)] else []) ++
    (if c.b = faction then [(c.a, c.divisor)] else [])

/-- A table that stands in another one, empty when there is none. -/
def sectionAt (tree : Table) (name : String) : Table :=
  match tree.field name with
  | .table fields => fields
  | _ => []

/-- A number in a section, zero when there is none. -/
def intAt (fields : Table) (name : String) : Int := ((fields.field name).int?).getD 0

def textAt (fields : Table) (name : String) : String := ((fields.field name).text?).getD ""

def listAt (fields : Table) (name : String) : List Value :=
  match fields.field name with
  | .list items => items
  | _ => []

/-- The tables among some values. -/
def tablesOf (items : List Value) : List Table :=
  items.filterMap fun
    | .table fields => some fields
    | _ => none

/-- The settings in a tree that has been checked. -/
def ofTree (tree : Table) : Settings :=
  let reputation := sectionAt tree "reputation"
  let relationship := sectionAt tree "relationship"
  let content := sectionAt tree "content"
  let save := sectionAt tree "save"
  { reputation := ⟨intAt reputation "MIN", intAt reputation "MAX"⟩
    couplings := (tablesOf (listAt reputation "COUPLING")).map fun c =>
      ⟨textAt c "a", textAt c "b", intAt c "divisor"⟩
    titles := (tablesOf (listAt reputation "TITLES")).map fun t =>
      ⟨intAt t "threshold", t.field? "title"⟩
    relationship := ⟨intAt relationship "MIN", intAt relationship "MAX"⟩
    initialRelationship := intAt relationship "INITIAL"
    levels := (sectionAt relationship "LEVELS").map fun (k, v) =>
      ((Value.atom k).text?.getD "", v.int?.getD 0)
    contentFiles := listAt content "FILES"
    mainQuest := textAt content "MAIN_QUEST"
    saveMagic := textAt save "MAGIC"
    saveVersion := intAt save "FORMAT_VERSION" }

end Settings

end Questline
