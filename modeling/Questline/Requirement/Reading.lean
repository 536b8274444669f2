import Questline.Requirement

/-! Requirements as they are authored.  A numeric kind needs an integer, which for a relationship
may be the name of a level; the other kinds take no value but `false` for the opposite. -/

namespace Questline

/-- The comparator that a text names by its sign or by its name in any capitals. -/
def Comparator.read (v : Value) : Except Fault Comparator :=
  match v with
  | .text s =>
    match (Vocabulary.members : List Comparator).find? fun c =>
      s == c.word || Text.upper s == c.name with
    | some c => .ok c
    | none => .error (.refused (.unknownComparator s))
  | _ => .error .noSuchMember

namespace Requirement

/-- A field that has to be a text with something in it. -/
def nonEmptyText? (v : Value) : Option String :=
  match v with
  | .text s => if s = "" then none else some s
  | _ => none

/-- The number that a numeric requirement compares with. -/
def readLevel (cfg : Settings) (kind : RequirementKind) (subject : String) (raw : Value) :
    Except Fault Int :=
  match kind, raw with
  | _, .int n => .ok n
  | .relationship, .text level => Scale.relationshipThreshold cfg level
  | _, _ => .error (.refused (.requirementWithoutValue kind subject))

/-- The comparator of a kind that takes no value, where the value `false` stands for the
opposite. -/
def readNegation (kind : RequirementKind) (subject : String) (value : Option Value)
    (comparator : Option Comparator) : Except Fault (Option Comparator) :=
  match value, comparator with
  | none, _ => .ok comparator
  | some (.bool true), _ => .ok comparator
  | some (.bool false), none => .ok (some .fails)
  | some (.bool false), some _ => .error (.refused (.negatedTwice subject))
  | some _, _ => .error (.refused (.requirementWithValue kind subject))

/-- The given comparator if it suits the kind, or the usual one. -/
def suitable (kind : RequirementKind) : Option Comparator → Except Fault Comparator
  | none => .ok (defaultComparator kind)
  | some c =>
    if c.isNumeric = kind.isNumeric then .ok c
    else .error (.refused (.comparatorMismatch c kind))

def readFields (cfg : Settings) (fields : Table) : Except Fault Requirement := do
  let kindField ← (fields.field? "kind").elim
    (.error (.refused (.requirementWithoutKind fields))) .ok
  let kind ← kindField.readSpelling RequirementKind
  let subject ← (nonEmptyText? (fields.field kind.subjectField)).elim
    (.error (.refused (.requirementWithoutSubject kind))) .ok
  if kind = .factionLevel ∧ !Faction.isWord subject then
    throw (.refused (.unknownFaction subject))
  let comparator ← (fields.field? "comparator").mapM Comparator.read
  if kind.isNumeric then
    let level ← readLevel cfg kind subject (fields.field "value")
    pure ⟨kind, subject, ← suitable kind comparator, some (.number level)⟩
  else
    let comparator ← readNegation kind subject (fields.field? "value") comparator
    pure ⟨kind, subject, ← suitable kind comparator, none⟩

/-- Reads a requirement from its authored form. -/
def read (cfg : Settings) (v : Value) : Except Fault Requirement :=
  match v with
  | .table fields => readFields cfg fields
  | _ => .error (.refused (.requirementNotTable v))

end Requirement

end Questline
