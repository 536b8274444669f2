import Questline.Outcome

/-! Outcomes as they are authored: a kind, and the fields of that kind and no others. -/

namespace Questline.Outcome

/-- The fields that an outcome of a kind may have. -/
def fieldsOf (kind : OutcomeKind) : List String :=
  ["kind", "id"] ++ kind.targetField?.toList ++ (kind.amountField?.map Prod.fst).toList ++
  (if kind = .triggerEnding then ["fail"] else []) ++
  (if kind = .setFlag ∨ kind = .clearFlag then ["value"] else [])

def readTarget (kind : OutcomeKind) (fields : Table) : Except Fault (Option String) :=
  match kind.targetField? with
  | none => .ok none
  | some field =>
    match fields.field field with
    | .text s =>
      if s = "" then .error (.refused (.outcomeWithoutTarget kind field)) else .ok (some s)
    | _ => .error (.refused (.outcomeWithoutTarget kind field))

def readAmount (kind : OutcomeKind) (fields : Table) : Except Fault Int :=
  match kind.amountField? with
  | none => .ok 0
  | some (field, usual) =>
    match fields.field? field, usual with
    | some (.int n), _ =>
      if kind.needsPositive ∧ n ≤ 0 then .error (.refused (.amountNotPositive kind field))
      else .ok n
    | none, some n => .ok n
    | _, _ => .error (.refused (.outcomeWithoutAmount kind field))

def readFail (kind : OutcomeKind) (fields : Table) : Except Fault Bool :=
  if kind = .triggerEnding then
    match fields.field? "fail" with
    | none => .ok false
    | some (.bool b) => .ok b
    | some _ => .error (.refused .endingFailNotBool)
  else .ok false

/-- A flag may carry the value `true`, which says nothing more. -/
def checkFlagValue (kind : OutcomeKind) (fields : Table) : Except Fault Unit :=
  if kind = .setFlag ∨ kind = .clearFlag then
    match fields.field? "value" with
    | none | some (.bool true) => .ok ()
    | some _ => .error (.refused (.flagValueNotTrue kind))
  else .ok ()

/-- Refuses fields that the kind does not have. -/
def checkFields (kind : OutcomeKind) (fields : Table) : Except Fault Unit :=
  match (fields.map Prod.fst).filter fun k => !((fieldsOf kind).map Atom.text).contains k with
  | [] => .ok ()
  | extra => do
    let sorted ← Atom.sort extra
    throw (.refused (.unexpectedFields kind sorted))

def readFields (fields : Table) (id : Option Value) : Except Fault Outcome := do
  let kindField ← (fields.field? "kind").elim
    (.error (.refused (.outcomeWithoutKind fields))) .ok
  let kind ← kindField.readSpelling OutcomeKind
  let target ← readTarget kind fields
  if kind = .reputationDelta ∧ !target.any Faction.isWord then
    throw (.refused (.unknownFaction (plainText? target)))
  let amount ← readAmount kind fields
  let fail ← readFail kind fields
  checkFlagValue kind fields
  checkFields kind fields
  pure { kind, target, amount, fail, id := id.getD ((fields.field? "id").getD (.text "")) }

/-- Reads an outcome from its authored form.  A given name takes the place of its own. -/
def read (v : Value) (id : Option Value) : Except Fault Outcome :=
  match v with
  | .table fields => readFields fields id
  | _ => .error (.refused (.outcomeNotTable v))

end Questline.Outcome
