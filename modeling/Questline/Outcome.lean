import Questline.Ledger
import Questline.Value.Order

/-! Outcomes are what a choice, a node or the end of a graph does to the world. -/

namespace Questline

structure Outcome where
  kind : OutcomeKind
  target : Option String := none
  amount : Int := 0
  fail : Bool := false
  id : Value := .text ""

namespace Outcome

/-- The same effect; the name that an outcome goes by does not count. -/
def sameEffect (o p : Outcome) : Bool :=
  o.kind = p.kind && o.target = p.target && o.amount = p.amount && o.fail = p.fail

/-- The outcome as one line, for reports. -/
def summary (o : Outcome) : String :=
  s!"Outcome({o.id.plain} {o.kind.name} {plainText? o.target} {o.amount})"

/-- The outcome as data, with its name if it has one. -/
def toTable (o : Outcome) : Table :=
  [(.text "kind", .text o.kind.word)] ++
  (match o.kind.targetField? with
    | some field => [(.text field, Value.ofText? o.target)]
    | none => []) ++
  (match o.kind.amountField? with
    | some (field, _) => [(.text field, .int o.amount)]
    | none => []) ++
  (if o.kind = .triggerEnding then [(.text "fail", .bool o.fail)] else []) ++
  (if o.id.isTrue then [(.text "id", o.id)] else [])

/-- What an outcome changes in the ledger.  The other outcomes concern the host or the graphs.
All but experience need a target. -/
def onLedger (cfg : Settings) (o : Outcome) (l : Ledger) : Except Fault Ledger :=
  match o.kind, o.target with
  | .grantExperience, _ => .ok l
  | _, none => .error .unexpected
  | .reputationDelta, some faction => .ok (l.changeReputation cfg faction o.amount)
  | .setFlag, some flag => .ok (l.setFlag flag)
  | .clearFlag, some flag => .ok (l.clearFlag flag)
  | .unlockCompanion, some companion => .ok (l.meetCompanion cfg companion)
  | .relationshipDelta, some companion => .ok (l.changeRelationship cfg companion o.amount)
  | _, some _ => .ok l

end Outcome

end Questline
