import Questline.Host
import Questline.Ledger
import Questline.Scale

/-! Requirements gate choices and graphs.  A requirement asks about one subject, either how high
a number stands or whether a fact holds; a list of requirements asks for all of them. -/

namespace Questline

/-- What the world says about a subject, or what a requirement asks for. -/
inductive Fact
  | number : Int → Fact
  | truth : Bool → Fact
  deriving DecidableEq

structure Requirement where
  kind : RequirementKind
  subject : String
  comparator : Comparator
  value : Option Fact
  deriving DecidableEq

namespace Fact

/-- A fact as a number, where one that holds counts as one. -/
def toInt : Fact → Int
  | .number n => n
  | .truth b => b.toInt

def isTrue : Fact → Bool
  | .number n => n != 0
  | .truth b => b

def toAtom : Fact → Atom
  | .number n => .int n
  | .truth b => .bool b

end Fact

namespace Requirement

/-- The comparator of a requirement that names none. -/
def defaultComparator (kind : RequirementKind) : Comparator :=
  if kind.isNumeric then .atLeast else .holds

/-- The player stands at a place. -/
def atLocation (location : String) : Requirement :=
  ⟨.atLocation, location, .holds, none⟩

def toTable (r : Requirement) : Table :=
  [(.text "kind", .text r.kind.word), (.text r.kind.subjectField, .text r.subject),
    (.text "comparator", .text r.comparator.word)] ++
  match r.value with
  | some v => [(.text "value", .atom v.toAtom)]
  | none => []

def valueText (r : Requirement) : String := ((r.value.map Fact.toAtom).getD .null).literal

/-- Whether two requirements ask for the same, their values being compared as numbers. -/
def same (r s : Requirement) : Bool :=
  r.kind = s.kind && r.subject = s.subject && r.comparator = s.comparator &&
  r.value.map Fact.toInt = s.value.map Fact.toInt

instance : BEq Requirement := ⟨same⟩

/-- The requirement as one line, for reports. -/
def summary (r : Requirement) : String :=
  if r.kind.isNumeric then
    s!"Requirement({r.kind.name} {r.subject} {r.comparator.word} {r.valueText})"
  else s!"Requirement({r.kind.name} {r.comparator.word} {r.subject})"

/-- What the player is told about a requirement that is not met. -/
def describe (cfg : Settings) (r : Requirement) : Except Fault String :=
  let s := r.subject
  let negated := r.comparator = .fails
  let exactly := if r.comparator = .equal then "exactly " else ""
  match r.kind with
  | .item => .ok (if negated then s!"must not carry {s}" else s!"requires {s}")
  | .skillLevel => .ok s!"requires {s} skill {exactly}{r.valueText}"
  | .factionLevel =>
    match r.value with
    | none => .error .unexpected
    | some v => (Scale.reputationTitle cfg v.toInt).map fun title =>
      s!"requires {s} reputation {exactly}{r.valueText} ({title.plain})"
  | .flag => .ok (if negated then s!"only if not {s}" else s!"only if {s}")
  | .locationVisited =>
    .ok (if negated then s!"only if {s} not yet visited" else s!"requires having visited {s}")
  | .questCompleted =>
    .ok (if negated then s!"only before completing {s}" else s!"requires completing {s}")
  | .relationship =>
    match r.value with
    | none => .error .unexpected
    | some v => (Scale.relationshipLevel cfg v.toInt).map fun level =>
      s!"requires {s} relationship {exactly}{r.valueText} ({level})"
  | .atLocation => .ok (if negated then s!"must not be at {s}" else s!"must be at {s}")

def describeAll (cfg : Settings) (requirements : List Requirement) : Except Fault (List String) :=
  requirements.mapM (describe cfg)

/-- What the world says about the subject of a requirement. -/
def fact (r : Requirement) (ledger : Ledger) (host : Host) : Fact :=
  match r.kind with
  | .item => .truth (host.itemCount r.subject > 0)
  | .skillLevel => .number (host.skillLevel r.subject)
  | .factionLevel => .number (ledger.reputationOf r.subject)
  | .flag => .truth (ledger.hasFlag r.subject)
  | .locationVisited => .truth (host.visited.contains r.subject)
  | .questCompleted => .truth (ledger.stateOf r.subject = .completed)
  | .relationship => .number (ledger.relationshipWith r.subject)
  | .atLocation => .truth (host.location = some r.subject)

/-- The service of the host that has to be asked for the fact. -/
def service? (r : Requirement) : Option Service :=
  match r.kind with
  | .item => some .hasItem
  | .skillLevel => some .getSkillLevel
  | .locationVisited => some .isLocationVisited
  | .atLocation => some .currentLocation
  | .factionLevel | .flag | .questCompleted | .relationship => none

/-- Compares a fact with what is required; only a least number needs a value. -/
def compare (r : Requirement) (f : Fact) : Except Fault Bool :=
  match r.comparator with
  | .atLeast => r.value.elim (.error .unexpected) fun v => .ok (v.toInt ≤ f.toInt)
  | .equal => .ok (r.value.any fun v => f.toInt = v.toInt)
  | .holds => .ok f.isTrue
  | .fails => .ok !f.isTrue

/-- Whether a requirement is met, when every service answers. -/
def holds (r : Requirement) (ledger : Ledger) (host : Host) : Bool :=
  match r.compare (r.fact ledger host) with
  | .ok b => b
  | .error _ => false

/-- Asks the host, and tells whether the requirement is met. -/
def evaluate (r : Requirement) (ledger : Ledger) : HostStep Bool := do
  match r.service? with
  | some service => Host.call service
  | none => pure ()
  match r.compare (r.fact ledger (← get)) with
  | .ok b => pure b
  | .error why => throw why

/-- Whether all requirements are met, asking no further than the first that is not. -/
def allMet (ledger : Ledger) : List Requirement → HostStep Bool
  | [] => pure true
  | r :: rest => do
    if ← r.evaluate ledger then allMet ledger rest else pure false

/-- The requirements that are not met. -/
def unmet (ledger : Ledger) : List Requirement → HostStep (List Requirement)
  | [] => pure []
  | r :: rest => do
    let met ← r.evaluate ledger
    let others ← unmet ledger rest
    pure (if met then others else r :: others)

end Requirement

end Questline
