import Questline.Session.Availability

/-! Applying outcomes.  Every request is written as one entry: it is opened, outcomes are applied
in order, each on its own, and it is committed to the log, or settled when it is interrupted. -/

namespace Questline.Step

/-- Whether graphs listen to the outcomes, and whether the host is left alone. -/
structure Wiring where
  hooked : Bool := true
  replaying : Bool := false

def openEntry (kind : EntryKind) (graph node choice source : Option String) : Step Unit := do
  match (← get).pending with
  | some p => throw (.refused (.alreadyResolving p.kind p.graph))
  | none => modify fun s => { s with pending := some { kind, graph, node, choice, source } }

/-- The entry for what is pending, at a given time. -/
def entryOf (p : Pending) (id : Int) (timestamp : Float) : Entry :=
  { id, kind := p.kind, timestamp
    graph := .ofText? p.graph
    node := .ofText? p.node
    choice := .ofText? p.choice
    outcomes := p.outcomes
    transitions := p.transitions.map fun (g, s) => (.text g, s)
    source := .ofText? p.source }

/-- Closes the entry and adds it to the log.  Its time is never before the last one, even when
the clock goes back. -/
def commit : Step Entry := do
  match (← get).pending with
  | none => throw (.refused .noResolution)
  | some p =>
    modify fun s => { s with pending := none }
    let s ← get
    let (now, clock) := s.clock.read
    set { s with clock }
    let last := s.log.lastTimestamp
    let entry := entryOf p s.log.nextId (if now < last then last else now)
    let log ← ofExcept (s.log.append entry)
    modify fun s => { s with log }
    pure entry

/-- Drops an entry that has changed nothing. -/
def discard : Step Unit := do
  match (← get).pending with
  | none => throw (.refused .noResolution)
  | some p =>
    if p.hasChanges then throw (.refused .changedState)
    modify fun s => { s with pending := none }

/-- Closes an entry that was interrupted: what it changed is committed, so that the log accounts
for the ledger; otherwise it is dropped. -/
def settle : Step (Option Entry) := do
  match (← get).pending with
  | none => pure none
  | some p =>
    if p.hasChanges then some <$> commit
    else
      modify fun s => { s with pending := none }
      pure none

/-- What an outcome does to the host, once the ledger has changed from one state to another. -/
def actOnHost (o : Outcome) (target : String) (old new : Ledger) : Step Unit := do
  match o.kind with
  | .grantExperience => onHost (Host.grantExperience o.amount)
  | .giveItem => onHost (Host.giveItem target o.amount)
  | .removeItem =>
    unless ← onHost (Host.removeItem target o.amount) do
      report s!"could not remove {o.amount} {target} ({o.id.plain}), continuing"
  | .unlockLocation => onHost (Host.unlockLocation target)
  | .unlockCompanion => onHost (Host.unlockCompanion target (new.relationshipWith target))
  | .relationshipDelta =>
    onHost (Host.adjustRelationship target
      (new.relationshipWith target - old.relationshipWith target))
  | .startCombat => onHost (Host.startEncounter .combat target)
  | .startPuzzle => onHost (Host.startEncounter .puzzle target)
  | .triggerEnding => onHost (Host.triggerEnding target o.fail)
  | .reputationDelta | .setFlag | .clearFlag | .unlockQuest => pure ()

/-- What an outcome does to the graphs that listen. -/
def actOnGraphs (w : Wiring) (o : Outcome) (target : String) : Step Unit := do
  match o.kind with
  | .unlockQuest => unlockGraph target
  | .triggerEnding =>
    unless w.replaying do modify fun s => { s with ending := some (target, o.fail) }
  | _ => pure ()

/-- Carries out one outcome: in the ledger first, then for the graphs, then with the host. -/
def perform (cfg : Settings) (w : Wiring) (o : Outcome) : Step Unit := do
  let old := (← get).ledger
  let new ← ofExcept (o.onLedger cfg old)
  modify fun s => { s with ledger := new }
  let target := o.target.getD ""
  if w.hooked then actOnGraphs w o target
  unless w.replaying do actOnHost o target old new

/-- Notes an outcome in the entry that is being written. -/
def noteOutcome (o : Outcome) : Step Unit :=
  modify fun s => { s with
    pending := s.pending.map fun p => { p with outcomes := p.outcomes ++ [o.toTable] } }

/-- Applies one outcome and lets graphs become available.  A failure is reported, and the outcome
stays in the entry. -/
def applyOutcome (cfg : Settings) (w : Wiring) (o : Outcome) : Step Unit := do
  noteOutcome o
  let failed ← attempt do
    perform cfg w o
    if w.hooked then refreshAvailability
  match failed with
  | none => pure ()
  | some why =>
    let target := o.target.getD ""
    report s!"{o.kind.word} {target} ({o.id.plain}) failed: {why.message}, continuing"

def applyEach (cfg : Settings) (w : Wiring) : List Outcome → Step Unit
  | [] => pure ()
  | o :: rest => do
    applyOutcome cfg w o
    applyEach cfg w rest

/-- Applies outcomes in order within the open entry. -/
def applyOutcomes (cfg : Settings) (w : Wiring) (outcomes : List Outcome) : Step Unit := do
  unless (← get).inEntry do throw (.refused .outsideResolution)
  applyEach cfg w outcomes

/-- Runs a step within the open entry; if it fails the entry is settled. -/
def settling {α : Type} (step : Step α) : Step α := step.orElseDo settle

/-- Applies outcomes as one complete entry. -/
def applyAsEntry (cfg : Settings) (w : Wiring) (outcomes : List Outcome) (kind : EntryKind)
    (graph node choice source : Option String) : Step Entry := do
  openEntry kind graph node choice source
  settling (applyOutcomes cfg w outcomes)
  commit

end Questline.Step
