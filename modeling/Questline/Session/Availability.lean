import Questline.Session

/-! Lifecycle changes.  A graph becomes available once it is not locked, or has been unlocked,
and all its requirements are met. -/

namespace Questline.Step

/-- Adds a diagnostic to the entry that is being written. -/
def report (message : String) : Step Unit :=
  modify fun s => { s with
    pending := s.pending.map fun p => { p with diagnostics := p.diagnostics ++ [message] } }

/-- Puts a lifecycle change on record, in the ledger and in the entry that is being written. -/
def recordTransition (graph : String) (state : Lifecycle) : Step Unit :=
  modify fun s => { s with
    ledger := s.ledger.setState graph state
    pending := s.pending.map fun p => { p with transitions := p.transitions ++ [(graph, state)] } }

/-- Moves a graph to a state; only a graph in progress keeps its active node. -/
def transition (graph : String) (state : Lifecycle) : Step Unit := do
  modify fun s => s.updateInstance graph fun i => { i with
    lifecycle := state
    activeNode := if state = .inProgress then i.activeNode else none }
  recordTransition graph state

/-- Marks a graph as unlocked. -/
def unlockGraph (graph : String) : Step Unit := do
  match (← get).instance? graph with
  | none => report s!"cannot unlock unknown graph {graph}"
  | some _ => modify fun s => s.updateInstance graph fun i => { i with unlocked := true }

/-- Whether a graph waits for its requirements only. -/
def isWaiting (i : Instance) : Bool :=
  i.lifecycle = .unavailable && (!i.graph.locked || i.unlocked)

/-- Makes those of some graphs available that are waiting and whose requirements are met. -/
def promote (ledger : Ledger) : List Instance → Step Unit
  | [] => pure ()
  | i :: rest => do
    if isWaiting i then
      if ← onHost (Requirement.allMet ledger i.graph.requirements) then
        transition i.graph.id .available
    promote ledger rest

/-- Makes every graph available whose time has come, judged by the ledger as it is now. -/
def refreshAvailability : Step Unit := do
  let s ← get
  promote s.ledger s.instances

end Questline.Step
