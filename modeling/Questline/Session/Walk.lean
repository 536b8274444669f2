import Questline.Session.Dispatch
import Questline.Session.View

/-! Playing graphs.  A graph is started at its start node; a choice applies its outcomes and leads
on to a node, to the end of the graph, or from there to another graph; a graph that is given up
fails.  Once an ending has been triggered no graph goes any further. -/

namespace Questline

/-- The answer to a request. -/
structure Resolution where
  accepted : Bool
  graph : String
  choice : Option String := none
  entry : Option Entry := none
  activeGraph : Option String := none
  activeNode : Option String := none
  diagnostics : List String := []
  ended : Option (String × Bool) := none

namespace Resolution

def rejected (graph : String) (choice : Option String) (reason : String) : Resolution :=
  { accepted := false, graph, choice, diagnostics := [reason] }

def summary (r : Resolution) : String :=
  let verdict := if r.accepted then "accepted" else "rejected"
  s!"Resolution({verdict} {r.graph}/{plainText? r.choice} -> " ++
  s!"{plainText? r.activeGraph}/{plainText? r.activeNode})"

end Resolution

namespace Step

/-- No request is taken once the story has ended. -/
def checkNotEnded : Step Unit := do
  match (← get).ending with
  | some (ending, _) => throw (.illegal (.storyEnded ending))
  | none => pure ()

def enterNode (cfg : Settings) (graph node : String) : Step Unit := do
  modify fun s => s.updateInstance graph fun i => { i with activeNode := some node }
  let i ← instanceOf graph
  let n ← nodeOf i node
  applyOutcomes cfg {} n.entryOutcomes

def startGraph (cfg : Settings) (i : Instance) : Step Unit := do
  transition i.graph.id .inProgress
  enterNode cfg i.graph.id i.graph.start

def completeGraph (cfg : Settings) (i : Instance) : Step Unit := do
  transition i.graph.id .completed
  applyOutcomes cfg {} i.graph.completion

def failGraph (cfg : Settings) (i : Instance) : Step Unit := do
  transition i.graph.id .failed
  applyOutcomes cfg {} i.graph.failure

/-- The state that a graph is in now. -/
def stateNow (i : Instance) : Step Lifecycle := do
  match (← get).instance? i.graph.id with
  | some now => pure now.lifecycle
  | none => pure i.lifecycle

/-- Ends a graph in progress once an ending has been triggered; tells whether one has. -/
def finishIfEnded (cfg : Settings) (i : Instance) : Step Bool := do
  match (← get).ending with
  | none => pure false
  | some (_, failed) =>
    if (← stateNow i) = .inProgress then
      if failed then failGraph cfg i else completeGraph cfg i
    pure true

/-- Goes on to another graph if it can be started, perhaps only now; tells which graph is active
then. -/
def chainTo (cfg : Settings) (graph : String) : Step (Option String) := do
  match (← get).instance? graph with
  | none => throw (.missingKey (.text graph))
  | some i =>
    refreshAvailability
    if (← get).canStart graph then
      startGraph cfg i
      let _ ← finishIfEnded cfg i
      pure (if (← stateNow i) = .inProgress then some graph else none)
    else
      let state ← stateNow i
      report s!"cannot chain to {graph}, it is {state.word}"
      pure none

/-- Applies the outcomes of a choice and follows it; tells which graph is active then. -/
def advance (cfg : Settings) (i : Instance) (c : Choice) : Step (Option String) := do
  applyOutcomes cfg {} c.outcomes
  if ← finishIfEnded cfg i then return some i.graph.id
  match c.next with
  | .node target =>
    enterNode cfg i.graph.id target
    let _ ← finishIfEnded cfg i
    return some i.graph.id
  | .graph target =>
    completeGraph cfg i
    if (← get).ending.isNone then chainTo cfg target else return none
  | .finish =>
    completeGraph cfg i
    return none

/-- Commits the entry of a request and answers it. -/
def conclude (graph : String) (choice active : Option String) : Step Resolution := do
  let diagnostics := (← get).diagnostics
  let entry ← commit
  let s ← get
  let node := active.bind fun g => (s.instance? g).bind (·.activeNode)
  pure { accepted := true, graph, choice, entry := some entry
         activeGraph := if node.isSome then active else none
         activeNode := node, diagnostics, ended := s.ending }

/-- Starts a graph that is available, or completed and repeatable. -/
def start (cfg : Settings) (graph : String) : Step Resolution := do
  checkNotEnded
  let i ← instanceOf graph
  unless (← get).canStart graph do
    if i.lifecycle = .completed then throw (.illegal (.alreadyCompleted graph))
    throw (.illegal (.notAvailable graph i.lifecycle))
  openEntry .start (some graph) (some i.graph.start) none none
  settling do
    startGraph cfg i
    let _ ← finishIfEnded cfg i
  conclude graph none (some graph)

/-- Takes a legal choice of the active node of a graph in progress. -/
def choose (cfg : Settings) (graph choice : String) : Step Resolution := do
  checkNotEnded
  let i ← instanceOf graph
  unless i.lifecycle = .inProgress do throw (.illegal (.notInProgress graph i.lifecycle))
  match ← activeNodeOf i with
  | none => throw .unexpected
  | some n =>
    match n.choice? choice with
    | none => throw (.illegal (.noSuchChoice choice graph n.id))
    | some c =>
      match ← reasonsAgainst cfg (← get).ledger n c with
      | [] =>
        openEntry .choice (some graph) (some n.id) (some choice) none
        let active ← settling do
          let active ← advance cfg i c
          refreshAvailability
          pure active
        conclude graph (some choice) active
      | reasons => throw (.illegal (.notLegal choice reasons))

/-- Gives up on a graph that is available or in progress. -/
def abandon (cfg : Settings) (graph : String) : Step Resolution := do
  checkNotEnded
  let i ← instanceOf graph
  unless i.lifecycle = .available ∨ i.lifecycle = .inProgress do
    throw (.illegal (.cannotAbandon graph i.lifecycle))
  openEntry .abandon (some graph) i.activeNode none none
  settling do
    failGraph cfg i
    refreshAvailability
  conclude graph none none

end Step

end Questline
