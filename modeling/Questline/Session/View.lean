import Questline.Session

/-! What a session shows: which graphs are where, what can be started, and the active node of a
graph with its choices sorted into legal and illegal ones. -/

namespace Questline

/-- A choice as it is shown, with the reasons why it cannot be taken. -/
structure PresentedChoice where
  id : String
  text : String
  reasons : List String := []
  deriving DecidableEq

/-- A node as it is shown. -/
structure PresentedNode where
  graph : String
  node : String
  title : Option String
  text : String
  speaker : Option String
  legal : List PresentedChoice
  illegal : List PresentedChoice
  deriving DecidableEq

namespace PresentedChoice

def isLegal (c : PresentedChoice) : Bool := c.reasons.isEmpty

def summary (c : PresentedChoice) : String :=
  let legal := Value.bool c.isLegal
  s!"PresentableChoice({c.id} legal={legal.literal})"

end PresentedChoice

def PresentedNode.summary (n : PresentedNode) : String :=
  s!"PresentableNode({n.graph}/{n.node} legal={literalTexts (n.legal.map (·.id))})"

namespace Session

def graphsIn (s : Session) (state : Lifecycle) : List String :=
  (s.instances.filter (·.lifecycle = state)).map (·.graph.id)

/-- The graphs of the main line with their states. -/
def mainLine (s : Session) : List (String × Lifecycle) :=
  (s.instances.filter (·.graph.main)).map fun i => (i.graph.id, i.lifecycle)

/-- The branches of the graphs in progress, each once, in alphabetical order. -/
def activeBranches (s : Session) : List String :=
  let playing := s.instances.filter (·.lifecycle = .inProgress)
  sortNames (Graph.addNew [] (playing.map (·.graph.branch)))

/-- The main quest in progress, or else the first quest in progress. -/
def currentGraph (s : Session) : Option String :=
  let playing := s.instances.filter fun i => i.lifecycle = .inProgress && i.graph.kind = .quest
  ((playing.find? (·.graph.main)).or playing.head?).map (·.graph.id)

def canStart (s : Session) (graph : String) : Bool :=
  match s.instance? graph with
  | none => false
  | some i =>
    s.ending.isNone &&
      (i.lifecycle = .available || (i.lifecycle = .completed && i.graph.repeatable))

def activeNodes (s : Session) : List (String × String) :=
  s.instances.filterMap fun i => i.activeNode.map fun n => (i.graph.id, n)

def unlockedGraphs (s : Session) : List String :=
  (s.instances.filter (·.unlocked)).map (·.graph.id)

end Session

namespace Step

/-- The instance of a graph, which has to be registered. -/
def instanceOf (graph : String) : Step Instance := do
  match (← get).instance? graph with
  | some i => pure i
  | none => throw (.illegal (.unknownGraph graph))

/-- The node of a graph that is played, if it is one of the graph's nodes. -/
def nodeOf (i : Instance) (id : String) : Step Node :=
  match i.graph.node? id with
  | some n => pure n
  | none => throw (.missingKey (.text id))

/-- The active node of a graph. -/
def activeNodeOf (i : Instance) : Step (Option Node) :=
  match i.activeNode with
  | none => pure none
  | some id => some <$> nodeOf i id

/-- The reasons why a choice of a node cannot be taken now. -/
def reasonsAgainst (cfg : Settings) (ledger : Ledger) (n : Node) (c : Choice) :
    Step (List String) := do
  let unmet ← onHost (Requirement.unmet ledger (n.gates c))
  ofExcept (Requirement.describeAll cfg unmet)

/-- All choices of a node with the reasons against them. -/
def judge (cfg : Settings) (ledger : Ledger) (n : Node) :
    List Choice → Step (List PresentedChoice)
  | [] => pure []
  | c :: rest => do
    let reasons ← reasonsAgainst cfg ledger n c
    return { id := c.id, text := c.text, reasons } :: (← judge cfg ledger n rest)

/-- The active node of a graph as it is shown.  After the end no choice can be taken. -/
def present (cfg : Settings) (graph : String) : Step (Option PresentedNode) := do
  let i ← instanceOf graph
  match ← activeNodeOf i with
  | none => pure none
  | some n =>
    let s ← get
    let shown ← match s.ending with
      | some (ending, _) =>
        pure (n.choices.map fun c =>
          { id := c.id, text := c.text, reasons := [endedReason ending] : PresentedChoice })
      | none => judge cfg s.ledger n n.choices
    pure (some { graph, node := n.id, title := n.title, text := n.text, speaker := n.speaker
                 legal := shown.filter (·.isLegal), illegal := shown.filter (!·.isLegal) })

end Step

end Questline
