import Questline.Outcome
import Questline.Requirement

/-! Graphs are quests and dialogues: nodes joined by choices.  A choice is gated by requirements,
carries outcomes, and leads to a node of the same graph, to another graph, or to the end. -/

namespace Questline

/-- Where a choice leads. -/
inductive Next
  | finish : Next
  | node (id : String) : Next
  | graph (id : String) : Next
  deriving DecidableEq

structure Choice where
  id : String
  text : String
  requirements : List Requirement := []
  outcomes : List Outcome := []
  next : Next := .finish

structure Node where
  id : String
  text : String
  choices : List Choice := []
  title : Option String := none
  location : Option String := none
  speaker : Option String := none
  entryOutcomes : List Outcome := []

/-- The nodes of a graph stand in order of first appearance and have distinct names. -/
structure Graph where
  id : String
  kind : GraphKind
  title : String
  description : String
  start : String
  nodes : List Node
  requirements : List Requirement
  branch : String
  main : Bool
  locked : Bool
  repeatable : Bool
  completion : List Outcome
  failure : List Outcome
  speaker : Option String

namespace Next

def summary : Next → String
  | .finish => Atom.null.literal
  | .node id => s!"NodeRef({id})"
  | .graph id => s!"GraphRef({id})"

end Next

def Choice.summary (c : Choice) : String := s!"Choice({c.id} -> {c.next.summary})"

namespace Node

def summary (n : Node) : String := s!"Node({n.id})"

def choice? (n : Node) (id : String) : Option Choice := n.choices.find? (·.id = id)

/-- Everything that gates a choice, standing at the node's location included. -/
def gates (n : Node) (c : Choice) : List Requirement :=
  c.requirements ++ (n.location.map Requirement.atLocation).toList

end Node

namespace Graph

/-- Nodes by name: a later node replaces an earlier one of its name in place. -/
def distinctNodes (nodes : List Node) : List Node :=
  (Assoc.ofList (nodes.map fun n => (n.id, n))).map Prod.snd

def summary (g : Graph) : String :=
  s!"Graph({g.id} {g.kind.word} nodes={g.nodes.length})"

def node? (g : Graph) (id : String) : Option Node := g.nodes.find? (·.id = id)

def hasNode (g : Graph) (id : String) : Bool := g.nodes.any (·.id = id)

def allOutcomes (g : Graph) : List Outcome :=
  g.completion ++ g.failure ++
  g.nodes.flatMap fun n => n.entryOutcomes ++ n.choices.flatMap (·.outcomes)

def allRequirements (g : Graph) : List Requirement :=
  g.requirements ++ g.nodes.flatMap fun n => n.choices.flatMap (·.requirements)

/-- The nodes of the graph that the choices of a node lead to. -/
def targetsOf (g : Graph) (id : String) : List String :=
  match g.node? id with
  | none => []
  | some n => n.choices.filterMap fun c =>
    match c.next with
    | .node target => if g.hasNode target then some target else none
    | _ => none

/-- Adds the names that are not there yet. -/
def addNew (seen : List String) (names : List String) : List String :=
  names.foldl (fun seen name => if seen.contains name then seen else seen ++ [name]) seen

/-- The nodes seen, joined with all that is reached from the last found ones in some rounds. -/
def explore (g : Graph) : Nat → List String → List String → List String
  | 0, seen, _ => seen
  | rounds + 1, seen, latest =>
    let joined := addNew seen (latest.flatMap g.targetsOf)
    match joined.drop seen.length with
    | [] => seen
    | fresh => explore g rounds joined fresh

/-- The nodes that choices lead to from the start.  Every round but the last finds a new node, so
as many rounds as nodes suffice. -/
def reachable (g : Graph) : List String :=
  if g.hasNode g.start then g.explore g.nodes.length [g.start] [g.start] else []

end Graph

/-- Names in ascending order. -/
def sortNames (names : List String) : List String := names.mergeSort fun a b => decide (a ≤ b)

end Questline
