import Questline.Graph
import Questline.Graph.Problem

/-! Checking the references of graphs: to nodes, to other graphs, and from the start to every
node. -/

namespace Questline.Graph

def checkChoice (g : Graph) (known : List String) (n : Node) (c : Choice) : Option Problem :=
  match c.next with
  | .node target => if g.hasNode target then none else some (.missingNode n.id c.id target)
  | .graph target => if known.contains target then none else some (.unknownChain n.id c.id target)
  | .finish => none

def checkOutcome (known : List String) (o : Outcome) : Option Problem :=
  if o.kind = .unlockQuest ∧ !o.target.any known.contains then some (.unlocksUnknown o.id o.target)
  else none

def checkRequirement (known : List String) (r : Requirement) : Option Problem :=
  if r.kind = .questCompleted ∧ !known.contains r.subject then some (.requiresUnknown r.subject)
  else none

def unreachableNodes (g : Graph) : List String :=
  sortNames ((g.nodes.map (·.id)).filter fun id => !g.reachable.contains id)

/-- Everything wrong with the references of a graph, given the graphs that there are. -/
def validate (g : Graph) (known : List String) : List Problem :=
  (if g.hasNode g.start then [] else [.missingStart g.start]) ++
  (g.nodes.flatMap fun n => n.choices.filterMap (g.checkChoice known n)) ++
  g.allOutcomes.filterMap (checkOutcome known) ++
  g.allRequirements.filterMap (checkRequirement known) ++
  (if g.hasNode g.start then g.unreachableNodes.map fun id => .unreachable id g.start else [])

/-- Graphs by name, noting a name that came before or that is taken already. -/
def collect (taken : List String) :
    List Graph → Assoc String Graph → Problems → Assoc String Graph × Problems
  | [], byId, problems => (byId, problems)
  | g :: rest, byId, problems =>
    let clash := Assoc.has byId g.id || taken.contains g.id
    collect taken rest (Assoc.put byId g.id g)
      (problems.add g.id (if clash then [.duplicateGraph] else []))

/-- Validates graphs against one another, the names taken, and the further names known. -/
def checkAll (graphs : List Graph) (taken alsoKnown : List String) (problems : Problems) :
    List Graph × Problems :=
  let (byId, problems) := collect taken graphs [] problems
  let known := taken ++ byId.map Prod.fst ++ alsoKnown
  (byId.map Prod.snd,
    byId.foldl (fun problems (id, g) => problems.add id (g.validate known)) problems)

/-- Validates graphs together; if any is bad, none is accepted. -/
def validateAll (graphs : List Graph) (taken : List String) : Except ContentFault (List Graph) :=
  match checkAll graphs taken [] [] with
  | (accepted, []) => .ok accepted
  | (_, problems) => .error (.bad problems)

end Questline.Graph
