import Questline.Refusal
import Questline.Fault

/-! What can be wrong with an authored graph. -/

namespace Questline

inductive Problem
  | notTable (given : Value) : Problem
  | unknownKind (given : Value) : Problem
  | unknownBranch (name : String) : Problem
  | noNodes : Problem
  | nodeNotTable (given : Value) : Problem
  | choiceNotTable (node : String) : Problem
  | notList (what owner : String) : Problem
  | badText (field owner : String) : Problem
  | notText (field owner : String) : Problem
  | notBool (field owner : String) : Problem
  | badRequirement (owner : String) (why : Fault) : Problem
  | badOutcome (owner : String) (why : Fault) : Problem
  | twoWaysOn (owner : String) : Problem
  | duplicateNode (node : String) : Problem
  | duplicateChoice (choice node : String) : Problem
  | duplicateGraph : Problem
  | definedAgain (source : String) : Problem
  | missingStart (node : String) : Problem
  | missingNode (node choice target : String) : Problem
  | unknownChain (node choice target : String) : Problem
  | unlocksUnknown (outcome : Value) (graph : Option String) : Problem
  | requiresUnknown (graph : String) : Problem
  | unreachable (node start : String) : Problem

def Problem.message : Problem → String
  | .notTable given => s!"graph must be a table, got {given.literal}"
  | .unknownKind given => s!"unknown graph kind {given.literal}"
  | .unknownBranch name => s!"unknown branch {Text.quote name}"
  | .noNodes => "graph has no nodes"
  | .nodeNotTable given => s!"node must be a table, got {given.literal}"
  | .choiceNotTable node => s!"choice in {node} must be a table"
  | .notList what owner => s!"{what} for {owner} must be a list"
  | .badText field owner => s!"missing or bad {field} in {owner}"
  | .notText field owner => s!"{field} in {owner} must be a string"
  | .notBool field owner => s!"{field} in {owner} must be true or false"
  | .badRequirement owner why => s!"bad requirement in {owner}: {why.message}"
  | .badOutcome owner why => s!"bad outcome in {owner}: {why.message}"
  | .twoWaysOn owner => s!"{owner} has both next_node and next_graph"
  | .duplicateNode node => s!"duplicate node id {node}"
  | .duplicateChoice choice node => s!"duplicate choice id {choice} in {node}"
  | .duplicateGraph => "duplicate graph id"
  | .definedAgain source => s!"duplicate graph id (again in {source})"
  | .missingStart node => s!"start node {node} is not in the graph"
  | .missingNode node choice target => s!"{node}/{choice} goes to missing node {target}"
  | .unknownChain node choice target => s!"{node}/{choice} chains to unknown graph {target}"
  | .unlocksUnknown outcome graph =>
    s!"outcome {outcome.plain} unlocks unknown graph {plainText? graph}"
  | .requiresUnknown graph => s!"requirement on unknown graph {graph}"
  | .unreachable node start => s!"node {node} is unreachable from {start}"

/-- Problems by graph, in the order in which the graphs first had one. -/
abbrev Problems := Assoc String (List Problem)

namespace Problems

/-- Adds problems of one graph; a graph without any is not mentioned. -/
def add (all : Problems) (graph : String) (found : List Problem) : Problems :=
  if found.isEmpty then all else Assoc.put all graph (Assoc.getD all graph [] ++ found)

/-- The report: a headline, then one line for each problem. -/
def message (all : Problems) : String :=
  let lines := List.flatMap (fun (graph, found) =>
    found.map fun p => s!"  {graph}: {p.message}") all
  "\n".intercalate (s!"{all.length} graph(s) failed validation:" :: lines)

end Problems

/-- Why content is turned down. -/
inductive ContentFault
  | bad (problems : Problems) : ContentFault
  | fault (why : Fault) : ContentFault

end Questline
