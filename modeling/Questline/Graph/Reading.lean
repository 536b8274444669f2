import Questline.Graph
import Questline.Graph.Problem
import Questline.Outcome.Reading
import Questline.Requirement.Reading

/-! Graphs as they are authored.  Everything wrong is noted and reading goes on with a stand-in,
so that one pass finds all problems of a graph. -/

namespace Questline

/-- Reading that notes problems as it goes. -/
abbrev Noting := StateT (List Problem) (Except Fault)

namespace Noting

def note (p : Problem) : Noting Unit := modify (· ++ [p])

/-- The items of a list that may be left out. -/
def items (v : Value) (what owner : String) : Noting (List Value) :=
  match v with
  | .null => pure []
  | .list items => pure items
  | _ => do
    note (.notList what owner)
    pure []

/-- A field that has to be a text; what is left out counts as the usual value. -/
def requiredText (fields : Table) (name owner : String) (usual : Value) : Noting String :=
  match (fields.field? name).getD usual with
  | .text s => pure s
  | _ => do
    note (.badText name owner)
    pure ""

def optionalText (fields : Table) (name owner : String) : Noting (Option String) :=
  match fields.field name with
  | .null => pure none
  | .text s => pure (some s)
  | _ => do
    note (.notText name owner)
    pure none

/-- A field that is true or false, and false when left out. -/
def mark (fields : Table) (name owner : String) : Noting Bool :=
  match fields.field? name with
  | none => pure false
  | some (.bool b) => pure b
  | some _ => do
    note (.notBool name owner)
    pure false

/-- Reads something that may be refused; a refusal is noted. -/
def attempt {α : Type} (r : Except Fault α) (problem : Fault → Problem) : Noting (Option α) :=
  match r with
  | .ok a => pure (some a)
  | .error why =>
    if why.isRefusal then do
      note (problem why)
      pure none
    else throw why

def requirements (cfg : Settings) (v : Value) (owner : String) : Noting (List Requirement) := do
  let read ← (← items v "requirements" owner).mapM fun item =>
    attempt (Requirement.read cfg item) (.badRequirement owner)
  pure (read.filterMap id)

/-- The name of an outcome: its owner and its place in the list. -/
def outcomeName (owner : String) (place : Nat) : Value := .text s!"{owner}:{place}"

def outcomes (v : Value) (owner : String) : Noting (List Outcome) := do
  let read ← (← items v "outcomes" owner).zipIdx.mapM fun (item, place) =>
    attempt (Outcome.read item (some (outcomeName owner place))) (.badOutcome owner)
  pure (read.filterMap id)

end Noting

open Noting

namespace Choice

def readNext (fields : Table) (owner : String) : Noting Next :=
  match fields.field? "next_node", fields.field? "next_graph" with
  | some _, some _ => do
    note (.twoWaysOn owner)
    pure .finish
  | some _, none => return .node (← requiredText fields "next_node" owner .null)
  | none, some _ => return .graph (← requiredText fields "next_graph" owner .null)
  | none, none => pure .finish

def read (cfg : Settings) (node : String) (fields : Table) : Noting Choice := do
  let id ← requiredText fields "id" s!"choice in {node}" .null
  let owner := s!"{node}/{id}"
  let text ← requiredText fields "text" owner .null
  let next ← readNext fields owner
  let requirements ← Noting.requirements cfg (fields.field "requirements") owner
  let outcomes ← Noting.outcomes (fields.field "outcomes") owner
  pure { id, text, requirements, outcomes, next }

/-- Reads the choices of a node one after the other, noting a name that came before. -/
def readAll (cfg : Settings) (node : String) : List String → List Value → Noting (List Choice)
  | _, [] => pure []
  | seen, .table fields :: rest => do
    let c ← read cfg node fields
    if seen.contains c.id then note (.duplicateChoice c.id node)
    return c :: (← readAll cfg node (c.id :: seen) rest)
  | seen, _ :: rest => do
    note (.choiceNotTable node)
    readAll cfg node seen rest

end Choice

namespace Node

def readFields (cfg : Settings) (usualSpeaker : Option String) (fields : Table) : Noting Node := do
  let id ← requiredText fields "id" "node" .null
  let choices ← Choice.readAll cfg id [] (← items (fields.field "choices") "choices" id)
  let text ← requiredText fields "text" id .null
  let title ← optionalText fields "title" id
  let location ← optionalText fields "location" id
  let own ← optionalText fields "speaker" id
  let speaker := match own with
    | some "" | none => usualSpeaker
    | some s => some s
  let entryOutcomes ← Noting.outcomes (fields.field "entry_outcomes") id
  pure { id, text, choices, title, location, speaker, entryOutcomes }

def read (cfg : Settings) (usualSpeaker : Option String) (v : Value) : Noting Node :=
  match v with
  | .table fields => readFields cfg usualSpeaker fields
  | _ => do
    note (.nodeNotTable v)
    pure { id := "", text := "" }

/-- Reads the nodes of a graph one after the other, noting a name that came before. -/
def readAll (cfg : Settings) (usualSpeaker : Option String) :
    List String → List Value → Noting (List Node)
  | _, [] => pure []
  | seen, v :: rest => do
    let n ← read cfg usualSpeaker v
    if seen.contains n.id then note (.duplicateNode n.id)
    return n :: (← readAll cfg usualSpeaker (n.id :: seen) rest)

end Node

namespace Graph

/-- The lines of the story that a graph can belong to. -/
def branches : List String :=
  ["main", "alliance", "syndicate", "independent", "mystics", "settlers", "void_entity", "crew"]

def readKind (fields : Table) : Noting GraphKind :=
  match ((fields.field? "kind").getD (.text "quest")).readWord GraphKind with
  | .ok kind => pure kind
  | .error _ => do
    note (.unknownKind (fields.field "kind"))
    pure .quest

def readBranch (fields : Table) (id : String) : Noting String := do
  let branch ← requiredText fields "branch" id (.text "main")
  if branch ≠ "" ∧ !branches.contains branch then note (.unknownBranch branch)
  pure branch

def readNodes (cfg : Settings) (fields : Table) (id : String) (speaker : Option String) :
    Noting (List Node) := do
  let authored ← items (fields.field "nodes") "nodes" id
  if authored.isEmpty then note .noNodes
  Node.readAll cfg speaker [] authored

def readFields (cfg : Settings) (id : String) (fields : Table) : Noting Graph := do
  let kind ← readKind fields
  let branch ← readBranch fields id
  let speaker ← optionalText fields "speaker" id
  let nodes ← readNodes cfg fields id speaker
  let title ← requiredText fields "title" id .null
  let description ← requiredText fields "description" id (.text "")
  let start ← requiredText fields "start" id .null
  let requirements ← Noting.requirements cfg (fields.field "requirements") id
  let main ← mark fields "main" id
  let locked ← mark fields "locked" id
  let repeatable ← mark fields "repeatable" id
  let completion ← Noting.outcomes (fields.field "completion_outcomes") s!"{id}.completion"
  let failure ← Noting.outcomes (fields.field "failure_outcomes") s!"{id}.failure"
  pure { id, kind, title, description, start, nodes := distinctNodes nodes, requirements, branch,
         main, locked, repeatable, completion, failure, speaker }

/-- Builds a graph from its authored form, and lists everything wrong with it. -/
def read (cfg : Settings) (id : String) (v : Value) : Except Fault (Graph × List Problem) := do
  (readFields cfg id (← v.readFields)).run []

end Graph

end Questline
