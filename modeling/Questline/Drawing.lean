import Questline.Drawing.Dot
import Questline.Graph

/-! Drawing a graph: a box for each node, an edge for each choice, a folder for each graph that a
choice leads to, and one oval for the end. -/

namespace Questline.Graph

/-- The name of the folder that stands for another graph. -/
def folderName (graph : String) : String := s!"graph:{graph}"

/-- The name of the oval that stands for the end. -/
def finishName : String := "complete"

/-- The start node is drawn with a double border. -/
def shapeOf (g : Graph) (n : Node) : String :=
  if n.id = g.start then "doubleoctagon" else "box"

def nodeLabel (n : Node) : String :=
  let title := match n.title with
    | some "" | none => n.id
    | some s => s
  match n.location with
  | some "" | none => title
  | some place => s!"{title}\n@{place}"

/-- The text of a choice, cut when it is long, and what the choice requires. -/
def choiceLabel (cfg : Settings) (c : Choice) : Except Fault String := do
  let text := if c.text.length < 40 then c.text
    else String.ofList (c.text.toList.take 37) ++ "..."
  if c.requirements.isEmpty then pure text
  else
    let reasons ← Requirement.describeAll cfg c.requirements
    pure (text ++ "\n[" ++ ", ".intercalate reasons ++ "]")

def choiceStatements (cfg : Settings) (n : Node) (c : Choice) :
    Except Fault (List Dot.Statement) := do
  let label ← choiceLabel cfg c
  match c.next with
  | .node target => pure [.edge n.id target label]
  | .graph target =>
    pure [.node (folderName target) target "folder", .edge n.id (folderName target) label]
  | .finish => pure [.node finishName finishName "oval", .edge n.id finishName label]

def nodeStatements (cfg : Settings) (g : Graph) (n : Node) : Except Fault (List Dot.Statement) := do
  let choices ← n.choices.mapM (choiceStatements cfg n)
  pure (.node n.id (nodeLabel n) (g.shapeOf n) :: choices.flatten)

def drawing (cfg : Settings) (g : Graph) : Except Fault Dot.Digraph := do
  let nodes ← g.nodes.mapM (nodeStatements cfg g)
  pure ⟨g.id, g.title, nodes.flatten⟩

end Questline.Graph
