import Questline.Graph.Reading
import Questline.Graph.Validation

/-! Content is a table of authored graphs.  It is accepted as a whole or reported as a whole. -/

namespace Questline

/-- Authored graphs by name. -/
abbrev Content := Assoc String Value

namespace Content

/-- Reads the graphs one after the other.  Those with problems of their own are left out. -/
def readGraphs (cfg : Settings) : List (String × Value) → Except Fault (List Graph × Problems)
  | [] => .ok ([], [])
  | (id, v) :: rest => do
    match v with
    | .table _ =>
      let (g, found) ← Graph.read cfg id v
      let (graphs, problems) ← readGraphs cfg rest
      if found.isEmpty then pure (g :: graphs, problems) else pure (graphs, (id, found) :: problems)
    | _ =>
      let (graphs, problems) ← readGraphs cfg rest
      pure (graphs, (id, [.notTable v]) :: problems)

/-- Reads and validates content.  Graphs without problems of their own are still validated when
others have some, and a broken graph can still be referred to. -/
def load (cfg : Settings) (content : Content) (existing : List String) :
    Except ContentFault (List Graph) :=
  match readGraphs cfg content with
  | .error why => .error (.fault why)
  | .ok (graphs, problems) =>
    match Graph.checkAll graphs existing (content.map Prod.fst) problems with
    | (accepted, []) => .ok accepted
    | (_, problems) => .error (.bad problems)

/-- Joins the tables of several sources; a name that comes again is noted with its source. -/
def join (sources : List (String × Table)) : Except ContentFault Content :=
  match sources.foldl addSource ([], []) with
  | (content, []) => .ok content
  | (_, problems) => .error (.bad problems)
where
  addGraph (source : String) (acc : Content × Problems) (field : Atom × Value) :
      Content × Problems :=
    let id := (Value.atom field.1).plain
    (Assoc.put acc.1 id field.2,
      acc.2.add id (if Assoc.has acc.1 id then [.definedAgain source] else []))
  addSource (acc : Content × Problems) (source : String × Table) : Content × Problems :=
    source.2.foldl (addGraph source.1) acc

end Content

end Questline
