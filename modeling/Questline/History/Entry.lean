import Questline.Value.Reading

/-! One entry of the story so far: what was asked, which outcomes were applied, in order, and
which graphs changed their state. -/

namespace Questline

structure Entry where
  id : Int
  kind : EntryKind
  timestamp : Float
  graph : Value := .null
  node : Value := .null
  choice : Value := .null
  /-- The outcomes as data, in the order in which they were applied. -/
  outcomes : List Table := []
  transitions : List (Value × Lifecycle) := []
  source : Value := .null

namespace Entry

def toValue (e : Entry) : Value :=
  .record [
    ("id", .int e.id),
    ("kind", .text e.kind.word),
    ("timestamp", .float e.timestamp),
    ("graph_id", e.graph),
    ("node_id", e.node),
    ("choice_id", e.choice),
    ("outcomes", .list (e.outcomes.map .table)),
    ("transitions", .list (e.transitions.map fun (g, s) => .list [g, .text s.word])),
    ("source", e.source)]

def readTransition (v : Value) : Except Fault (Value × Lifecycle) := do
  let (graph, state) ← v.readPair
  pure (graph, ← state.readWord Lifecycle)

def ofValue (v : Value) : Except Fault Entry := do
  let id ← (← v.require "id").readInt
  let kind ← (← v.require "kind").readWord EntryKind
  let timestamp ← (← v.require "timestamp").readFloat
  let graph ← v.getD "graph_id" .null
  let node ← v.getD "node_id" .null
  let choice ← v.getD "choice_id" .null
  let outcomes ← v.getD "outcomes" (.list [])
  let transitions ← (← (← v.getD "transitions" (.list [])).elements).mapM readTransition
  let source ← v.getD "source" .null
  let outcomes ← (← outcomes.elements).mapM Value.readTable
  pure { id, kind, timestamp, graph, node, choice, outcomes, transitions, source }

/-- The names of the outcomes; one without a name has the empty one. -/
def outcomeIds (e : Entry) : List Value :=
  e.outcomes.map fun o => (o.field? "id").getD (.text "")

def outcomeKinds (e : Entry) : Except Fault (List Value) :=
  e.outcomes.mapM fun o => (Value.table o).require "kind"

/-- The entry as one line, for reports. -/
def summary (e : Entry) : String :=
  let ids := Value.list e.outcomeIds
  s!"EventLogEntry({e.id} {e.kind.word} t={Decimal.writeFloat e.timestamp} " ++
  s!"{e.graph.plain}/{e.node.plain}/{e.choice.plain} outcomes={ids.literal})"

end Entry

end Questline
