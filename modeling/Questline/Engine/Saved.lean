import Questline.Engine

/-! The state of an engine as data, and back.  Data is read and checked against the registered
graphs before anything is replaced. -/

namespace Questline

/-- Why a save is turned down. -/
inductive SaveRefusal
  | malformed (cause : Fault) : SaveRefusal
  | strayLifecycle (graph : String) : SaveRefusal
  | unknownGraph (graph : String) : SaveRefusal
  | disagrees (graph : String) : SaveRefusal
  | withoutNode (graph : String) : SaveRefusal
  | strayNode (graph : String) : SaveRefusal
  | unknownNode (node graph : String) : SaveRefusal
  | unlocksUnknown (graph : String) : SaveRefusal
  | notSave : SaveRefusal
  | unsupported (version : Value) : SaveRefusal
  | badHeader (cause : Fault) : SaveRefusal
  | truncated (part : String) : SaveRefusal
  | corrupt (part cause : String) : SaveRefusal
  | notTable : SaveRefusal

/-- How a save fails: it is turned down, or something else goes wrong on the way. -/
inductive SaveFault
  | refused (why : SaveRefusal) : SaveFault
  | fault (why : Fault) : SaveFault

namespace Fault

/-- Whether a fault means that the data read is malformed. -/
def isMalformed : Fault → Bool
  | .refused _ | .illegal _ | .missingKey _ | .outOfRange | .mistyped | .noSuchMember
  | .unreadable | .notText _ => true
  | .tooLarge | .tooDeep | .unexpected | .down _ | .file _ _ => false

/-- A fault as the cause of another one: its sort, and its wording where that is the program's
own. -/
def cause : Fault → String
  | .missingKey key => s!"KeyError({key.literal})"
  | .refused why => s!"ValueError({Text.quote why.message})"
  | .illegal why => s!"ValueError({Text.quote why.message})"
  | .tooDeep => s!"ValueError({Text.quote (Fault.message .tooDeep)})"
  | .unreadable => "ValueError"
  | .outOfRange => "IndexError"
  | .mistyped => "TypeError"
  | .noSuchMember => "AttributeError"
  | .tooLarge => "OverflowError"
  | .unexpected => "AssertionError"
  | .down service => s!"RuntimeError({Text.quote (Fault.message (.down service))})"
  | .file _ _ => "OSError"
  | .notText _ => "UnicodeDecodeError"

end Fault

def SaveRefusal.message : SaveRefusal → String
  | .malformed cause => s!"malformed save data: {cause.cause}"
  | .strayLifecycle graph => s!"ledger has a lifecycle for {graph} but the save does not"
  | .unknownGraph graph => s!"save refers to unknown graph {graph}"
  | .disagrees graph => s!"lifecycle of {graph} disagrees with the ledger"
  | .withoutNode graph => s!"{graph} is in progress without an active node"
  | .strayNode graph => s!"{graph} has an active node but is not in progress"
  | .unknownNode node graph => s!"unknown node {node} in {graph}"
  | .unlocksUnknown graph => s!"save unlocks unknown graph {graph}"
  | .notSave => "not a save file"
  | .unsupported version => s!"unsupported save format {version.plain}"
  | .badHeader cause => s!"bad save header: {cause.cause}"
  | .truncated part => s!"save file truncated reading {part}"
  | .corrupt part cause => s!"corrupt save file reading {part}: {cause}"
  | .notTable => "narrative state is not a map"

/-- What a save holds. -/
structure Saved where
  ledger : Ledger
  states : Assoc String Lifecycle
  activeNodes : Assoc String String
  unlocked : List String
  log : EventLog
  ending : Option (String × Bool)

namespace Saved

/-- Texts by name, whatever the data was. -/
def readTexts (v : Value) : Except Fault (Assoc String String) := do
  (← v.readFields).foldlM
    (fun texts (k, t) => return Assoc.put texts (Value.atom k).plain t.plain) []

def readEnding (v : Value) : Except Fault (Option (String × Bool)) := do
  let ending ← v.getD "ending" .null
  if ending.isTrue then
    return some ((← ending.item 0).plain, (← ending.item 1).isTrue)
  else return none

def ofValue (v : Value) : Except Fault Saved := do
  let ledger ← Ledger.ofValue (← v.require "ledger")
  let states ← Ledger.readStates (← v.require "graph_lifecycle_states")
  let activeNodes ← readTexts (← v.require "active_node_ids")
  let unlocked ← (← v.getD "unlocked_graphs" (.list [])).elements
  let log ← EventLog.ofValue (← v.require "event_log")
  let ending ← readEnding v
  pure { ledger, states, activeNodes, unlocked := unlocked.map Value.plain, log, ending }

def checkLedgerState (saved : Saved) (graph : Atom) : Except SaveRefusal Unit :=
  let graph := (Value.atom graph).plain
  if Assoc.has saved.states graph then .ok () else .error (.strayLifecycle graph)

def checkState (saved : Saved) (s : Session) (entry : String × Lifecycle) :
    Except SaveRefusal Unit :=
  let (graph, state) := entry
  if (s.instance? graph).isNone then .error (.unknownGraph graph)
  else if saved.ledger.stateOf graph ≠ state then .error (.disagrees graph)
  else if state = .inProgress ∧ !Assoc.has saved.activeNodes graph then
    .error (.withoutNode graph)
  else .ok ()

def checkNode (saved : Saved) (s : Session) (entry : String × String) : Except SaveRefusal Unit :=
  let (graph, node) := entry
  match s.instance? graph with
  | none => .error (.unknownGraph graph)
  | some i =>
    if Assoc.get? saved.states graph ≠ some .inProgress then .error (.strayNode graph)
    else if i.graph.hasNode node then .ok () else .error (.unknownNode node graph)

def checkUnlocked (s : Session) (graph : String) : Except SaveRefusal Unit :=
  if (s.instance? graph).isSome then .ok () else .error (.unlocksUnknown graph)

/-- Checks a save against the registered graphs. -/
def check (saved : Saved) (s : Session) : Except SaveRefusal Unit := do
  saved.ledger.questState.forM fun (graph, _) => saved.checkLedgerState graph
  saved.states.forM (saved.checkState s)
  saved.activeNodes.forM (saved.checkNode s)
  saved.unlocked.forM (checkUnlocked s)

/-- How far a graph is played according to a save. -/
def instanceFor (saved : Saved) (ledger : Ledger) (i : Instance) : Instance :=
  { graph := i.graph
    lifecycle := ledger.stateOf i.graph.id
    activeNode := Assoc.get? saved.activeNodes i.graph.id
    unlocked := saved.unlocked.contains i.graph.id }

end Saved

namespace Engine

/-- The engine as data. -/
def serialize (e : Engine) : Except Fault Value := do
  let s := e.session
  let ledger ← s.ledger.toValue
  pure (.record [
    ("ledger", ledger),
    ("graph_lifecycle_states",
      .record (s.instances.map fun i => (i.graph.id, .text i.lifecycle.word))),
    ("active_node_ids", .record (s.activeNodes.map fun (g, n) => (g, .text n))),
    ("unlocked_graphs", .list (s.unlockedGraphs.map .text)),
    ("event_log", s.log.toValue),
    ("ending", match s.ending with
      | some (ending, failed) => .list [.text ending, .bool failed]
      | none => .null)])

/-- A step of restoring: it can be turned down, and what it did before stays done. -/
abbrev RestoreStep := EStateM SaveFault Engine

/-- Reads data and judges it; data that does not read is malformed. -/
def accept (v : Value) (s : Session) : Except SaveFault Saved :=
  match Saved.ofValue v with
  | .error why => .error (if why.isMalformed then .refused (.malformed why) else .fault why)
  | .ok saved =>
    match saved.check s with
    | .error why => .error (.refused why)
    | .ok () => .ok saved

/-- Puts entries at the end of the log one after the other. -/
def appendAll : List Entry → RestoreStep Unit
  | [] => pure ()
  | entry :: rest => do
    match (← get).session.log.append entry with
    | .error why => throw (.fault why)
    | .ok log =>
      modify fun e => { e with session := { e.session with log } }
      appendAll rest

/-- Replaces everything by what a save holds, part after part. -/
def replaceBy (saved : Saved) : RestoreStep Unit := do
  modify fun e => { e with session := { e.session with ledger := saved.ledger } }
  modify fun e => { e with session := { e.session with log := .empty } }
  appendAll saved.log.entries
  modify fun e => { e with session := { e.session with
    instances := e.session.instances.map (saved.instanceFor e.session.ledger) } }
  modify fun e => { e with session := { e.session with ending := saved.ending } }
  modify fun e => { e with diagnostics := [] }

/-- Restores a save. -/
def restore (v : Value) : RestoreStep Unit := do
  match accept v (← get).session with
  | .error why => throw why
  | .ok saved => replaceBy saved

end Engine

end Questline
