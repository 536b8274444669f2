import Questline.Graph.Validation
import Questline.History.Replay
import Questline.Session.Walk

/-! The engine is what a game talks to.  Ordinary requests never fail: what cannot be done comes
back as a rejected resolution, and everything worth knowing is kept as a diagnostic. -/

namespace Questline

structure Engine where
  session : Session
  diagnostics : List String := []

/-- A step of the engine. -/
abbrev EngineStep := EStateM Fault Engine

/-- Something reported from outside: an outcome as data or one ready to apply. -/
inductive Report
  | data (v : Value) : Report
  | ready (o : Outcome) : Report

namespace Engine

/-- A step of the session within the engine. -/
def onSession {α : Type} (step : Step α) : EngineStep α := fun e =>
  match step e.session with
  | .ok a session => .ok a { e with session }
  | .error why session => .error why { e with session }

def diagnose (messages : List String) : EngineStep Unit :=
  modify fun e => { e with diagnostics := e.diagnostics ++ messages }

/-- Registers further graphs, all of them or none. -/
def register (e : Engine) (graphs : List Graph) : Except ContentFault Engine :=
  (Graph.validateAll graphs (e.session.instances.map (·.graph.id))).map fun accepted =>
    { e with session := { e.session with
      instances := e.session.instances ++ accepted.map fun graph => { graph } } }

/-- An engine over some graphs, in which nothing has happened. -/
def ofGraphs (graphs : List Graph) (host : Host) (clock : Clock) : Except ContentFault Engine :=
  ({ session := .start host clock } : Engine).register graphs

/-- How a failed request is answered. -/
def rejection : Fault → String
  | .illegal why => why.message
  | why => s!"internal error: {why.message}"

/-- Makes a request; if it fails, the answer is a rejection. -/
def request (graph : String) (choice : Option String) (step : Step Resolution) (e : Engine) :
    Resolution × Engine :=
  match step e.session with
  | .ok r session => (r, { session, diagnostics := e.diagnostics ++ r.diagnostics })
  | .error why session =>
    let r := Resolution.rejected graph choice (rejection why)
    (r, { session, diagnostics := e.diagnostics ++ r.diagnostics })

def start (cfg : Settings) (graph : String) : Engine → Resolution × Engine :=
  request graph none (Step.start cfg graph)

def choose (cfg : Settings) (graph choice : String) : Engine → Resolution × Engine :=
  request graph (some choice) (Step.choose cfg graph choice)

def abandon (cfg : Settings) (graph : String) : Engine → Resolution × Engine :=
  request graph none (Step.abandon cfg graph)

/-- A request as a step of the engine, which never fails. -/
def asStep (f : Engine → Resolution × Engine) : EngineStep Resolution := fun e =>
  let (r, e) := f e
  .ok r e

/-- Forgets everything that has happened. -/
def forget (e : Engine) : Engine :=
  { session := { e.session with
      ledger := .empty
      log := .empty
      instances := e.session.instances.map fun i => { graph := i.graph }
      ending := none }
    diagnostics := [] }

/-- Begins anew, and starts the main quest if asked to and if there is one. -/
def newGame (cfg : Settings) (startMain : Bool) : EngineStep (Option Resolution) := do
  modify forget
  onSession do
    Step.openEntry .newGame none none none none
    Step.refreshAvailability
    let _ ← Step.commit
  if startMain ∧ ((← get).session.instance? cfg.mainQuest).isSome then
    some <$> asStep (start cfg cfg.mainQuest)
  else pure none

/-- Reads reported outcomes, each named for its source and place. -/
def readReports (source : String) : Nat → List Report → Except Fault (List Outcome)
  | _, [] => .ok []
  | place, .ready o :: rest => (readReports source (place + 1) rest).map (o :: ·)
  | place, .data v :: rest => do
    let o ← Outcome.read v (some (.text s!"{source}:{place}"))
    return o :: (← readReports source (place + 1) rest)

/-- Applies outcomes that come from outside the story as one entry.  After the end, or if one of
them is refused, none is applied. -/
def applyExternal (cfg : Settings) (reports : List Report) (source : String) :
    EngineStep (Option Entry) := do
  if (← get).session.ending.isSome then
    diagnose [s!"ignoring outcomes from {source}, the story has ended"]
    return none
  match readReports source 0 reports with
  | .error why =>
    if why.isRefusal then
      diagnose [s!"rejected outcomes from {source}: {why.message}"]
      return none
    else throw why
  | .ok outcomes =>
    onSession do
      Step.openEntry .external none none none (some source)
      Step.settling (Step.applyOutcomes cfg {} outcomes)
    diagnose (← get).session.diagnostics
    some <$> onSession Step.commit

/-- Checks anew which graphs are available, and tells which have become so. -/
def refresh : EngineStep (List String) := do
  let before := (← get).session.graphsIn .available
  onSession do
    Step.openEntry .refresh none none none none
    Step.settling Step.refreshAvailability
    if (← get).hasPendingChanges then
      let _ ← Step.commit
    else Step.discard
  return ((← get).session.graphsIn .available).filter fun g => !before.contains g

/-- The active node of a graph, or of the current quest, as it is shown. -/
def present (cfg : Settings) (graph : Option String) : EngineStep (Option PresentedNode) := do
  let s := (← get).session
  match graph.or s.currentGraph with
  | none => pure none
  | some g => if (s.instance? g).isSome then onSession (Step.present cfg g) else pure none

/-- The state of a graph, which has to be registered. -/
def lifecycle (e : Engine) (graph : String) : Except Fault Lifecycle :=
  match e.session.instance? graph with
  | some i => .ok i.lifecycle
  | none => .error (.illegal (.unknownGraph graph))

def history (e : Engine) (since afterId : Value) : Except Fault (List Entry) :=
  e.session.log.query since afterId

/-- The ledger that the log leads to. -/
def replay (cfg : Settings) (e : Engine) : Except Fault Ledger :=
  Ledger.replay cfg e.session.log.entries

/-- Whether the log leads to the ledger as it is.  Where it does not, the warning shows both
ledgers, so the flags of both have to have an order. -/
def verifyReplay (cfg : Settings) (e : Engine) : Except Fault Bool := do
  let replayed ← e.replay cfg
  if replayed.same e.session.ledger then return true
  let _ ← replayed.describe
  let _ ← e.session.ledger.describe
  return false

end Engine

end Questline
