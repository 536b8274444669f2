import Questline.Graph
import Questline.History.EventLog

/-! The state of one session: the ledger and the log, the host, the registered graphs with how
far each is played, and the entry that is being written.  A step of a session may fail, and what
it did before it failed stays done. -/

namespace Questline

/-- The readings of a clock: equally spaced ones, or given ones whose last stays for ever. -/
inductive Clock
  | ticking (next step : Float) : Clock
  | scripted (next : Float) (later : List Float) : Clock

namespace Clock

def read : Clock → Float × Clock
  | .ticking next step => (next, .ticking (next + step) step)
  | .scripted next [] => (next, .scripted next [])
  | .scripted next (t :: later) => (next, .scripted t later)

/-- Lets a ticking clock go on from a given reading. -/
def setTo (c : Clock) (now : Float) : Clock :=
  match c with
  | .ticking _ step => .ticking now step
  | .scripted next later => .scripted next later

end Clock

/-- An entry that is being written. -/
structure Pending where
  kind : EntryKind
  graph : Option String := none
  node : Option String := none
  choice : Option String := none
  source : Option String := none
  outcomes : List Table := []
  transitions : List (String × Lifecycle) := []
  diagnostics : List String := []

/-- Whether an entry has changed anything yet. -/
def Pending.hasChanges (p : Pending) : Bool := !(p.outcomes.isEmpty && p.transitions.isEmpty)

/-- A registered graph and how far it is played. -/
structure Instance where
  graph : Graph
  lifecycle : Lifecycle := .unavailable
  activeNode : Option String := none
  unlocked : Bool := false

namespace Instance

def summary (i : Instance) : String :=
  s!"GraphInstance({i.graph.id} {i.lifecycle.word} at {plainText? i.activeNode})"

end Instance

structure Session where
  ledger : Ledger
  log : EventLog
  pending : Option Pending
  clock : Clock
  host : Host
  instances : List Instance
  ending : Option (String × Bool)

/-- A step of a session. -/
abbrev Step := EStateM Fault Session

namespace Session

/-- A session in which nothing has happened and no graph is registered. -/
def start (host : Host) (clock : Clock) : Session :=
  { ledger := .empty, log := .empty, pending := none, clock, host, instances := [],
    ending := none }

def instance? (s : Session) (graph : String) : Option Instance :=
  s.instances.find? (·.graph.id = graph)

/-- Changes the instance of one graph. -/
def updateInstance (s : Session) (graph : String) (f : Instance → Instance) : Session :=
  { s with instances := s.instances.map fun i => if i.graph.id = graph then f i else i }

def inEntry (s : Session) : Bool := s.pending.isSome

def hasPendingChanges (s : Session) : Bool := s.pending.any Pending.hasChanges

def diagnostics (s : Session) : List String :=
  match s.pending with
  | some p => p.diagnostics
  | none => []

end Session

namespace Step

def ofExcept {α : Type} : Except Fault α → Step α
  | .ok a => pure a
  | .error why => throw why

/-- A step of the host within a session. -/
def onHost {α : Type} (step : HostStep α) : Step α := fun s =>
  match step s.host with
  | .ok a host => .ok a { s with host }
  | .error why host => .error why { s with host }

/-- Runs a step and tells how it failed, if it did. -/
def attempt (step : Step Unit) : Step (Option Fault) := fun s =>
  match step s with
  | .ok _ s => .ok none s
  | .error why s => .ok (some why) s

/-- Runs another step after a step that failed, and fails all the same. -/
def orElseDo {α β : Type} (step : Step α) (after : Step β) : Step α := fun s =>
  match step s with
  | .ok a s => .ok a s
  | .error why s =>
    match after s with
    | .ok _ s => .error why s
    | .error later s => .error later s

end Step

end Questline
