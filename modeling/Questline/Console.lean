import Questline.Save

/-! The console: it shows the current node with its choices, numbered if they are legal, reads a
line, and does what the line says. -/

namespace Questline

/-- What the console puts out. -/
inductive Shown
  | line : String → Shown
  | prompt : Shown

structure Console where
  engine : Engine
  /-- Where saves go, if they can be made. -/
  disk : Option Disk
  /-- The file to save to, or how saving fails. -/
  saveFile : Except Fault (Option String)
  /-- The graph that choices are taken from. -/
  current : Option String
  /-- The lines that have not been read. -/
  input : List String
  /-- What has been put out, last first. -/
  shown : List Shown := []

/-- A step of the console. -/
abbrev ConsoleStep := EStateM Fault Console

namespace Console

def helpText : String :=
  "commands:\n" ++
  "  <number>         take a choice\n" ++
  "  start <graph>    start an available quest or dialogue\n" ++
  "  abandon <graph>  give up on a quest\n" ++
  "  travel <place>   move to an unlocked location\n" ++
  "  status           flags, reputation, relationships and quests\n" ++
  "  history          the story so far\n" ++
  "  save             save to the --save file\n" ++
  "  quit"

/-- A console at the current quest of an engine. -/
def start (engine : Engine) (disk : Option Disk) (saveFile : Except Fault (Option String))
    (input : List String) : Console :=
  { engine, disk, saveFile, current := engine.session.currentGraph, input }

/-- The lines put out so far. -/
def printed (c : Console) : List String :=
  c.shown.reverse.filterMap fun
    | .line s => some s
    | .prompt => none

/-- Everything put out so far as one text; the prompt does not end its line. -/
def transcript (c : Console) : String :=
  String.join (c.shown.reverse.map fun
    | .line s => s ++ "\n"
    | .prompt => "> ")

def print (s : String) : ConsoleStep Unit :=
  modify fun c => { c with shown := .line s :: c.shown }

def printAll (lines : List String) : ConsoleStep Unit := lines.forM print

/-- A step of the engine within the console. -/
def onEngine {α : Type} (step : EngineStep α) : ConsoleStep α := fun c =>
  match step c.engine with
  | .ok a engine => .ok a { c with engine }
  | .error why engine => .error why { c with engine }

def ofExcept {α : Type} : Except Fault α → ConsoleStep α
  | .ok a => pure a
  | .error why => throw why

/-- Falls back to the current quest when the graph shown so far is not in progress any more. -/
def chooseCurrent : ConsoleStep Unit := do
  let c ← get
  let stays ← match c.current with
    | none => pure false
    | some g => do
      let state ← ofExcept (c.engine.lifecycle g)
      pure (state = .inProgress)
  unless stays do modify fun c => { c with current := c.engine.session.currentGraph }

/-- The node of the current graph, which has one. -/
def presented (cfg : Settings) (graph : String) : ConsoleStep PresentedNode := do
  match ← onEngine (Engine.present cfg (some graph)) with
  | some n => pure n
  | none => throw .unexpected

def numbered (choices : List PresentedChoice) : List String :=
  choices.zipIdx.map fun (c, i) => s!"  {i + 1}. {c.text}"

def barred (choices : List PresentedChoice) : List String :=
  choices.map fun c => "  -. " ++ c.text ++ " (" ++ "; ".intercalate c.reasons ++ ")"

/-- A text that is not empty. -/
def nonEmpty? (s : Option String) : Option String := s.filter (· ≠ "")

/-- The names, or a word for none. -/
def orNone (names : List String) : String :=
  let joined := ", ".intercalate names
  if joined = "" then "none" else joined

def showNode (cfg : Settings) : ConsoleStep Unit := do
  chooseCurrent
  let c ← get
  match c.current with
  | none =>
    print s!"nothing in progress. available: {orNone (c.engine.session.graphsIn .available)}"
  | some g =>
    let n ← presented cfg g
    let title := ((c.engine.session.instance? g).map (·.graph.title)).getD ""
    printAll (["", s!"== {title} =="] ++
      ((nonEmpty? n.title).map fun t => s!"-- {t} --").toList ++
      [match nonEmpty? n.speaker with
        | some speaker => s!"{speaker}: {n.text}"
        | none => n.text] ++
      numbered n.legal ++ barred n.illegal)

/-- Scores by name. -/
def sortedScores (scores : Assoc String Int) : List (String × Int) :=
  scores.mergeSort fun a b => decide (a.1 ≤ b.1)

/-- The flags as texts; a flag that is none cannot be shown. -/
def flagTexts (l : Ledger) : Except Fault (List String) := do
  (← l.sortedFlags).mapM fun
    | .text s => .ok s
    | _ => .error .mistyped

def showStatus (cfg : Settings) : ConsoleStep Unit := do
  let location ← onEngine (Engine.onSession (Step.onHost Host.currentLocation))
  print s!"location: {plainText? location}"
  let s := (← get).engine.session
  print s!"flags: {orNone (← ofExcept (flagTexts s.ledger))}"
  (sortedScores s.ledger.reputation).forM fun (faction, value) => do
    let title ← ofExcept (Scale.reputationTitle cfg value)
    print s!"  {faction}: {value} ({title.plain})"
  (sortedScores s.ledger.relationship).forM fun (companion, value) => do
    let level ← ofExcept (Scale.relationshipLevel cfg value)
    print s!"  {companion}: {value} ({level})"
  s.mainLine.forM fun (graph, state) => print s!"  {graph}: {state.word}"

/-- A text set to the right or left of a field. -/
def padLeft (width : Nat) (s : String) : String :=
  String.ofList (List.replicate (width - s.length) ' ') ++ s

def padRight (width : Nat) (s : String) : String :=
  s ++ String.ofList (List.replicate (width - s.length) ' ')

/-- The first value that says something, as text. -/
def firstTrue (values : List Value) : String :=
  ((values.find? Value.isTrue).map Value.plain).getD ""

def historyLine (e : Entry) : String :=
  padLeft 4 (toString e.id) ++ " " ++ padRight 9 e.kind.word ++ " " ++
    firstTrue [e.graph, e.source] ++ " " ++ firstTrue [e.choice]

def showHistory : ConsoleStep Unit := do
  printAll ((← get).engine.session.log.entries.map historyLine)

def printDiagnostics (r : Resolution) : ConsoleStep Unit :=
  printAll (r.diagnostics.map fun d => s!"! {d}")

/-- Takes the choice with a number, if there is one. -/
def takeChoice (cfg : Settings) (graph : String) (number : Int) : ConsoleStep Unit := do
  let n ← presented cfg graph
  match (if 1 ≤ number then n.legal[number.toNat - 1]? else none) with
  | none => print "no such choice"
  | some choice =>
    let r ← onEngine (Engine.asStep (Engine.choose cfg graph choice.id))
    printDiagnostics r
    modify fun c => { c with current := r.activeGraph }

def handleNumber (cfg : Settings) (command : String) : ConsoleStep Unit := do
  match (← get).current with
  | none => print "nothing to choose from"
  | some g =>
    takeChoice cfg g (← ofExcept (Value.readNumeral command))

def handleStart (cfg : Settings) (graph : String) : ConsoleStep Unit := do
  let r ← onEngine (Engine.asStep (Engine.start cfg graph))
  if r.accepted then modify fun c => { c with current := r.activeGraph }
  printDiagnostics r

def handleAbandon (cfg : Settings) (graph : String) : ConsoleStep Unit := do
  let target := ((nonEmpty? (some graph)).or (← get).current).getD ""
  printDiagnostics (← onEngine (Engine.asStep (Engine.abandon cfg target)))

/-- Moves the player; where that is refused nothing else happens. -/
def handleTravel (place : String) : ConsoleStep Unit := do
  let c ← get
  match Host.travel place c.engine.session.host with
  | .error why _ => if why.isRefusal then print s!"! {why.message}" else throw why
  | .ok _ host =>
    modify fun c => { c with engine := { c.engine with session := { c.engine.session with host } } }
    let _ ← onEngine Engine.refresh

def handleSave (cfg : Settings) : ConsoleStep Unit := do
  let c ← get
  match c.disk with
  | none => print "no save file given"
  | some disk =>
    match Disk.save cfg c.engine (← ofExcept c.saveFile) disk with
    | .ok name disk =>
      set { c with disk := some disk }
      print s!"saved to {name}"
    | .error why disk =>
      set { c with disk := some disk }
      throw why

/-- Does what a line says; tells whether to go on. -/
def handle (cfg : Settings) (line : String) : ConsoleStep Bool := do
  let (command, rest) := Text.cutAt ' ' (Text.trim line)
  let arg := Text.trim rest
  if ["q", "quit", "exit"].contains command then return false
  if Text.isNumeral command then handleNumber cfg command
  else if command = "start" then handleStart cfg arg
  else if command = "abandon" then handleAbandon cfg arg
  else if command = "travel" then handleTravel arg
  else if command = "status" then showStatus cfg
  else if command = "history" then showHistory
  else if command = "save" then handleSave cfg
  else print helpText
  return true

/-- Shows the node and asks for a line. -/
def ask (cfg : Settings) : ConsoleStep Unit := do
  showNode cfg
  modify fun c => { c with shown := .prompt :: c.shown }

/-- Asks for a line and handles the one that is given; tells whether to go on. -/
def turn (cfg : Settings) (line : Option String) : ConsoleStep Bool := do
  ask cfg
  match line with
  | none => return false
  | some line =>
    modify fun c => { c with input := c.input.drop 1 }
    handle cfg line

/-- Takes turns until the player quits, the lines are used up, or the story has ended. -/
def takeTurns (cfg : Settings) : List String → ConsoleStep Unit
  | [] => do
    unless (← get).engine.session.ending.isSome do
      let _ ← turn cfg none
  | line :: rest => do
    unless (← get).engine.session.ending.isSome do
      if ← turn cfg (some line) then takeTurns cfg rest

/-- Tells how the story ended, if it has. -/
def showEnding : ConsoleStep Unit := do
  match (← get).engine.session.ending with
  | none => pure ()
  | some (ending, failed) =>
    let suffix := if failed then " (failed)" else ""
    print s!"THE END: {ending}{suffix}"

/-- Plays the lines that are there to be read. -/
def run (cfg : Settings) : ConsoleStep Unit := do
  takeTurns cfg (← get).input
  showEnding

end Console

end Questline
