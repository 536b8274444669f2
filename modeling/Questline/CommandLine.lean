import Questline.CommandLine.Options
import Questline.Console
import Questline.Drawing
import Questline.Settings.Check
import Questline.Story.BuiltIn

/-! The command line: it loads settings and content, and then validates, draws or plays. -/

namespace Questline.CommandLine

/-- How a run of the program ends before there is anything to play. -/
inductive Stop
  /-- With a code and what was printed on the two channels. -/
  | exit (code : Nat) (output errors : String) : Stop
  | fault (why : Fault) : Stop
  /-- A content file is no TOML. -/
  | toml (why : Toml.Reason) : Stop

/-- What came of a run: files that were written, and how it ended or what there is to play. -/
structure Prepared where
  files : Files
  next : Stop ⊕ Console

def exitWith (message : String) : Stop := .exit 1 "" (message ++ "\n")

/-- The text of a file. -/
def textOf (files : Files) (path : String) : Except Fault String := do
  let text ← (Text.decode (← files.read path)).mapError .notText
  return String.ofList (Text.unifyLines text.toList)

/-- The levels that messages can be logged at. -/
def logLevels : List String :=
  ["CRITICAL", "FATAL", "ERROR", "WARN", "WARNING", "INFO", "DEBUG", "NOTSET"]

def checkLogLevel (level : String) : Except Fault Unit :=
  let name := Text.upper level
  if logLevels.contains name then .ok () else .error (.refused (.unknownLogLevel name))

/-- A value that is given and not empty. -/
def given? (s : Option String) : Option String := s.filter (· ≠ "")

/-- The settings of a file laid over the built-in ones, or the given ones where no file is named. -/
def settingsFrom (base : Settings) (files : Files) (config : Option String) :
    Except Stop Settings :=
  match given? config with
  | none => .ok base
  | some path =>
    match textOf files path with
    | .error (.notText why) => .error (exitWith why.message)
    | .error why => .error (.fault why)
    | .ok text =>
      match Toml.read text with
      | .error (.malformed why place) => .error (exitWith (why.located text place))
      | .error (.fault why) => .error (.fault why)
      | .ok override =>
        match Settings.load override with
        | .ok tree => .ok (.ofTree tree)
        | .error (.fault why) =>
          .error (if why.isRefusal then exitWith why.message else .fault why)
        | .error why => .error (exitWith why.message)

def graphsFrom (cfg : Settings) (files : Files) (extra : List String) : Except Stop (List Graph) :=
  match Story.load cfg cfg.contentFiles (extra.map fun path => (path, textOf files path)) with
  | .ok graphs => .ok graphs
  | .error (.content (.bad problems)) => .error (exitWith problems.message)
  | .error (.content (.fault why)) => .error (.fault why)
  | .error (.toml why) => .error (.toml why)

/-- A path in a folder. -/
def inFolder (folder file : String) : String :=
  if file.startsWith "/" then file
  else if folder.endsWith "/" then folder ++ file
  else folder ++ "/" ++ file

/-- Writes the drawing of every graph into a folder; tells the files. -/
def drawAll (cfg : Settings) (folder : String) (graphs : List Graph) :
    FilesStep (List String) := do
  Files.makeFolders folder
  graphs.mapM fun g => do
    match g.drawing cfg with
    | .error why => throw why
    | .ok drawing =>
      let path := inFolder folder s!"{g.id}.gv"
      Files.put path (MessagePack.textBytes drawing.render)
      return path

/-- Skill levels, each given as a name, an equals sign and a number. -/
def readSkills (values : List String) : Except Fault (Assoc String Int) :=
  values.foldlM (fun skills v =>
    let (name, level) := Text.cutAt '=' v
    return Assoc.put skills name (← Value.readNumeral level)) []

/-- Whether a fault lies with the files and not with a path that is none. -/
def isOutside : Fault → Bool
  | .file why _ => why ≠ .zeroByte
  | _ => false

/-- Restores a save, or begins a new game. -/
def begin (cfg : Settings) (disk : Disk) (load : Option String) (e : Engine) :
    Except Stop Engine :=
  match given? load with
  | some path =>
    match disk.load cfg path e with
    | .ok _ e => .ok e
    | .error (.refused why) _ => .error (exitWith s!"could not load {path}: {why.message}")
    | .error (.fault why) _ => .error (if isOutside why
        then exitWith s!"could not load {path}: {why.message}" else .fault why)
  | none =>
    match Engine.newGame cfg true e with
    | .ok _ e => .ok e
    | .error why _ => .error (.fault why)

/-- The console that options ask for, over content that has been loaded. -/
def console (cfg : Settings) (o : Options) (graphs : List Graph) (saver : Saver) (clock : Clock)
    (files : Files) (input : List String) : Except Stop Console := do
  let skills ← (readSkills o.skill).mapError .fault
  let host : Host := { skills }
  let e ← match Engine.ofGraphs graphs host clock with
    | .ok e => pure e
    | .error (.bad problems) => throw (exitWith problems.message)
    | .error (.fault why) => throw (.fault why)
  let disk : Disk := { saver, files }
  let e ← begin cfg disk o.load e
  pure (Console.start e (some disk) o.save input)

/-- Everything up to the console, and the settings to play by. -/
def prepare (base : Settings) (arguments : List String) (saver : Saver) (clock : Clock)
    (files : Files) (input : List String) : Settings × Prepared :=
  match Options.read? arguments with
  | none => (base, ⟨files, .inl (.exit 2 "" "")⟩)
  | some o =>
    if o.help then (base, ⟨files, .inl (.exit 0 "" "")⟩)
    else
      let settings := do
        (o.logLevel.bind checkLogLevel).mapError Stop.fault
        settingsFrom base files o.config
      match settings with
      | .error stop => (base, ⟨files, .inl stop⟩)
      | .ok cfg =>
        match graphsFrom cfg files o.content with
        | .error stop => (cfg, ⟨files, .inl stop⟩)
        | .ok graphs =>
          if o.validate then
            (cfg, ⟨files, .inl (.exit 0 s!"{graphs.length} graphs ok\n" "")⟩)
          else match given? o.viz with
            | some folder =>
              match drawAll cfg folder graphs files with
              | .ok paths files =>
                (cfg, ⟨files, .inl (.exit 0 (String.join (paths.map (· ++ "\n"))) "")⟩)
              | .error why files => (cfg, ⟨files, .inl (.fault why)⟩)
            | none =>
              match console cfg o graphs saver clock files input with
              | .ok c => (cfg, ⟨files, .inr c⟩)
              | .error stop => (cfg, ⟨files, .inl stop⟩)

/-- The lines of a text; nothing stands behind the last line end. -/
def linesOf (s : String) : List String :=
  let lines := s.splitOn "\n"
  if lines.getLast? = some "" then lines.dropLast else lines

end Questline.CommandLine
