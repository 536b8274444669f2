import Questline.CommandLine
import Std.Time.Zoned

/-! The program: it reads the files that its arguments name, plays at the terminal, and writes what
was saved. -/

namespace Questline.Main

/-- Where saves go that are not given a file. -/
def saveFolder : String := "/tmp/starquest_saves"

/-- The files that some arguments name to be read. -/
def namedFiles (arguments : List String) : List String :=
  match Options.read? arguments with
  | some o => o.config.toList ++ o.content ++ o.load.toList
  | none => []

/-- What stands at these paths: files, or folders where files should be. -/
def readFiles (here : Place) : List String → IO Files
  | [] => pure { here }
  | path :: rest => do
    let files ← readFiles here rest
    match ← (IO.FS.readBinFile path).toBaseIO with
    | .ok bytes => pure (files.having path bytes.data.toList)
    | .error (.inappropriateType _ 21 _) =>
      match Files.makeFolders path files with
      | .ok _ files | .error _ files => pure files
    | .error (.inappropriateType _ _ _) => pure (files.having (Files.folderOf path) [])
    | .error _ => pure files

def wholePath (place : Place) : String := "/" ++ "/".intercalate place

/-- Makes what was not there before or has changed. -/
def writeFiles (before after : Files) : IO Unit := do
  after.folders.forM fun place => do
    unless before.folders.contains place do IO.FS.createDirAll (wholePath place)
  after.files.forM fun (place, bytes) => do
    unless before.fileAt? place == some bytes do
      IO.FS.writeBinFile (wholePath place) ⟨bytes.toArray⟩

/-- The folder that the program is started in. -/
def readHere : IO Place := do
  let path ← IO.currentDir
  pure ((path.toString.splitOn "/").filter (· ≠ ""))

/-- Seconds since the beginning of 1970. -/
def readClock : IO Float := do
  let now ← Std.Time.Timestamp.now
  pure (Float.ofInt now.toNanosecondsSinceUnixEpoch.val / 1000000000)

def readDate : IO Date := do
  let now ← Std.Time.PlainDateTime.now
  pure { year := now.year.toInt.toNat, month := now.month.val.toNat, day := now.day.val.toNat
         hour := now.hour.val.toNat, minute := now.minute.val.toNat
         second := now.second.val.toNat, micro := now.nanosecond.val.toNat / 1000 }

def readSaver : IO Saver := do
  let date ← readDate
  let time ← readClock
  pure { folder := saveFolder, date := fun _ => date, time := fun _ => time }

/-- The console with its clocks set to the present. -/
def atPresent (c : Console) : IO Console := do
  let saver ← readSaver
  let now ← readClock
  let session := { c.engine.session with clock := .scripted now [] }
  pure { c with engine := { c.engine with session }
                disk := c.disk.map fun d => { d with saver } }

def outcomeOf {α : Type} : EStateM.Result Fault Console α → Except Fault α × Console
  | .ok a c => (.ok a, c)
  | .error why c => (.error why, c)

def filesOf (c : Console) : Files := (c.disk.map Disk.files).getD {}

/-- Takes a step of the console and puts out what it shows. -/
def take {α : Type} (step : ConsoleStep α) (c : Console) : IO (Except Fault α × Console) := do
  let (result, after) := outcomeOf (step (← atPresent c))
  IO.print after.transcript
  (← IO.getStdout).flush
  writeFiles (filesOf c) (filesOf after)
  pure (result, { after with shown := [] })

def fail (why : Fault) : IO UInt32 := do
  IO.eprintln why.message
  pure 1

/-- Takes turns at the terminal until the player quits, the input ends, or the story has ended. -/
partial def play (cfg : Settings) (c : Console) : IO UInt32 := do
  if c.engine.session.ending.isSome then
    finish c
  else
    let (asked, c) ← take (Console.ask cfg) c
    if let .error why := asked then return ← fail why
    let line ← (← IO.getStdin).getLine
    if line.isEmpty then return ← finish c
    match ← take (Console.handle cfg line) c with
    | (.error why, _) => fail why
    | (.ok true, c) => play cfg c
    | (.ok false, c) => finish c
where
  finish (c : Console) : IO UInt32 := do
    let _ ← take Console.showEnding c
    pure 0

end Questline.Main

open Questline in
def main (arguments : List String) : IO UInt32 := do
  let files ← Main.readFiles (← Main.readHere) (Main.namedFiles arguments)
  let (cfg, prepared) := CommandLine.prepare .builtIn arguments (← Main.readSaver)
    (.scripted (← Main.readClock) []) files []
  Main.writeFiles files prepared.files
  match prepared.next with
  | .inl (.exit code output errors) =>
    IO.print output
    IO.eprint errors
    pure (UInt32.ofNat code)
  | .inl (.fault why) => Main.fail why
  | .inl (.toml why) =>
    IO.eprintln why.message
    pure 1
  | .inr console => Main.play cfg console
