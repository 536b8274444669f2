import Questline.Engine.Saved
import Questline.Files
import Questline.MessagePack.Decode
import Questline.Save.Date.Reading

/-! Save files: a header that tells what the file is, and behind it the state of the engine, both
as MessagePack. -/

namespace Questline

open MessagePack (Bytes)

/-- What a save file says about itself. -/
structure SaveInfo where
  file : String
  version : Value
  engineVersion : Value
  date : Date

def SaveInfo.summary (i : SaveInfo) : String :=
  s!"SaveGame({i.file} v{i.version.plain} {i.date.write})"

namespace Save

/-- The version of this engine, written into every save file. -/
def engineVersion : String := "0.1.0"

def header (cfg : Settings) (date : Date) : Value :=
  .record [
    ("magic", .text cfg.saveMagic),
    ("format_version", .int cfg.saveVersion),
    ("engine_version", .text engineVersion),
    ("save_date", .text date.write)]

/-- The bytes of a save file. -/
def encode (cfg : Settings) (date : Date) (e : Engine) : Except Fault Bytes := do
  let first ← MessagePack.encode (header cfg date)
  let state ← e.serialize
  return first ++ (← MessagePack.encode state)

/-- How a part of the file that does not decode is turned down. -/
def partFault (part : String) : MessagePack.DecodeFault → SaveFault
  | .outOfData => .refused (.truncated part)
  | .badFormat => .refused (.corrupt part "FormatError")
  | .badText => .refused (.corrupt part "UnicodeDecodeError")
  | .badLength | .badExtension => .refused (.corrupt part "ValueError")
  | .tooDeep => .refused (.corrupt part "StackError")
  | .badKey => .fault .mistyped

def decodePart (part : String) (bytes : Bytes) : Except SaveFault (Value × Bytes) :=
  (MessagePack.decode bytes).mapError (partFault part)

/-- Whether a value is the one expected, numbers being compared by value. -/
def isExpected (v : Value) (expected : Atom) : Bool :=
  match v with
  | .atom a => a == expected
  | _ => false

def readInfo (file : String) (header : Value) : Except Fault SaveInfo := do
  let version ← header.require "format_version"
  let engineVersion ← header.require "engine_version"
  let date ← Date.ofValue (← header.require "save_date")
  pure { file, version, engineVersion, date }

/-- Reads a header, which has to be one of this format. -/
def checkHeader (cfg : Settings) (file : String) (v : Value) : Except SaveFault SaveInfo :=
  match v with
  | .table fields =>
    if !isExpected (Table.field fields "magic") (.text cfg.saveMagic) then
      .error (.refused .notSave)
    else if !isExpected (Table.field fields "format_version") (.int cfg.saveVersion) then
      .error (.refused (.unsupported (Table.field fields "format_version")))
    else (readInfo file v).mapError fun why => .refused (.badHeader why)
  | _ => .error (.refused .notSave)

/-- What a file says about itself. -/
def info (cfg : Settings) (file : String) (bytes : Bytes) : Except SaveFault SaveInfo := do
  let (v, _) ← decodePart "header" bytes
  checkHeader cfg file v

/-- What a file says about itself, and the state that it holds. -/
def decode (cfg : Settings) (file : String) (bytes : Bytes) :
    Except SaveFault (SaveInfo × Value) := do
  let (v, rest) ← decodePart "header" bytes
  let info ← checkHeader cfg file v
  let (state, _) ← decodePart "narrative state" rest
  match state with
  | .table _ => pure (info, state)
  | _ => throw (.refused .notTable)

/-- Restores the engine from the bytes of a file. -/
def load (cfg : Settings) (file : String) (bytes : Bytes) : Engine.RestoreStep SaveInfo := do
  match decode cfg file bytes with
  | .error why => throw why
  | .ok (info, state) =>
    Engine.restore state
    pure info

end Save

/-- Where and when saves are made: the folder, how many there have been, and the date of each and
its time in seconds, counted from the first. -/
structure Saver where
  folder : String
  made : Nat := 0
  date : Nat → Date
  time : Nat → Float

namespace Saver

/-- The date of the next save. -/
def nextDate (s : Saver) : Date := s.date s.made

/-- The file that the next save goes to when none is named: it bears the time. -/
def nextFile (s : Saver) : String :=
  s!"{s.folder}/save_{Decimal.writeFloat (s.time s.made)}.sqsave"

def autosaveFile (s : Saver) : String := s!"{s.folder}/autosave.sqsave"

/-- Whether a name in the folder is one that a save has. -/
def isSaveName (name : String) : Bool :=
  let cs := name.toList
  ("save_".toList.isPrefixOf cs && ".sqsave".toList.isSuffixOf (cs.drop 5)) ||
    name = "autosave.sqsave"

/-- Inserts a save before the first that is not later. -/
def insertLatest (i : SaveInfo) : List SaveInfo → Except Fault (List SaveInfo)
  | [] => .ok [i]
  | j :: rest => do
    if ← i.date.isAfter j.date then pure (i :: j :: rest) else return j :: (← insertLatest i rest)

/-- The saves in the folder, latest first.  Files that are no saves are passed over. -/
def list (s : Saver) (cfg : Settings) (files : Files) : Except Fault (List SaveInfo) :=
  ((files.namesIn s.folder).filter isSaveName).foldlM (fun found name => do
    let file := s!"{s.folder}/{name}"
    match Save.info cfg file (← files.read file) with
    | .ok i => insertLatest i found
    | .error (.refused _) => pure found
    | .error (.fault why) => throw why) []

end Saver

/-- The saver and the files that it writes to. -/
structure Disk where
  saver : Saver
  files : Files := {}

/-- A step on the disk. -/
abbrev DiskStep := EStateM Fault Disk

namespace Disk

def onFiles {α : Type} (step : FilesStep α) : DiskStep α := fun d =>
  match step d.files with
  | .ok a files => .ok a { d with files }
  | .error why files => .error why { d with files }

/-- Saves the engine to a file, and tells which.  The folder is made first, and the file appears
when it is complete. -/
def save (cfg : Settings) (e : Engine) (file : Option String) : DiskStep String := do
  let d ← get
  let name := file.getD d.saver.nextFile
  onFiles (Files.makeWay name)
  modify fun d => { d with saver := { d.saver with made := d.saver.made + 1 } }
  match Save.encode cfg d.saver.nextDate e with
  | .error why => throw why
  | .ok bytes =>
    onFiles (Files.moveTo name bytes)
    return name

/-- Restores the engine from a file. -/
def load (d : Disk) (cfg : Settings) (file : String) : Engine.RestoreStep SaveInfo := do
  match d.files.read file with
  | .error why => throw (.fault why)
  | .ok bytes => Save.load cfg file bytes

end Disk

end Questline
