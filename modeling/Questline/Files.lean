import Questline.Fault
import Questline.MessagePack

/-! A tree of files and folders.  A path is followed part by part from the root or from the folder
that one is in: empty parts and `.` stay where they are, `..` goes up, and all else goes down. -/

namespace Questline

open MessagePack (Bytes)

/-- The names that lead from the root to a file or a folder. -/
abbrev Place := List String

structure Files where
  /-- Where the paths start that do not start at the root. -/
  here : Place := []
  folders : List Place := []
  files : Assoc Place Bytes := []

/-- A step on files: it may fail, and what it did before stays done. -/
abbrev FilesStep := EStateM Fault Files

/-- What a path names that need not be there: a name in a folder, or nothing for the root and for
paths that end in one or two dots. -/
structure Target where
  folder : Place
  name : Option String
  /-- Whether the path ends in a slash. -/
  slashed : Bool

namespace Files

/-- The way to where one is consists of folders. -/
def isFolderAt (files : Files) (place : Place) : Bool :=
  place.isPrefixOf files.here || files.folders.contains place

def fileAt? (files : Files) (place : Place) : Option Bytes := Assoc.get? files.files place

def isAt (files : Files) (place : Place) : Bool :=
  files.isFolderAt place || (files.fileAt? place).isSome

/-- Names are limited to this many bytes. -/
def maxName : Nat := 255

/-- Paths are limited to this many bytes. -/
def maxPath : Nat := 4095

/-- Makes sure that one can go on from a place. -/
def enter (files : Files) (place : Place) : Except FileFault Unit :=
  if files.isFolderAt place then .ok ()
  else .error (if (files.fileAt? place).isSome then .notFolder else .missing)

/-- Where parts lead from a place; at the end there need not be anything. -/
def follow (files : Files) (place : Place) : List String → Except FileFault Place
  | [] => .ok place
  | part :: rest => do
    files.enter place
    if part = "" ∨ part = "." then files.follow place rest
    else if part = ".." then files.follow place.dropLast rest
    else if part.utf8ByteSize > maxName then .error .nameTooLong
    else files.follow (place ++ [part]) rest

/-- Where a path starts. -/
def start (files : Files) (path : String) : Place := if path.startsWith "/" then [] else files.here

def checkPath (path : String) : Except FileFault Unit :=
  if path.contains '\x00' then .error .zeroByte
  else if path = "" then .error .missing
  else if path.utf8ByteSize > maxPath then .error .nameTooLong
  else .ok ()

def place (files : Files) (path : String) : Except FileFault Place := do
  checkPath path
  files.follow (files.start path) (path.splitOn "/")

/-- What a path names, the folder being there. -/
def target (files : Files) (path : String) : Except FileFault Target := do
  checkPath path
  let parts := path.splitOn "/"
  let slashed := parts.getLast? = some ""
  match parts.reverse.dropWhile (· = "") with
  | [] => pure ⟨[], none, true⟩
  | last :: before =>
    let folder ← files.follow (files.start path) before.reverse
    files.enter folder
    if last = "." ∨ last = ".." then pure ⟨folder, none, slashed⟩
    else if last.utf8ByteSize > maxName then .error .nameTooLong
    else pure ⟨folder, some last, slashed⟩

def isThere (files : Files) (path : String) : Bool :=
  match files.place path with
  | .ok place => files.isAt place
  | .error _ => false

def isFolder (files : Files) (path : String) : Bool :=
  match files.place path with
  | .ok place => files.isFolderAt place
  | .error _ => false

def bytesAt (files : Files) (place : Place) : Except FileFault Bytes :=
  if files.isFolderAt place then .error .isFolder
  else (files.fileAt? place).elim (.error .missing) .ok

def read (files : Files) (path : String) : Except Fault Bytes :=
  ((files.place path).bind files.bytesAt).mapError (.file · path)

/-- The names of what is directly in a folder. -/
def namesIn (files : Files) (path : String) : List String :=
  match files.place path with
  | .error _ => []
  | .ok folder =>
    (files.folders ++ files.files.map Prod.fst).filterMap fun place =>
      if place.dropLast = folder then place.getLast? else none

/-- The paths of all files in and below the folder that one is in. -/
def paths (files : Files) : List String :=
  files.files.filterMap fun (place, _) =>
    if files.here.isPrefixOf place then some ("/".intercalate (place.drop files.here.length))
    else none

/-- The path of the folder that a path leads into, as it is written. -/
def folderOf (path : String) : String :=
  let head := path.toList.reverse.dropWhile (· != '/')
  let trimmed := head.dropWhile (· == '/')
  String.ofList (if trimmed.isEmpty then head else trimmed.reverse)

/-- Does something with what a path names. -/
def atTarget (path : String) (step : Target → Files → Except FileFault Files) : FilesStep Unit :=
  fun files =>
    match (files.target path).bind fun t => step t files with
    | .ok files => .ok () files
    | .error why => .error (.file why path) files

/-- Makes one folder. -/
def makeFolder (path : String) : FilesStep Unit :=
  atTarget path fun t files =>
    match t.name with
    | none => .error .taken
    | some name =>
      let place := t.folder ++ [name]
      if files.isAt place then .error .taken
      else .ok { files with folders := files.folders ++ [place] }

/-- Takes a step unless it fails for a reason that does not count. -/
def ignoring (harmless : Fault → Files → Bool) (step : FilesStep Unit) : FilesStep Unit :=
  fun files =>
    match step files with
    | .error why after => if harmless why after then .ok () after else .error why after
    | done => done

def isTaken : Fault → Bool
  | .file .taken _ => true
  | _ => false

/-- Makes a folder, given by its parts from the last one on, and those that lead to it.  A dot
at the end is there as soon as the folders before it are. -/
def makeParts (root : String) : List String → FilesStep Unit
  | [] => pure ()
  | last :: before => do
    let written (parts : List String) : String := root ++ "/".intercalate parts.reverse
    let hasWay := before.isEmpty || (← get).isThere (written before)
    unless hasWay do ignoring (fun why _ => isTaken why) (makeParts root before)
    unless !hasWay && last = "." do
      ignoring (fun _ files => files.isFolder (written (last :: before)))
        (makeFolder (written (last :: before)))

/-- Makes a folder and those that lead to it, as far as they are missing. -/
def makeFolders (path : String) : FilesStep Unit :=
  if path = "" then makeFolder path
  else makeParts (if path.startsWith "/" then "/" else "")
    ((path.splitOn "/").filter (· ≠ "")).reverse

/-- Makes the folders that lead to a file. -/
def makeWay (path : String) : FilesStep Unit :=
  if folderOf path = "" then pure () else makeFolders (folderOf path)

/-- Moves a new file to where a path leads. -/
def moveTo (path : String) (bytes : Bytes) : FilesStep Unit :=
  atTarget path fun t files =>
    match t.name with
    | none => .error .busy
    | some name =>
      let place := t.folder ++ [name]
      if t.slashed then .error .notFolder
      else if files.isFolderAt place then .error .isFolder
      else .ok { files with files := Assoc.put files.files place bytes }

/-- Writes to the file that a path names. -/
def write (path : String) (bytes : Bytes) : FilesStep Unit :=
  atTarget path fun t files =>
    match t.name with
    | none => .error .isFolder
    | some name =>
      let place := t.folder ++ [name]
      if t.slashed || files.isFolderAt place then .error .isFolder
      else .ok { files with files := Assoc.put files.files place bytes }

/-- Writes a file and the folders that lead to it. -/
def put (path : String) (bytes : Bytes) : FilesStep Unit := do
  makeWay path
  write path bytes

/-- The files with one more, as far as it can be written. -/
def having (files : Files) (path : String) (bytes : Bytes) : Files :=
  match put path bytes files with
  | .ok _ files | .error _ files => files

end Files

end Questline
