import Questline.Fault

/-! The options of the command line.  An option may be shortened as long as it stays the only one
of its beginning; its value follows it or stands behind an equals sign.  Two dashes behind an equals
sign are no value, and two dashes alone end the options. -/

namespace Questline

structure Options where
  config : Option String := none
  content : List String := []
  validate : Bool := false
  viz : Option String := none
  skill : List String := []
  /-- The file to save to, or how saving fails. -/
  save : Except Fault (Option String) := .ok none
  load : Option String := none
  /-- The level to log at, or how asking for it fails. -/
  logLevel : Except Fault String := .ok "WARNING"
  help : Bool := false

namespace Options

inductive Name
  | config : Name
  | content : Name
  | validate : Name
  | viz : Name
  | skill : Name
  | save : Name
  | load : Name
  | logLevel : Name
  | help : Name
  deriving DecidableEq

/-- All options as they are written in full. -/
def names : List (String × Name) := [
  ("--config", .config), ("--content", .content), ("--validate", .validate), ("--viz", .viz),
  ("--skill", .skill), ("--save", .save), ("--load", .load), ("--log-level", .logLevel),
  ("--help", .help)]

/-- One argument: an option with the value behind its equals sign, a value, or what is not
understood, because no option or several begin like that. -/
inductive Argument
  | option (name : Name) (value : Option String) : Argument
  | value (s : String) : Argument
  | unknown : Argument
  | ambiguous : Argument

/-- One decimal digit or more, of any script, and behind them at most a line end. -/
def areDigits (cs : List Char) : Bool :=
  let isDigit (c : Char) : Bool := (Text.decimalValue? c).isSome
  (cs.head?.any isDigit) && [[], ['\n']].contains (cs.dropWhile isDigit)

/-- Whether a text reads as a negative number. -/
def isNegativeNumber (s : String) : Bool :=
  match s.toList with
  | '-' :: rest =>
    areDigits rest ||
    match rest.dropWhile fun c => (Text.decimalValue? c).isSome with
    | '.' :: fraction => areDigits fraction
    | _ => false
  | _ => false

/-- The text before the first equals sign, and the text after it if there is one. -/
def splitValue (s : String) : String × Option String :=
  let cs := s.toList
  match cs.dropWhile (· != '=') with
  | [] => (s, none)
  | _ :: value => (String.ofList (cs.takeWhile (· != '=')), some (String.ofList value))

/-- Help in short, which may be asked for several times at once. -/
def classifyHelp (rest : List Char) : Argument :=
  match rest with
  | [] => .option .help none
  | c :: tail =>
    let more := if c = '=' then tail else rest
    .option .help (if !more.isEmpty && more.all (· = 'h') then none else some (String.ofList more))

def classify (s : String) : Argument :=
  match s.toList with
  | ['-'] => .value s
  | '-' :: 'h' :: rest => classifyHelp rest
  | '-' :: second :: _ =>
    let (written, value) := splitValue s
    match names.lookup s, names.lookup written with
    | some name, _ => .option name none
    | none, some name => .option name value
    | none, none =>
      let candidates := if second = '-'
        then names.filter fun (full, _) => full.startsWith written else []
      match candidates with
      | [(_, name)] => .option name value
      | _ :: _ :: _ => .ambiguous
      | [] => if isNegativeNumber s || s.contains ' ' then .value s else .unknown
  | _ => .value s

/-- How many values an option takes: none, one, or as many as there are. -/
inductive Arity
  | none : Arity
  | one : Arity
  | many : Arity

def Name.arity : Name → Arity
  | .validate | .help => .none
  | .content | .skill => .many
  | _ => .one

/-- Sets an option to its values.  Without any, a file or folder counts as not given. -/
def set (o : Options) (name : Name) (values : List String) : Options :=
  let value := values.head?
  match name with
  | .config => { o with config := value }
  | .content => { o with content := values }
  | .validate => { o with validate := true }
  | .viz => { o with viz := value }
  | .skill => { o with skill := values }
  | .save => { o with save := value.elim (.error .mistyped) fun s => .ok (some s) }
  | .load => { o with load := value }
  | .logLevel => { o with logLevel := value.elim (.error .noSuchMember) .ok }
  | .help => { o with help := true }

/-- The values at the front, and the rest. -/
def takeValues : List Argument → List String × List Argument
  | .value s :: rest =>
    let (values, rest) := takeValues rest
    (s :: values, rest)
  | rest => ([], rest)

theorem length_takeValues (arguments : List Argument) :
    (takeValues arguments).2.length ≤ arguments.length := by
  induction arguments with
  | nil => simp [takeValues]
  | cons a rest ih =>
    cases a <;> simp [takeValues]
    omega

/-- Reads the arguments one after the other; none when they are not understood.  What belongs to no
option is turned down at the end, so that help can still be asked for behind it. -/
def readAll (o : Options) (strays : Bool) : List Argument → Option Options
  | [] => if strays then none else some o
  | .option name (some value) :: rest =>
    match name.arity with
    | .none => none
    | _ => readAll (o.set name (if value = "--" then [] else [value])) strays rest
  | .option name none :: rest =>
    match name.arity with
    | .none => if name = .help then some (o.set .help []) else readAll (o.set name []) strays rest
    | .many =>
      have := length_takeValues rest
      readAll (o.set name (takeValues rest).1) strays (takeValues rest).2
    | .one =>
      match rest with
      | .value value :: rest => readAll (o.set name [value]) strays rest
      | _ => none
  | _ :: rest => readAll o true rest
termination_by arguments => arguments.length

def isAmbiguous : Argument → Bool
  | .ambiguous => true
  | _ => false

/-- The options that some arguments set. -/
def read? (arguments : List String) : Option Options :=
  let before := (arguments.takeWhile (· ≠ "--")).map classify
  if before.any isAmbiguous then none else readAll {} (arguments.contains "--") before

end Options

end Questline
