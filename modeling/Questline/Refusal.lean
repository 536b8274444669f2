import Questline.Value.Notation
import Questline.Vocabulary

/-! Why data and requests are refused.  A refusal is a cause; its wording is in one place. -/

namespace Questline

/-- A rule of the program that given data or a given call breaks. -/
inductive Refusal
  | unknownName (vocabulary name : String) : Refusal
  | unknownLevel (level : String) : Refusal
  | unknownFaction (name : String) : Refusal
  | unknownComparator (name : String) : Refusal
  | requirementNotTable (given : Value) : Refusal
  | requirementWithoutKind (given : Table) : Refusal
  | requirementWithoutSubject (kind : RequirementKind) : Refusal
  | requirementWithoutValue (kind : RequirementKind) (subject : String) : Refusal
  | requirementWithValue (kind : RequirementKind) (subject : String) : Refusal
  | negatedTwice (subject : String) : Refusal
  | comparatorMismatch (comparator : Comparator) (kind : RequirementKind) : Refusal
  | outcomeNotTable (given : Value) : Refusal
  | outcomeWithoutKind (given : Table) : Refusal
  | outcomeWithoutTarget (kind : OutcomeKind) (field : String) : Refusal
  | outcomeWithoutAmount (kind : OutcomeKind) (field : String) : Refusal
  | amountNotPositive (kind : OutcomeKind) (field : String) : Refusal
  | endingFailNotBool : Refusal
  | flagValueNotTrue (kind : OutcomeKind) : Refusal
  | unexpectedFields (kind : OutcomeKind) (fields : List Atom) : Refusal
  | notMember (vocabulary : String) (given : Value) : Refusal
  | idNotAfter (id last : Int) : Refusal
  | timestampBefore (timestamp last : Float) : Refusal
  | alreadyResolving (kind : EntryKind) (graph : Option String) : Refusal
  | noResolution : Refusal
  | changedState : Refusal
  | outsideResolution : Refusal
  | locationLocked (location : String) : Refusal
  | unknownLogLevel (level : String) : Refusal
  | yearOutOfRange (year : Nat) : Refusal
  | minuteOutOfRange : Refusal
  | secondOutOfRange : Refusal
  /-- A clock is a day or more ahead of or behind universal time, told in millionths of a second. -/
  | zoneOutOfRange (distance : Int) : Refusal
  | tooManyDigits (count : Nat) : Refusal
  | tooLong (kind : String) : Refusal

/-- Text for an optional name; a missing one is shown as the null value. -/
def plainText? : Option String → String
  | some s => s
  | none => Atom.null.literal

/-- A duration in millionths of a second, as days and what is left of a day. -/
def durationText (micros : Int) : String :=
  let parts := [("days", micros / 86400000000), ("seconds", micros / 1000000 % 86400),
    ("microseconds", micros % 1000000)]
  let shown := (parts.filter fun (_, n) => n ≠ 0).map fun (name, n) => s!"{name}={n}"
  "datetime.timedelta(" ++ ", ".intercalate shown ++ ")"

namespace Refusal

def message : Refusal → String
  | .unknownName vocabulary name => s!"unknown {vocabulary} \"{name}\""
  | .unknownLevel level => s!"unknown relationship level \"{level}\""
  | .unknownFaction name => s!"unknown faction \"{name}\""
  | .unknownComparator name => s!"unknown comparator \"{name}\""
  | .requirementNotTable given => s!"requirement must be a table, got {given.literal}"
  | .requirementWithoutKind given => s!"requirement {(Value.table given).literal} missing kind"
  | .requirementWithoutSubject kind =>
    s!"{kind.word} requirement needs a \"{kind.subjectField}\" string"
  | .requirementWithoutValue kind subject =>
    s!"{kind.word} requirement on {subject} needs an integer \"value\""
  | .requirementWithValue kind subject => s!"{kind.word} requirement on {subject} takes no value"
  | .negatedTwice subject => s!"both value = false and comparator given for {subject}"
  | .comparatorMismatch comparator kind =>
    s!"comparator {comparator.word} not valid for {kind.word}"
  | .outcomeNotTable given => s!"outcome must be a table, got {given.literal}"
  | .outcomeWithoutKind given => s!"outcome {(Value.table given).literal} missing kind"
  | .outcomeWithoutTarget kind field => s!"{kind.word} outcome needs a \"{field}\" string"
  | .outcomeWithoutAmount kind field => s!"{kind.word} outcome needs an integer \"{field}\""
  | .amountNotPositive kind field => s!"{kind.word} outcome needs a positive \"{field}\""
  | .endingFailNotBool => "trigger_ending \"fail\" must be true or false"
  | .flagValueNotTrue kind =>
    s!"{kind.word} takes no value other than true, use clear_flag to remove a flag"
  | .unexpectedFields kind fields =>
    s!"{kind.word} outcome has unexpected keys {(Value.list (fields.map Value.atom)).literal}"
  | .notMember vocabulary given => s!"{given.literal} is not a valid {vocabulary}"
  | .idNotAfter id last => s!"entry id {id} not after last id {last}"
  | .timestampBefore timestamp last =>
    let now := Decimal.writeFloat timestamp
    s!"entry timestamp {now} before last timestamp {Decimal.writeFloat last}"
  | .alreadyResolving kind graph =>
    s!"already resolving EntryKind.{kind.name} for {plainText? graph}"
  | .noResolution => "no resolution in progress"
  | .changedState => "cannot discard a resolution that changed state"
  | .outsideResolution => "apply_outcomes outside of a resolution"
  | .locationLocked location => s!"location {location} is not unlocked"
  | .unknownLogLevel level => s!"Unknown level: {Text.quote level}"
  | .yearOutOfRange year => s!"year {year} is out of range"
  | .minuteOutOfRange => "minute must be in 0..59"
  | .secondOutOfRange => "second must be in 0..59"
  | .zoneOutOfRange distance =>
    "offset must be a timedelta strictly between -timedelta(hours=24) and timedelta(hours=24), " ++
    s!"not {durationText distance}."
  | .tooManyDigits count =>
    s!"Exceeds the limit ({Decimal.maxDigits} digits) for integer string conversion: " ++
    s!"value has {count} digits; use sys.set_int_max_str_digits() to increase the limit"
  | .tooLong kind => s!"{kind} is too large"

end Refusal

/-- Why a request to the story is turned down, before anything has changed. -/
inductive IllegalChoice
  | storyEnded (ending : String) : IllegalChoice
  | unknownGraph (graph : String) : IllegalChoice
  | alreadyCompleted (graph : String) : IllegalChoice
  | notAvailable (graph : String) (state : Lifecycle) : IllegalChoice
  | notInProgress (graph : String) (state : Lifecycle) : IllegalChoice
  | noSuchChoice (choice graph node : String) : IllegalChoice
  | notLegal (choice : String) (reasons : List String) : IllegalChoice
  | cannotAbandon (graph : String) (state : Lifecycle) : IllegalChoice

/-- The reason shown at every choice once the story is over. -/
def endedReason (ending : String) : String := s!"the story has ended ({ending})"

def IllegalChoice.message : IllegalChoice → String
  | .storyEnded ending => endedReason ending
  | .unknownGraph graph => s!"unknown graph {graph}"
  | .alreadyCompleted graph => s!"{graph} is already completed"
  | .notAvailable graph state => s!"{graph} is {state.word}, not available"
  | .notInProgress graph state => s!"{graph} is {state.word}, not in progress"
  | .noSuchChoice choice graph node => s!"no choice {choice} at {graph}/{node}"
  | .notLegal choice reasons => choice ++ " is not legal: " ++ ", ".intercalate reasons
  | .cannotAbandon graph state => s!"{graph} is {state.word}, cannot abandon"

end Questline
