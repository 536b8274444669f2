import Questline.Fault
import Questline.Value.Notation

/-! Why a text is no TOML. -/

namespace Questline.Toml

/-- A rule of the format that a text breaks. -/
inductive Reason
  | lineWithoutValue : Reason
  | textWithoutValue : Reason
  | nameCharacter (c : Char) : Reason
  | noName : Reason
  | unbalancedQuotes : Reason
  | unterminated : Reason
  | loneBracket : Reason
  | headerNotAlone : Reason
  | unclosedGroup (name : String) : Reason
  | badGroup (name : String) : Reason
  | emptyGroup : Reason
  /-- A table that other headers have made is not an array. -/
  | madeByOthers : Reason
  | groupExists (name : String) (around : Value) : Reason
  | inlineLineBreak : Reason
  | badInlineTable : Reason
  | badInlineValue : Reason
  | notDateOrNumber : Reason
  | duplicateKey : Reason
  | emptyValue : Reason
  | capitalTruth : Reason
  | behindText : Reason
  | reservedEscape : Reason
  | badEscape (digits : String) : Reason
  | surrogateEscape (digits : String) : Reason
  | noCodePoint : Reason
  | mixedArray : Reason
  | oddNumber : Reason
  | noFraction : Reason
  | noLeadingDigit : Reason
  | notInteger (given : String) : Reason
  | notFloat (given : String) : Reason
  | tooManyDigits (count : Nat) : Reason

def Reason.message : Reason → String
  | .lineWithoutValue => "Key name found without value. Reached end of line."
  | .textWithoutValue => "Key name found without value. Reached end of file."
  | .nameCharacter c =>
    let shown := String.singleton c
    s!"Found invalid character in key name: '{shown}'. Try quoting the key name."
  | .noName => "Found empty keyname. "
  | .unbalancedQuotes => "Unbalanced quotes"
  | .unterminated => "Unterminated string found. Reached end of file."
  | .loneBracket => "Opening key group bracket on line by itself."
  | .headerNotAlone => "Key group not on a line by itself."
  | .unclosedGroup name => s!"Invalid group name '{name}' Something went wrong."
  | .badGroup name => s!"Invalid group name '{name}'. Try quoting it."
  | .emptyGroup => "Can't have a keygroup with an empty name"
  | .madeByOthers => "An implicitly defined table can't be an array"
  | .groupExists name around => s!"What? {name} already exists?{around.literal}"
  | .inlineLineBreak => "Line breaks are not allowed in inlineobjects"
  | .badInlineTable => "Invalid inline table encountered"
  | .badInlineValue => "Invalid inline table value encountered"
  | .notDateOrNumber => "Invalid date or number"
  | .duplicateKey => "Duplicate keys!"
  | .emptyValue => "Empty value is invalid"
  | .capitalTruth => "Only all lowercase booleans allowed"
  | .behindText => "Found tokens after a closed string. Invalid TOML."
  | .reservedEscape => "Reserved escape sequence used"
  | .badEscape digits => s!"Invalid escape sequence: {digits}"
  | .surrogateEscape digits =>
    s!"Invalid escape sequence: {digits}. Only scalar unicode points are allowed."
  | .noCodePoint => "chr() arg not in range(0x110000)"
  | .mixedArray => "Not a homogeneous array"
  | .oddNumber => "Weirdness with leading zeroes or underscores in your number."
  | .noFraction => "This float is missing digits after the point"
  | .noLeadingDigit => "This float doesn't have a leading digit"
  | .notInteger given =>
    "invalid literal for int() with base 0: " ++ String.ofList ((Text.quote given).toList.take 200)
  | .notFloat given => "could not convert string to float: " ++ Text.quote given
  | .tooManyDigits count => (Refusal.tooManyDigits count).message

/-- Why a piece of a text does not read: it breaks a rule, or nothing is there where the reader
takes for granted that something is. -/
inductive Flaw
  | rule (why : Reason) : Flaw
  | fault (why : Fault) : Flaw

/-- Why a text does not read, with the place where it breaks a rule. -/
inductive Rejection
  | malformed (why : Reason) (place : Nat) : Rejection
  | fault (why : Fault) : Rejection

def Flaw.at (place : Nat) : Flaw → Rejection
  | .rule why => .malformed why place
  | .fault why => .fault why

def broken {α : Type} (why : Reason) : Except Flaw α := .error (.rule why)

/-- The wording for a text that breaks a rule, with line, column and place. -/
def Reason.located (text : String) (place : Nat) (why : Reason) : String :=
  let before := text.toList.take place
  let line := before.count '\n' + 1
  let column := (before.reverse.takeWhile (· != '\n')).length + 1
  s!"{why.message} (line {line} column {column} char {place})"

end Questline.Toml
