import Questline.Text.Quoted
import Questline.Value

/-! How values appear in messages: in literal form with quotes, or plainly, where text stands
for itself. -/

namespace Questline

def Atom.literal : Atom → String
  | .null => "None"
  | .bool true => "True"
  | .bool false => "False"
  | .int n => toString n
  | .float x => Decimal.writeFloat x
  | .text s => Text.quote s
  | .bytes b => Text.quoteBytes b
  | .extension code data => s!"ExtType(code={code}, data={Text.quoteBytes data})"
  | .moment seconds nanos => s!"Timestamp(seconds={seconds}, nanoseconds={nanos})"

namespace Value

mutual

def literal : Value → String
  | .atom a => a.literal
  | .list items => "[" ++ ", ".intercalate (literals items) ++ "]"
  | .table fields => "\x7b" ++ ", ".intercalate (fieldLiterals fields) ++ "\x7d"

def literals : List Value → List String
  | [] => []
  | v :: rest => v.literal :: literals rest

def fieldLiterals : List (Atom × Value) → List String
  | [] => []
  | (k, v) :: rest => (k.literal ++ ": " ++ v.literal) :: fieldLiterals rest

end

/-- The plain form: text as it is, all else in literal form. -/
def plain : Value → String
  | .atom (.text s) => s
  | v => v.literal

end Value

/-- The literal form of a list of texts. -/
def literalTexts (texts : List String) : String :=
  "[" ++ ", ".intercalate (texts.map Text.quote) ++ "]"

end Questline
