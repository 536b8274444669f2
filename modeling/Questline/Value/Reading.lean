import Questline.Fault

/-! Reading untyped data.  Numbers are taken from numbers, truth values and text; a text is a
sequence of its characters, a table one of its keys, and an extension a pair. -/

namespace Questline.Value

/-- Bytes as text, as far as they are ASCII; no other byte has a place in a numeral. -/
def asciiText (bytes : List UInt8) : String :=
  String.ofList (bytes.map fun b => if b < 0x80 then Char.ofNat b.toNat else '?')

/-- The integer that a text shows. -/
def readNumeral (s : String) : Except Fault Int :=
  match Decimal.excessDigits? s with
  | some count => .error (.refused (.tooManyDigits count))
  | none => (Decimal.readInt? s).elim (.error .unreadable) .ok

/-- The number of a truth value, an integer, a float cut towards zero, or a numeral. -/
def readInt : Value → Except Fault Int
  | bool b => .ok b.toInt
  | int n => .ok n
  | float x =>
    match Decimal.truncate? x with
    | some n => .ok n
    | none => .error (if x.isNaN then .unreadable else .tooLarge)
  | text s => readNumeral s
  | .atom (.bytes b) => readNumeral (asciiText b)
  | _ => .error .mistyped

def readFloat : Value → Except Fault Float
  | bool b => .ok (if b then 1 else 0)
  | int n => (Decimal.ofInt? n).elim (.error .tooLarge) .ok
  | float x => .ok x
  | text s => (Decimal.readFloat? s).elim (.error .unreadable) .ok
  | .atom (.bytes b) =>
    (Decimal.readFloat? (asciiText b)).elim (.error .unreadable) .ok
  | _ => .error .mistyped

/-- The members of a list, the characters of a text, the keys of a table, the code and the bytes of
an extension. -/
def elements : Value → Except Fault (List Value)
  | .list items => .ok items
  | .table fields => .ok (fields.map fun (k, _) => .atom k)
  | text s => .ok (s.toList.map fun c => text (String.singleton c))
  | .atom (.bytes b) => .ok (b.map fun c => int c.toNat)
  | .atom (.extension code data) => .ok [int code, .atom (.bytes data)]
  | _ => .error .mistyped

/-- What can be a key; lists and tables cannot. -/
def readAtom : Value → Except Fault Atom
  | .atom a => .ok a
  | _ => .error .mistyped

/-- The fields of a table. -/
def readFields : Value → Except Fault Table
  | .table fields => .ok fields
  | _ => .error .noSuchMember

/-- The value under a key of a table, which has to be there. -/
def require (v : Value) (key : String) : Except Fault Value :=
  match v with
  | .table fields => (Table.field? fields key).elim (.error (.missingKey (.text key))) .ok
  | _ => .error .mistyped

/-- The value under a key of a table, or the given one. -/
def getD (v : Value) (key : String) (default : Value) : Except Fault Value :=
  v.readFields.map fun fields => (Table.field? fields key).getD default

/-- The value under a number in a table, or the member of a sequence at that place. -/
def item (v : Value) (i : Nat) : Except Fault Value :=
  match v with
  | .table fields => (Assoc.get? fields (.int i)).elim (.error (.missingKey (.int i))) .ok
  | _ => v.elements.bind fun items => (items[i]?).elim (.error .outOfRange) .ok

/-- The two members of a pair. -/
def readPair (v : Value) : Except Fault (Value × Value) :=
  v.elements.bind fun items =>
    match items with
    | [a, b] => .ok (a, b)
    | _ => .error .unreadable

/-- A table from its fields or from a sequence of pairs. -/
def readTable (v : Value) : Except Fault Table :=
  match v with
  | .table fields => .ok fields
  | _ => do
    let pairs ← (← v.elements).mapM fun item => do
      let (k, a) ← item.readPair
      pure ((← k.readAtom), a)
    pure (Assoc.ofList pairs)

/-- The member of a vocabulary whose word this is. -/
def readWord (α : Type) [Vocabulary α] (v : Value) : Except Fault α :=
  match v.text?.bind Vocabulary.ofWord? with
  | some a => .ok a
  | none => .error (.refused (.notMember (Vocabulary.title α) v))

/-- The member of a vocabulary that has this name in any spelling. -/
def readSpelling (α : Type) [Vocabulary α] (v : Value) : Except Fault α :=
  match v with
  | text s => (Vocabulary.ofSpelling? s).elim
      (.error (.refused (.unknownName (Vocabulary.title α) s))) .ok
  | _ => .error .mistyped

end Questline.Value
