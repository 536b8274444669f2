import Questline.Assoc
import Questline.Decimal.Numeral

/-! Untyped data, as it stands in authored files, settings and saves before it is read.  An atom
can be the key of a table or the member of a set; lists and tables cannot. -/

namespace Questline

inductive Atom
  | null : Atom
  | bool : Bool → Atom
  | int : Int → Atom
  | float : Float → Atom
  | text : String → Atom
  | bytes : List UInt8 → Atom
  /-- Bytes of a kind that only a number tells. -/
  | extension (code : Nat) (data : List UInt8) : Atom
  /-- A moment in seconds and billionths since the beginning of 1970. -/
  | moment (seconds : Int) (nanos : Nat) : Atom
  deriving DecidableEq, Inhabited

inductive Value
  | atom : Atom → Value
  | list : List Value → Value
  | table : List (Atom × Value) → Value
  deriving Inhabited

namespace Atom

/-- Truth values count as zero and one where numbers are compared. -/
def number? : Atom → Option (Int ⊕ Float)
  | .bool b => some (.inl b.toInt)
  | .int n => some (.inl n)
  | .float x => some (.inr x)
  | _ => none

/-- Equality of atoms: numbers by value whatever their kind, all else as written. -/
def same (a b : Atom) : Bool :=
  match a.number?, b.number? with
  | some (.inl m), some (.inl n) => m == n
  | some (.inr x), some (.inr y) => x == y
  | some (.inl m), some (.inr y) => Decimal.integer? y == some m
  | some (.inr x), some (.inl n) => Decimal.integer? x == some n
  | none, none => decide (a = b)
  | _, _ => false

instance : BEq Atom := ⟨same⟩

def isTrue : Atom → Bool
  | .null => false
  | .bool b => b
  | .int n => n != 0
  | .float x => x != 0
  | .text s => s != ""
  | .bytes b => !b.isEmpty
  | .extension _ _ | .moment _ _ => true

end Atom

abbrev Table := Assoc Atom Value

namespace Value

@[match_pattern] abbrev null : Value := .atom .null

@[match_pattern] abbrev bool (b : Bool) : Value := .atom (.bool b)

@[match_pattern] abbrev int (n : Int) : Value := .atom (.int n)

@[match_pattern] abbrev float (x : Float) : Value := .atom (.float x)

@[match_pattern] abbrev text (s : String) : Value := .atom (.text s)

def ofText? : Option String → Value
  | some s => text s
  | none => null

/-- An empty or zero value is false, every other one true. -/
def isTrue : Value → Bool
  | .atom a => a.isTrue
  | .list items => !items.isEmpty
  | .table fields => !fields.isEmpty

def int? : Value → Option Int
  | int n => some n
  | _ => none

def text? : Value → Option String
  | text s => some s
  | _ => none

/-- Whether two values are of one kind: both truth values, both integers, both tables, … -/
def sameKind : Value → Value → Bool
  | .atom .null, .atom .null => true
  | .atom (.bool _), .atom (.bool _) => true
  | .atom (.int _), .atom (.int _) => true
  | .atom (.float _), .atom (.float _) => true
  | .atom (.text _), .atom (.text _) => true
  | .atom (.bytes _), .atom (.bytes _) => true
  | .atom (.extension _ _), .atom (.extension _ _) => true
  | .atom (.moment _ _), .atom (.moment _ _) => true
  | .list _, .list _ => true
  | .table _, .table _ => true
  | _, _ => false

instance : Coe String Value := ⟨text⟩

instance : Coe Int Value := ⟨int⟩

instance : Coe Bool Value := ⟨bool⟩

/-- A table of named fields. -/
def record (fields : List (String × Value)) : Value :=
  .table (fields.map fun (k, v) => (.text k, v))

end Value

namespace Table

/-- The value under a name. -/
def field? (t : Table) (name : String) : Option Value := Assoc.get? t (.text name)

/-- The value under a name, nothing being the null value. -/
def field (t : Table) (name : String) : Value := (t.field? name).getD .null

end Table

end Questline
