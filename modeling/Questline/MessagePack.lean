import Questline.Fault

/-! Values as bytes in the MessagePack format, each in its smallest encoding: integers from
`-2 ^ 63` up to below `2 ^ 64`, floats with 64 bits, texts in UTF-8.  Values nest up to a depth of
511. -/

namespace Questline.MessagePack

abbrev Bytes := List UInt8

/-- The lowest bytes of a number, highest first. -/
def bigEndian : Nat → Nat → Bytes
  | 0, _ => []
  | width + 1, n => bigEndian width (n / 256) ++ [UInt8.ofNat (n % 256)]

/-- The number that some bytes make, highest first. -/
def ofBigEndian (bytes : Bytes) : Nat := bytes.foldl (fun n b => 256 * n + b.toNat) 0

def encodeInt (n : Int) : Except Fault Bytes :=
  if 0 ≤ n then
    let m := n.toNat
    if m < 0x80 then .ok [UInt8.ofNat m]
    else if m < 0x100 then .ok (0xcc :: bigEndian 1 m)
    else if m < 0x10000 then .ok (0xcd :: bigEndian 2 m)
    else if m < 0x100000000 then .ok (0xce :: bigEndian 4 m)
    else if m < 0x10000000000000000 then .ok (0xcf :: bigEndian 8 m)
    else .error .tooLarge
  else if -0x20 ≤ n then .ok [UInt8.ofNat (0x100 + n).toNat]
  else if -0x80 ≤ n then .ok (0xd0 :: bigEndian 1 (0x100 + n).toNat)
  else if -0x8000 ≤ n then .ok (0xd1 :: bigEndian 2 (0x10000 + n).toNat)
  else if -0x80000000 ≤ n then .ok (0xd2 :: bigEndian 4 (0x100000000 + n).toNat)
  else if -0x8000000000000000 ≤ n then
    .ok (0xd3 :: bigEndian 8 (0x10000000000000000 + n).toNat)
  else .error .tooLarge

/-- A length behind the mark of its width; marks of narrow widths may be missing. -/
def encodeLength (kind : String) (mark8 : Option UInt8) (mark16 mark32 : UInt8) (n : Nat) :
    Except Fault Bytes :=
  match mark8 with
  | some mark =>
    if n < 0x100 then .ok (mark :: bigEndian 1 n) else wider n
  | none => wider n
where
  wider (n : Nat) : Except Fault Bytes :=
    if n < 0x10000 then .ok (mark16 :: bigEndian 2 n)
    else if n < 0x100000000 then .ok (mark32 :: bigEndian 4 n)
    else .error (.refused (.tooLong kind))

def textHead (n : Nat) : Except Fault Bytes :=
  if n < 32 then .ok [UInt8.ofNat (0xa0 + n)]
  else encodeLength "unicode string" (some 0xd9) 0xda 0xdb n

def listHead (n : Nat) : Except Fault Bytes :=
  if n < 16 then .ok [UInt8.ofNat (0x90 + n)] else encodeLength "list" none 0xdc 0xdd n

def tableHead (n : Nat) : Except Fault Bytes :=
  if n < 16 then .ok [UInt8.ofNat (0x80 + n)] else encodeLength "dict" none 0xde 0xdf n

def textBytes (s : String) : Bytes := s.toUTF8.toList

/-- What stands before the bytes of an extension. -/
def extensionHead (code : UInt8) (n : Nat) : Except Fault Bytes :=
  if n = 1 then .ok [0xd4, code]
  else if n = 2 then .ok [0xd5, code]
  else if n = 4 then .ok [0xd6, code]
  else if n = 8 then .ok [0xd7, code]
  else if n = 16 then .ok [0xd8, code]
  else (encodeLength "EXT data" (some 0xc7) 0xc8 0xc9 n).map (· ++ [code])

/-- The code of the extension that holds a moment. -/
def momentCode : UInt8 := 0xff

/-- The bytes of a moment: seconds alone if they fit into 32 bits, billionths and seconds in 64
bits if the seconds fit into 34 of them, and otherwise one after the other. -/
def momentBytes (seconds : Int) (nanos : Nat) : Bytes :=
  if 0 ≤ seconds ∧ seconds < 0x400000000 then
    let both := nanos * 0x400000000 + seconds.toNat
    if both < 0x100000000 then bigEndian 4 both else bigEndian 8 both
  else bigEndian 4 nanos ++ bigEndian 8 (seconds % 0x10000000000000000).toNat

def encodeAtom : Atom → Except Fault Bytes
  | .null => .ok [0xc0]
  | .bool false => .ok [0xc2]
  | .bool true => .ok [0xc3]
  | .int n => encodeInt n
  | .float x => .ok (0xcb :: bigEndian 8 x.toBits.toNat)
  | .text s => (textHead (textBytes s).length).map (· ++ textBytes s)
  | .bytes b => (encodeLength "bytes object" (some 0xc4) 0xc5 0xc6 b.length).map (· ++ b)
  | .extension code data => (extensionHead (UInt8.ofNat code) data.length).map (· ++ data)
  | .moment seconds nanos =>
    let data := momentBytes seconds nanos
    (extensionHead momentCode data.length).map (· ++ data)

/-- How many lists and tables can stand around an atom. -/
def maxNesting : Nat := 511

/-- The bytes of an atom, if there is a level left for it. -/
def encodeAtomWithin (room : Nat) (a : Atom) : Except Fault Bytes :=
  if room = 0 then .error .tooDeep else encodeAtom a

mutual

/-- The bytes of a value that may take up as many levels as there is room for. -/
def encodeWithin (room : Nat) : Value → Except Fault Bytes
  | .atom a => encodeAtomWithin room a
  | .list items => do
    if room = 0 then throw .tooDeep
    let head ← listHead items.length
    return head ++ (← encodeItems (room - 1) items)
  | .table fields => do
    if room = 0 then throw .tooDeep
    let head ← tableHead fields.length
    return head ++ (← encodeFields (room - 1) fields)

def encodeItems (room : Nat) : List Value → Except Fault Bytes
  | [] => .ok []
  | v :: rest => do
    let first ← encodeWithin room v
    return first ++ (← encodeItems room rest)

def encodeFields (room : Nat) : List (Atom × Value) → Except Fault Bytes
  | [] => .ok []
  | (k, v) :: rest => do
    let key ← encodeAtomWithin room k
    let value ← encodeWithin room v
    return key ++ value ++ (← encodeFields room rest)

end

def encode (v : Value) : Except Fault Bytes := encodeWithin (maxNesting + 1) v

end Questline.MessagePack
