import Questline.MessagePack

/-! Reading one value from the front of some bytes.  Lists and tables that are not complete yet
are kept as frames, innermost first, so that a single pass over the bytes suffices. -/

namespace Questline.MessagePack

/-- Why bytes do not start with a value. -/
inductive DecodeFault
  | outOfData : DecodeFault
  | badFormat : DecodeFault
  | badText : DecodeFault
  | badLength : DecodeFault
  | badExtension : DecodeFault
  | tooDeep : DecodeFault
  | badKey : DecodeFault
  deriving DecidableEq

/-- What stands at the front of some bytes: an atom, or the head of a list or a table. -/
inductive Item
  | atom (a : Atom) : Item
  | list (length : Nat) : Item
  | table (length : Nat) : Item

/-- How an item is laid out behind its first byte. -/
inductive Layout
  | item (i : Item) : Layout
  | unsigned (width : Nat) : Layout
  | signed (width : Nat) : Layout
  | float (width : Nat) : Layout
  | text (length : Nat) : Layout
  | longText (width : Nat) : Layout
  | longBytes (width : Nat) : Layout
  | extension (length : Nat) : Layout
  | longExtension (width : Nat) : Layout
  | longList (width : Nat) : Layout
  | longTable (width : Nat) : Layout

/-- The layout that a first byte announces. -/
def layoutOf (b : UInt8) : Option Layout :=
  let n := b.toNat
  if n < 0x80 then some (.item (.atom (.int n)))
  else if n < 0x90 then some (.item (.table (n - 0x80)))
  else if n < 0xa0 then some (.item (.list (n - 0x90)))
  else if n < 0xc0 then some (.text (n - 0xa0))
  else if 0xe0 ≤ n then some (.item (.atom (.int (n - 256))))
  else match n with
    | 0xc0 => some (.item (.atom .null))
    | 0xc2 => some (.item (.atom (.bool false)))
    | 0xc3 => some (.item (.atom (.bool true)))
    | 0xc4 => some (.longBytes 1)
    | 0xc5 => some (.longBytes 2)
    | 0xc6 => some (.longBytes 4)
    | 0xc7 => some (.longExtension 1)
    | 0xc8 => some (.longExtension 2)
    | 0xc9 => some (.longExtension 4)
    | 0xca => some (.float 4)
    | 0xcb => some (.float 8)
    | 0xcc => some (.unsigned 1)
    | 0xcd => some (.unsigned 2)
    | 0xce => some (.unsigned 4)
    | 0xcf => some (.unsigned 8)
    | 0xd0 => some (.signed 1)
    | 0xd1 => some (.signed 2)
    | 0xd2 => some (.signed 4)
    | 0xd3 => some (.signed 8)
    | 0xd4 => some (.extension 1)
    | 0xd5 => some (.extension 2)
    | 0xd6 => some (.extension 4)
    | 0xd7 => some (.extension 8)
    | 0xd8 => some (.extension 16)
    | 0xd9 => some (.longText 1)
    | 0xda => some (.longText 2)
    | 0xdb => some (.longText 4)
    | 0xdc => some (.longList 2)
    | 0xdd => some (.longList 4)
    | 0xde => some (.longTable 2)
    | 0xdf => some (.longTable 4)
    | _ => none

/-- Takes as many bytes as asked for. -/
def split (n : Nat) (bytes : Bytes) : Except DecodeFault (Bytes × Bytes) :=
  if bytes.length < n then .error .outOfData else .ok (bytes.take n, bytes.drop n)

/-- An item made of as many bytes as asked for. -/
def payload (n : Nat) (item : Bytes → Except DecodeFault Item) (bytes : Bytes) :
    Except DecodeFault (Item × Bytes) :=
  match split n bytes with
  | .error why => .error why
  | .ok (first, rest) =>
    match item first with
    | .error why => .error why
    | .ok i => .ok (i, rest)

/-- An item whose length stands in front of it. -/
def sized (width : Nat) (item : Bytes → Except DecodeFault Item) (bytes : Bytes) :
    Except DecodeFault (Item × Bytes) :=
  match split width bytes with
  | .error why => .error why
  | .ok (n, rest) => payload (ofBigEndian n) item rest

/-- An extension whose length stands in front of its code.  Length and code together have to stay
below `2 ^ 32`. -/
def sizedExtension (width : Nat) (item : Bytes → Except DecodeFault Item) (bytes : Bytes) :
    Except DecodeFault (Item × Bytes) :=
  match split width bytes with
  | .error why => .error why
  | .ok (n, rest) =>
    if ofBigEndian n + 1 < 0x100000000 then payload (ofBigEndian n + 1) item rest
    else .error .badLength

theorem length_of_split {n : Nat} {bytes first rest : Bytes}
    (h : split n bytes = .ok (first, rest)) : rest.length ≤ bytes.length := by
  unfold split at h
  split at h
  · cases h
  · cases h
    simp

theorem length_of_payload {n : Nat} {item : Bytes → Except DecodeFault Item} {bytes rest : Bytes}
    {i : Item} (h : payload n item bytes = .ok (i, rest)) : rest.length ≤ bytes.length := by
  unfold payload at h
  grind [→ length_of_split]

theorem length_of_sized {width : Nat} {item : Bytes → Except DecodeFault Item}
    {bytes rest : Bytes} {i : Item} (h : sized width item bytes = .ok (i, rest)) :
    rest.length ≤ bytes.length := by
  unfold sized at h
  grind [→ length_of_split, → length_of_payload]

theorem length_of_sizedExtension {width : Nat} {item : Bytes → Except DecodeFault Item}
    {bytes rest : Bytes} {i : Item} (h : sizedExtension width item bytes = .ok (i, rest)) :
    rest.length ≤ bytes.length := by
  unfold sizedExtension at h
  grind [→ length_of_split, → length_of_payload]

def textOf (bytes : Bytes) : Except DecodeFault Item :=
  match String.fromUTF8? ⟨bytes.toArray⟩ with
  | some s => .ok (.atom (.text s))
  | none => .error .badText

/-- The number that some bytes make in two's complement. -/
def ofSigned (bytes : Bytes) : Int :=
  let n := ofBigEndian bytes
  let size := Nat.pow 256 bytes.length
  if 2 * n < size then n else n - size

def floatOf (bytes : Bytes) : Float :=
  if bytes.length = 4 then (Float32.ofBits (UInt32.ofNat (ofBigEndian bytes))).toFloat
  else Float.ofBits (UInt64.ofNat (ofBigEndian bytes))

/-- The moment that an extension holds, in any of its three lengths. -/
def momentOf (data : Bytes) : Except DecodeFault Item :=
  let found : Option (Int × Nat) :=
    match data.length with
    | 4 => some (ofBigEndian data, 0)
    | 8 =>
      let both := ofBigEndian data
      some (both % 0x400000000, both / 0x400000000)
    | 12 => some (ofSigned (data.drop 4), ofBigEndian (data.take 4))
    | _ => none
  match found with
  | some (seconds, nanos) =>
    if nanos < 1000000000 then .ok (.atom (.moment seconds nanos)) else .error .badExtension
  | none => .error .badExtension

/-- The extension of a code and the bytes behind it; of the codes above 127 only that of moments
is in use. -/
def extensionOf : Bytes → Except DecodeFault Item
  | [] => .error .badExtension
  | code :: data =>
    if code = momentCode then momentOf data
    else if code < 0x80 then .ok (.atom (.extension code.toNat data))
    else .error .badExtension

/-- The item behind a first byte, and the bytes behind the item. -/
def readLayout (l : Layout) (bytes : Bytes) : Except DecodeFault (Item × Bytes) :=
  match l with
  | .item i => .ok (i, bytes)
  | .unsigned width => payload width (fun b => .ok (.atom (.int (ofBigEndian b)))) bytes
  | .signed width => payload width (fun b => .ok (.atom (.int (ofSigned b)))) bytes
  | .float width => payload width (fun b => .ok (.atom (.float (floatOf b)))) bytes
  | .text length => payload length textOf bytes
  | .longText width => sized width textOf bytes
  | .longBytes width => sized width (fun b => .ok (.atom (.bytes b))) bytes
  | .extension length => payload (length + 1) extensionOf bytes
  | .longExtension width => sizedExtension width extensionOf bytes
  | .longList width => payload width (fun b => .ok (.list (ofBigEndian b))) bytes
  | .longTable width => payload width (fun b => .ok (.table (ofBigEndian b))) bytes

theorem length_of_readLayout {l : Layout} {bytes rest : Bytes} {i : Item}
    (h : readLayout l bytes = .ok (i, rest)) : rest.length ≤ bytes.length := by
  unfold readLayout at h
  split at h
  · cases h; exact Nat.le_refl _
  all_goals first
    | exact length_of_payload h
    | exact length_of_sized h
    | exact length_of_sizedExtension h

/-- A list or table that is not complete: how much is missing, and what there is of it. -/
inductive Frame
  | list (missing : Nat) (items : List Value) : Frame
  | table (missing : Nat) (fields : Table) : Frame
  | field (missing : Nat) (fields : Table) (key : Value) : Frame

/-- How many lists and tables can be open at a time. -/
def maxDepth : Nat := 1024

/-- The longest list and table that are read. -/
def maxList : Nat := 104857600

def maxTable : Nat := 52428800

/-- Puts a complete value into the innermost frame, and completed frames into theirs; the value
itself when no frame is left.  Whether a key can be one is asked when its value is there. -/
def settle (v : Value) : List Frame → Except DecodeFault (Value ⊕ List Frame)
  | [] => .ok (.inl v)
  | .list missing items :: outer =>
    if missing ≤ 1 then settle (.list (items ++ [v])) outer
    else .ok (.inr (.list (missing - 1) (items ++ [v]) :: outer))
  | .table missing fields :: outer =>
    .ok (.inr (.field missing fields v :: outer))
  | .field missing fields key :: outer =>
    match key with
    | .atom key =>
      let fields := Assoc.put fields key v
      if missing ≤ 1 then settle (.table fields) outer
      else .ok (.inr (.table (missing - 1) fields :: outer))
    | _ => .error .badKey

/-- What an item does to the frames. -/
def takeItem (i : Item) (frames : List Frame) : Except DecodeFault (Value ⊕ List Frame) :=
  match i with
  | .atom a => settle (.atom a) frames
  | .list length =>
    if frames.length ≥ maxDepth then .error .tooDeep
    else if length > maxList then .error .badLength
    else if length = 0 then settle (.list []) frames
    else .ok (.inr (.list length [] :: frames))
  | .table length =>
    if frames.length ≥ maxDepth then .error .tooDeep
    else if length > maxTable then .error .badLength
    else if length = 0 then settle (.table []) frames
    else .ok (.inr (.table length [] :: frames))

/-- Reads a value into the open frames. -/
def decodeInto (frames : List Frame) : Bytes → Except DecodeFault (Value × Bytes)
  | [] => .error .outOfData
  | b :: bytes =>
    match layoutOf b with
    | none => .error .badFormat
    | some l =>
      match _read : readLayout l bytes with
      | .error why => .error why
      | .ok (i, rest) =>
        match takeItem i frames with
        | .error why => .error why
        | .ok (.inl v) => .ok (v, rest)
        | .ok (.inr frames) => decodeInto frames rest
termination_by bytes => bytes.length
decreasing_by
  have := length_of_readLayout _read
  simp
  omega

/-- Reads one value and tells what stands behind it. -/
def decode (bytes : Bytes) : Except DecodeFault (Value × Bytes) := decodeInto [] bytes

end Questline.MessagePack
