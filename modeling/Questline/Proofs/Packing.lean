import Questline.Proofs.Bytes
import Questline.Proofs.Ledgers

/-! Packed values.  A value of moderate size is read back as it was packed, and reading stops where
its bytes end, so that values can be put one behind the other. -/

namespace Questline.MessagePack

section Fronts

/-- The item at the front of some bytes, and the bytes behind it. -/
def front : Bytes → Except DecodeFault (Item × Bytes)
  | [] => .error .outOfData
  | b :: bytes => (layoutOf b).elim (.error .badFormat) fun l => readLayout l bytes

/-- Reading goes on behind an item until a value is complete. -/
def goOn (rest : Bytes) : Value ⊕ List Frame → Except DecodeFault (Value × Bytes)
  | .inl v => .ok (v, rest)
  | .inr frames => decodeInto frames rest

theorem decodeInto_eq (frames : List Frame) (bytes : Bytes) : decodeInto frames bytes =
    (front bytes).bind fun p => (takeItem p.1 frames).bind (goOn p.2) := by
  cases bytes with
  | nil => rw [decodeInto]; rfl
  | cons b bytes =>
    rw [decodeInto, front]
    cases layoutOf b with
    | none => rfl
    | some l =>
      dsimp only [Option.elim_some]
      split
      next why hread => rw [hread]; rfl
      next i rest hread =>
        rw [hread]
        change _ = (takeItem i frames).bind (goOn rest)
        cases takeItem i frames with
        | error why => rfl
        | ok next => cases next <;> rfl

/-- Some bytes stand for an item, whatever is behind them. -/
def StandFor (bytes : Bytes) (i : Item) : Prop := ∀ rest, front (bytes ++ rest) = .ok (i, rest)

theorem StandFor.decodeInto {bytes : Bytes} {i : Item} (h : StandFor bytes i) (frames : List Frame)
    (rest : Bytes) : decodeInto frames (bytes ++ rest) = (takeItem i frames).bind (goOn rest) := by
  rw [decodeInto_eq, h]
  rfl

theorem StandFor.of_layout {b : UInt8} {l : Layout} {bytes : Bytes} {i : Item}
    (hl : layoutOf b = some l) (h : ∀ rest, readLayout l (bytes ++ rest) = .ok (i, rest)) :
    StandFor (b :: bytes) i := by
  intro rest
  rw [List.cons_append, front, hl]
  exact h rest

theorem split_append {n : Nat} {bytes : Bytes} (hn : bytes.length = n) (rest : Bytes) :
    split n (bytes ++ rest) = .ok (bytes, rest) := by
  rw [split, if_neg (by simp [hn]), ← hn, List.take_left, List.drop_left]

theorem payload_append_eq {n : Nat} {bytes : Bytes} (hn : bytes.length = n)
    (item : Bytes → Except DecodeFault Item) (rest : Bytes) :
    payload n item (bytes ++ rest) = (item bytes).map (·, rest) := by
  rw [payload, split_append hn]
  dsimp only
  cases item bytes <;> rfl

theorem payload_append {n : Nat} {item : Bytes → Except DecodeFault Item} {bytes : Bytes} {i : Item}
    (hn : bytes.length = n) (h : item bytes = .ok i) (rest : Bytes) :
    payload n item (bytes ++ rest) = .ok (i, rest) := by
  rw [payload_append_eq hn, h]
  rfl

theorem sized_append {width n : Nat} {item : Bytes → Except DecodeFault Item} {bytes : Bytes}
    {i : Item} (hwidth : n < 256 ^ width) (hn : bytes.length = n) (h : item bytes = .ok i)
    (rest : Bytes) : sized width item (bigEndian width n ++ bytes ++ rest) = .ok (i, rest) := by
  rw [List.append_assoc, sized, split_append (length_bigEndian width n)]
  dsimp only
  rw [ofBigEndian_bigEndian hwidth]
  exact payload_append hn h rest

theorem standFor_unsigned {b : UInt8} {width n : Nat} (hl : layoutOf b = some (.unsigned width))
    (hn : n < 256 ^ width) : StandFor (b :: bigEndian width n) (.atom (.int n)) := by
  refine .of_layout hl fun rest => ?_
  rw [readLayout]
  refine payload_append (length_bigEndian width n) ?_ rest
  rw [ofBigEndian_bigEndian hn]

theorem standFor_signed {b : UInt8} {width m : Nat} {n : Int}
    (hl : layoutOf b = some (.signed width)) (hm : (m : Int) = 256 ^ width + n)
    (hlow : -256 ^ width ≤ 2 * n) (hneg : n < 0) :
    StandFor (b :: bigEndian width m) (.atom (.int n)) := by
  refine .of_layout hl fun rest => ?_
  rw [readLayout]
  refine payload_append (length_bigEndian width m) ?_ rest
  rw [ofSigned_bigEndian hm hlow hneg]

end Fronts

section Heads

/-- The integers that there are bytes for. -/
def InRange (n : Int) : Prop := -0x8000000000000000 ≤ n ∧ n < 0x10000000000000000

instance (n : Int) : Decidable (InRange n) := inferInstanceAs (Decidable (_ ∧ _))

theorem InRange.encodeInt {n : Int} (h : InRange n) :
    ∃ bytes, encodeInt n = .ok bytes ∧ StandFor bytes (.atom (.int n)) := by
  obtain ⟨hlow, hhigh⟩ := h
  unfold MessagePack.encodeInt
  dsimp only
  by_cases hn : 0 ≤ n
  · obtain ⟨m, rfl⟩ := Int.eq_ofNat_of_zero_le hn
    rw [if_pos hn, Int.toNat_natCast]
    split
    next hm =>
      have hl : layoutOf (UInt8.ofNat m) = some (.item (.atom (.int m))) := by
        have hb : (UInt8.ofNat m).toNat = m := by rw [UInt8.toNat_ofNat']; omega
        rw [layoutOf, hb]
        exact if_pos hm
      exact ⟨_, rfl, .of_layout hl fun rest => rfl⟩
    split
    next hm => exact ⟨_, rfl, standFor_unsigned rfl hm⟩
    split
    next hm => exact ⟨_, rfl, standFor_unsigned rfl hm⟩
    split
    next hm => exact ⟨_, rfl, standFor_unsigned rfl hm⟩
    rw [if_pos (by omega)]
    exact ⟨_, rfl, standFor_unsigned rfl (by omega)⟩
  · rw [if_neg hn]
    split
    next hm =>
      have hl : layoutOf (UInt8.ofNat (0x100 + n).toNat) = some (.item (.atom (.int n))) := by
        have hb : (UInt8.ofNat (0x100 + n).toNat).toNat = (0x100 + n).toNat := by
          rw [UInt8.toNat_ofNat']
          omega
        rw [layoutOf, hb]
        rw [if_neg (by omega), if_neg (by omega), if_neg (by omega), if_neg (by omega),
          if_pos (by omega)]
        congr 4
        omega
      exact ⟨_, rfl, .of_layout hl fun rest => rfl⟩
    split
    next hm => exact ⟨_, rfl, standFor_signed rfl (by omega) (by omega) (by omega)⟩
    split
    next hm => exact ⟨_, rfl, standFor_signed rfl (by omega) (by omega) (by omega)⟩
    split
    next hm => exact ⟨_, rfl, standFor_signed rfl (by omega) (by omega) (by omega)⟩
    exact ⟨_, rfl, standFor_signed rfl (by omega) (by omega) (by omega)⟩

theorem encodeInt_of_not_inRange {n : Int} (h : ¬ InRange n) : encodeInt n = .error .tooLarge := by
  unfold InRange at h
  unfold encodeInt
  dsimp only
  split
  · rw [if_neg (by omega), if_neg (by omega), if_neg (by omega), if_neg (by omega),
      if_neg (by omega)]
  · rw [if_neg (by omega), if_neg (by omega), if_neg (by omega), if_neg (by omega),
      if_neg (by omega)]

/-- Lengths stay below this bound. -/
def maxLength : Nat := 0x100000000

theorem encodeLength_eq_ok (kind : String) (mark8 : Option UInt8) (mark16 mark32 : UInt8)
    {n : Nat} (hn : n < maxLength) : ∃ mark width,
      encodeLength kind mark8 mark16 mark32 n = .ok (mark :: bigEndian width n) ∧ n < 256 ^ width ∧
      (mark8 = some mark ∧ width = 1 ∨ mark = mark16 ∧ width = 2 ∨ mark = mark32 ∧ width = 4) := by
  have hwider : ∃ mark width,
      encodeLength.wider kind mark16 mark32 n = .ok (mark :: bigEndian width n) ∧
      n < 256 ^ width ∧
      (mark = mark16 ∧ width = 2 ∨ mark = mark32 ∧ width = 4) := by
    unfold encodeLength.wider
    split
    next h16 => exact ⟨mark16, 2, rfl, h16, .inl ⟨rfl, rfl⟩⟩
    next =>
      rw [if_pos (show n < 0x100000000 from hn)]
      exact ⟨mark32, 4, rfl, hn, .inr ⟨rfl, rfl⟩⟩
  obtain ⟨mark, width, hlength, hwidth, hmark⟩ := hwider
  unfold encodeLength
  split
  next mark8 =>
    split
    next h8 => exact ⟨mark8, 1, rfl, h8, .inl ⟨rfl, rfl⟩⟩
    next => exact ⟨mark, width, hlength, hwidth, .inr hmark⟩
  next => exact ⟨mark, width, hlength, hwidth, .inr hmark⟩

theorem encodeLength_of_long {n : Nat} (h : ¬ n < maxLength) (kind : String)
    (mark8 : Option UInt8) (mark16 mark32 : UInt8) :
    encodeLength kind mark8 mark16 mark32 n = .error (.refused (.tooLong kind)) := by
  unfold maxLength at h
  have hwider : encodeLength.wider kind mark16 mark32 n = .error (.refused (.tooLong kind)) := by
    rw [encodeLength.wider, if_neg (by omega), if_neg (by omega)]
  unfold encodeLength
  split
  · rw [if_neg (by omega), hwider]
  · exact hwider

/-- The marks of a length tell its width. -/
theorem layoutOf_mark {l : Nat → Layout} {mark8 mark16 mark32 mark : UInt8} {width : Nat}
    (h8 : layoutOf mark8 = some (l 1)) (h16 : layoutOf mark16 = some (l 2))
    (h32 : layoutOf mark32 = some (l 4))
    (hmark : some mark8 = some mark ∧ width = 1 ∨ mark = mark16 ∧ width = 2 ∨
      mark = mark32 ∧ width = 4) : layoutOf mark = some (l width) := by
  rcases hmark with ⟨hmark, rfl⟩ | ⟨rfl, rfl⟩ | ⟨rfl, rfl⟩
  · cases hmark
    exact h8
  · exact h16
  · exact h32

/-- A list or table is announced by one byte if it is short, and by its length otherwise. -/
theorem standFor_head {kind : String} {base n : Nat} {mark16 mark32 : UInt8}
    {l16 l32 : Layout} {item : Nat → Item}
    (hn : n < maxLength)
    (hshort : n < 16 → layoutOf (UInt8.ofNat (base + n)) = some (.item (item n)))
    (h16 : layoutOf mark16 = some l16) (h32 : layoutOf mark32 = some l32)
    (hread16 : ∀ bytes,
      readLayout l16 bytes = payload 2 (fun b => .ok (item (ofBigEndian b))) bytes)
    (hread32 : ∀ bytes,
      readLayout l32 bytes = payload 4 (fun b => .ok (item (ofBigEndian b))) bytes) :
    ∃ head, (if n < 16 then .ok [UInt8.ofNat (base + n)]
      else encodeLength kind none mark16 mark32 n) = Except.ok head ∧ StandFor head (item n) := by
  split
  next h => exact ⟨_, rfl, .of_layout (hshort h) fun _ => rfl⟩
  next =>
    obtain ⟨mark, width, hlength, hwidth, hmark⟩ := encodeLength_eq_ok kind none mark16 mark32 hn
    refine ⟨_, hlength, ?_⟩
    have hitem : Except.ok (item (ofBigEndian (bigEndian width n))) =
        (Except.ok (item n) : Except DecodeFault Item) := by rw [ofBigEndian_bigEndian hwidth]
    rcases hmark with ⟨hnone, _⟩ | ⟨rfl, rfl⟩ | ⟨rfl, rfl⟩
    · cases hnone
    · refine .of_layout h16 fun rest => ?_
      rw [hread16]
      exact payload_append (length_bigEndian 2 n) hitem rest
    · refine .of_layout h32 fun rest => ?_
      rw [hread32]
      exact payload_append (length_bigEndian 4 n) hitem rest

theorem standFor_listHead {n : Nat} (hn : n < maxLength) :
    ∃ head, listHead n = .ok head ∧ StandFor head (.list n) := by
  refine standFor_head hn (fun h => ?_) rfl rfl (fun _ => rfl) fun _ => rfl
  have hb : (UInt8.ofNat (0x90 + n)).toNat = 0x90 + n := by rw [UInt8.toNat_ofNat']; omega
  rw [layoutOf, hb, if_neg (by omega), if_neg (by omega), if_pos (by omega),
    Nat.add_sub_cancel_left]

theorem standFor_tableHead {n : Nat} (hn : n < maxLength) :
    ∃ head, tableHead n = .ok head ∧ StandFor head (.table n) := by
  refine standFor_head hn (fun h => ?_) rfl rfl (fun _ => rfl) fun _ => rfl
  have hb : (UInt8.ofNat (0x80 + n)).toNat = 0x80 + n := by rw [UInt8.toNat_ofNat']; omega
  rw [layoutOf, hb, if_neg (by omega), if_pos (by omega), Nat.add_sub_cancel_left]

theorem standFor_text {s : String} (hs : s.utf8ByteSize < maxLength) :
    ∃ bytes, encodeAtom (.text s) = .ok bytes ∧ StandFor bytes (.atom (.text s)) := by
  rw [← length_textBytes] at hs
  have htext := textOf_textBytes s
  rw [encodeAtom, textHead]
  split
  next hshort =>
    refine ⟨_, rfl, .of_layout (l := .text (textBytes s).length) ?_ fun rest => ?_⟩
    · have hb : (UInt8.ofNat (0xa0 + (textBytes s).length)).toNat =
          0xa0 + (textBytes s).length := by
        rw [UInt8.toNat_ofNat']
        omega
      rw [layoutOf, hb, if_neg (by omega), if_neg (by omega), if_neg (by omega),
        if_pos (by omega), Nat.add_sub_cancel_left]
    · exact payload_append rfl htext rest
  next =>
    obtain ⟨mark, width, hlength, hwidth, hmark⟩ :=
      encodeLength_eq_ok "unicode string" (some 0xd9) 0xda 0xdb hs
    rw [hlength]
    refine ⟨_, rfl, .of_layout (l := .longText width) (layoutOf_mark rfl rfl rfl hmark)
      fun rest => ?_⟩
    exact sized_append hwidth rfl htext rest

end Heads

section Values

/-- Where a value stands within another one: it is the other one itself, or stands in a part of
it. -/
inductive Inside : Value → Value → Prop
  | here (v : Value) : Inside v v
  | item {v w : Value} {items : List Value} : w ∈ items → Inside v w → Inside v (.list items)
  | key {a : Atom} {w : Value} {fields : Table} : (a, w) ∈ fields →
      Inside (.atom a) (.table fields)
  | field {v w : Value} {a : Atom} {fields : Table} : (a, w) ∈ fields → Inside v w →
      Inside v (.table fields)

/-- A value whose integers there are bytes for. -/
def Ranged (v : Value) : Prop := ∀ n, Inside (.int n) v → InRange n

/-- A value that is not too large to be packed, or to be read back. -/
structure Sized (v : Value) : Prop where
  text : ∀ s, Inside (.text s) v → s.utf8ByteSize < maxLength
  list : ∀ items, Inside (.list items) v → items.length ≤ maxList
  table : ∀ fields, Inside (.table fields) v → fields.length ≤ maxTable

theorem Ranged.of_inside {v w : Value} (h : Ranged w) (hv : ∀ u, Inside u v → Inside u w) :
    Ranged v :=
  fun n hn => h n (hv _ hn)

theorem Sized.of_inside {v w : Value} (h : Sized w) (hv : ∀ u, Inside u v → Inside u w) :
    Sized v :=
  ⟨fun s hs => h.text s (hv _ hs), fun items hi => h.list items (hv _ hi),
    fun fields hf => h.table fields (hv _ hf)⟩

theorem inside_record {v : Value} {fields : Assoc String Value} (h : Inside v (.record fields)) :
    v = .record fields ∨ ∃ p ∈ fields, v = .text p.1 ∨ Inside v p.2 := by
  unfold Value.record at h ⊢
  cases h with
  | here => exact .inl rfl
  | key hp =>
    obtain ⟨p, hmem, heq⟩ := List.mem_map.1 hp
    cases heq
    exact .inr ⟨p, hmem, .inl rfl⟩
  | field hp hv =>
    obtain ⟨p, hmem, heq⟩ := List.mem_map.1 hp
    cases heq
    exact .inr ⟨p, hmem, .inr hv⟩

theorem Sized.record {fields : Assoc String Value} (hlength : fields.length ≤ maxTable)
    (hnames : ∀ p ∈ fields, p.1.utf8ByteSize < maxLength) (h : ∀ p ∈ fields, Sized p.2) :
    Sized (.record fields) := by
  refine ⟨fun s hs => ?_, fun items hi => ?_, fun t ht => ?_⟩
  · rcases inside_record hs with hs | ⟨p, hp, hs | hs⟩
    · cases hs
    · cases hs
      exact hnames p hp
    · exact (h p hp).text s hs
  · rcases inside_record hi with hi | ⟨p, hp, hi | hi⟩
    · cases hi
    · cases hi
    · exact (h p hp).list items hi
  · rcases inside_record ht with ht | ⟨p, hp, ht | ht⟩
    · cases ht
      rwa [List.length_map]
    · cases ht
    · exact (h p hp).table t ht

theorem ranged_text (s : String) : Ranged (.text s) := nofun

theorem ranged_int {n : Int} (h : InRange n) : Ranged (.int n) := by
  intro m hm
  cases hm
  exact h

theorem ranged_int_iff {n : Int} : Ranged (.int n) ↔ InRange n :=
  ⟨fun h => h n (.here _), ranged_int⟩

theorem ranged_list_iff {items : List Value} : Ranged (.list items) ↔ ∀ v ∈ items, Ranged v := by
  refine ⟨fun h v hv => h.of_inside fun _ => .item hv, fun h n hn => ?_⟩
  cases hn with
  | item hv hn => exact h _ hv n hn

theorem ranged_table_iff {fields : Table} :
    Ranged (.table fields) ↔ ∀ p ∈ fields, Ranged (.atom p.1) ∧ Ranged p.2 := by
  refine ⟨fun h (a, w) hp => ⟨fun n hn => ?_, h.of_inside fun _ => .field hp⟩, fun h n hn => ?_⟩
  · cases hn
    exact h n (.key hp)
  · cases hn with
    | key hp => exact (h _ hp).1 n (.here _)
    | field hp hn => exact (h _ hp).2 n hn

theorem ranged_record_iff {fields : Assoc String Value} :
    Ranged (.record fields) ↔ ∀ p ∈ fields, Ranged p.2 := by
  unfold Value.record
  rw [ranged_table_iff, List.forall_mem_map]
  exact forall₂_congr fun p _ => and_iff_right (ranged_text p.1)

theorem sized_text {s : String} (h : s.utf8ByteSize < maxLength) : Sized (.text s) := by
  refine ⟨fun t ht => ?_, nofun, nofun⟩
  cases ht
  exact h

theorem sized_int (n : Int) : Sized (.int n) := ⟨nofun, nofun, nofun⟩

mutual

/-- Whether a value keeps to all these limits. -/
def fits : Value → Bool
  | .atom (.int n) => decide (InRange n)
  | .atom (.text s) => decide (s.utf8ByteSize < maxLength)
  | .atom _ => true
  | .list items => decide (items.length ≤ maxList) && fitsItems items
  | .table fields => decide (fields.length ≤ maxTable) && fitsFields fields

def fitsItems : List Value → Bool
  | [] => true
  | v :: rest => fits v && fitsItems rest

def fitsFields : List (Atom × Value) → Bool
  | [] => true
  | (a, v) :: rest => fits (.atom a) && fits v && fitsFields rest

end

theorem fitsItems_iff {items : List Value} :
    fitsItems items = true ↔ ∀ v ∈ items, fits v = true := by
  induction items with
  | nil => simp [fitsItems]
  | cons v rest ih => simp [fitsItems, ih]

theorem fitsFields_iff {fields : Table} : fitsFields fields = true ↔
    ∀ p ∈ fields, fits (.atom p.1) = true ∧ fits p.2 = true := by
  induction fields with
  | nil => simp [fitsFields]
  | cons p rest ih =>
    obtain ⟨a, v⟩ := p
    simp only [fitsFields, Bool.and_eq_true, ih, List.forall_mem_cons]

theorem Inside.fits {v w : Value} (h : Inside v w) (hw : fits w = true) :
    MessagePack.fits v = true := by
  induction h with
  | here => exact hw
  | item hmem _ ih =>
    rw [MessagePack.fits, Bool.and_eq_true, fitsItems_iff] at hw
    exact ih (hw.2 _ hmem)
  | key hmem =>
    rw [MessagePack.fits, Bool.and_eq_true, fitsFields_iff] at hw
    exact (hw.2 _ hmem).1
  | field hmem _ ih =>
    rw [MessagePack.fits, Bool.and_eq_true, fitsFields_iff] at hw
    exact ih (hw.2 _ hmem).2

theorem ranged_of_fits {v : Value} (h : fits v = true) : Ranged v := by
  intro n hn
  have hint := hn.fits h
  rw [fits] at hint
  exact of_decide_eq_true hint

theorem sized_of_fits {v : Value} (h : fits v = true) : Sized v := by
  refine ⟨fun s hs => ?_, fun items hi => ?_, fun fields hf => ?_⟩
  · have htext := hs.fits h
    rw [fits] at htext
    exact of_decide_eq_true htext
  · have hitems := hi.fits h
    rw [fits, Bool.and_eq_true] at hitems
    exact of_decide_eq_true hitems.1
  · have hfields := hf.fits h
    rw [fits, Bool.and_eq_true] at hfields
    exact of_decide_eq_true hfields.1

/-- Atoms that are neither bytes nor of a kind that only a number tells. -/
def isPlain : Atom → Bool
  | .bytes _ | .extension _ _ | .moment _ _ => false
  | _ => true

/-- Plain data of so many levels at most, all tables having distinct texts for keys. -/
inductive Shaped : Nat → Value → Prop
  | atom {room : Nat} {a : Atom} : isPlain a = true → Shaped (room + 1) (.atom a)
  | list {room : Nat} {items : List Value} : (∀ v ∈ items, Shaped room v) →
      Shaped (room + 1) (.list items)
  | table {room : Nat} {fields : Table} : Atom.Texts (Assoc.keys fields) →
      (Assoc.keys fields).Nodup → (∀ p ∈ fields, Shaped room p.2) →
      Shaped (room + 1) (.table fields)

theorem standFor_atom {a : Atom} (hplain : isPlain a = true) (hranged : Ranged (.atom a))
    (hsized : Sized (.atom a)) :
    ∃ bytes, encodeAtom a = .ok bytes ∧ StandFor bytes (.atom a) := by
  cases a with
  | null => exact ⟨_, rfl, .of_layout rfl fun _ => rfl⟩
  | bool b => cases b <;> exact ⟨_, rfl, .of_layout rfl fun _ => rfl⟩
  | int n => exact (hranged n (.here _)).encodeInt
  | float x =>
    refine ⟨_, rfl, .of_layout (l := .float 8) rfl fun rest => ?_⟩
    rw [readLayout]
    refine payload_append (length_bigEndian 8 _) ?_ rest
    rw [floatOf_bigEndian]
  | text s => exact standFor_text (hsized.text s (.here _))
  | bytes | extension | moment => cases hplain

/-- A value is packed so that reading it comes out where the bytes end, whatever is behind them. -/
def Packs (room : Nat) (v : Value) : Prop :=
  ∃ bytes, encodeWithin room v = .ok bytes ∧ ∀ frames rest, frames.length + room ≤ maxDepth →
    decodeInto frames (bytes ++ rest) = (settle v frames).bind (goOn rest)

variable {room : Nat}

theorem packs_atom {a : Atom} (hplain : isPlain a = true) (hranged : Ranged (.atom a))
    (hsized : Sized (.atom a)) : Packs (room + 1) (.atom a) := by
  obtain ⟨bytes, hbytes, hstand⟩ := standFor_atom hplain hranged hsized
  exact ⟨bytes, by rw [encodeWithin, encodeAtomWithin, if_neg (by omega), hbytes],
    fun frames rest _ => hstand.decodeInto frames rest⟩

theorem packs_items {items : List Value} (h : ∀ v ∈ items, Packs room v) :
    ∃ bytes, encodeItems room items = .ok bytes ∧ ∀ outer read rest, items ≠ [] →
      outer.length + 1 + room ≤ maxDepth →
      decodeInto (.list items.length read :: outer) (bytes ++ rest) =
        (settle (.list (read ++ items)) outer).bind (goOn rest) := by
  induction items with
  | nil => exact ⟨[], rfl, fun _ _ _ hne => absurd rfl hne⟩
  | cons v later ih =>
    rw [List.forall_mem_cons] at h
    obtain ⟨first, hfirst, hv⟩ := h.1
    obtain ⟨bytes, hbytes, hlater⟩ := ih h.2
    refine ⟨first ++ bytes, by rw [encodeItems, hfirst, ok_bind, hbytes]; rfl, ?_⟩
    intro outer read rest _ hroom
    rw [List.append_assoc, hv _ _ (by simpa using hroom), settle]
    cases later with
    | nil =>
      cases hbytes
      rfl
    | cons w further =>
      rw [if_neg (by simp)]
      change decodeInto (.list (w :: further).length (read ++ [v]) :: outer) _ = _
      rw [hlater outer _ rest (List.cons_ne_nil _ _) hroom, List.append_assoc]
      rfl

theorem packs_list {items : List Value} (hlength : items.length ≤ maxList)
    (h : ∀ v ∈ items, Packs room v) : Packs (room + 1) (.list items) := by
  obtain ⟨head, hhead, hstand⟩ := standFor_listHead (n := items.length)
    (by unfold maxList at hlength; unfold maxLength; omega)
  obtain ⟨bytes, hbytes, hitems⟩ := packs_items h
  refine ⟨head ++ bytes, ?_, fun frames rest hroom => ?_⟩
  · rw [encodeWithin, if_neg (by omega), hhead]
    change (encodeItems room items >>= _) = _
    rw [hbytes]
    rfl
  · rw [List.append_assoc, hstand.decodeInto, takeItem, if_neg (by omega), if_neg (by omega)]
    split
    next hnone =>
      cases List.eq_nil_of_length_eq_zero hnone
      cases hbytes
      rfl
    next hsome =>
      change decodeInto (.list items.length [] :: frames) _ = _
      rw [hitems frames [] rest (fun h => hsome (by rw [h]; rfl)) (by omega), List.nil_append]

theorem Packs.room_ne {v : Value} (h : Packs room v) : room ≠ 0 := by
  rintro rfl
  obtain ⟨bytes, hbytes, _⟩ := h
  cases v <;> cases hbytes

theorem packs_fields {fields : Table} (htexts : Atom.Texts (Assoc.keys fields))
    (hkeys : ∀ p ∈ fields, Sized (.atom p.1)) (h : ∀ p ∈ fields, Packs room p.2) :
    ∃ bytes, encodeFields room fields = .ok bytes ∧ ∀ outer read rest, fields ≠ [] →
      (Assoc.keys (read ++ fields)).Nodup → outer.length + 1 + room ≤ maxDepth →
      decodeInto (.table fields.length read :: outer) (bytes ++ rest) =
        (settle (.table (read ++ fields)) outer).bind (goOn rest) := by
  induction fields with
  | nil => exact ⟨[], rfl, fun _ _ _ hne => absurd rfl hne⟩
  | cons p later ih =>
    obtain ⟨k, v⟩ := p
    rw [Assoc.keys_cons, Atom.Texts, List.forall_mem_cons] at htexts
    rw [List.forall_mem_cons] at hkeys h
    obtain ⟨⟨s, rfl⟩, htexts⟩ := htexts
    obtain ⟨key, hkey, hstand⟩ := standFor_text (hkeys.1.text s (.here _))
    obtain ⟨first, hfirst, hv⟩ := h.1
    obtain ⟨bytes, hbytes, hlater⟩ := ih htexts hkeys.2 h.2
    refine ⟨key ++ first ++ bytes, ?_, ?_⟩
    · rw [encodeFields, encodeAtomWithin, if_neg h.1.room_ne, hkey, ok_bind, hfirst, ok_bind,
        hbytes]
      rfl
    intro outer read rest _ hnodup hroom
    have hnew : Atom.text s ∉ Assoc.keys read := by
      rw [Assoc.keys, List.map_append, List.map_cons, List.nodup_append] at hnodup
      exact fun hmem => hnodup.2.2 _ hmem _ List.mem_cons_self rfl
    have hput : Assoc.put read (.text s) v = read ++ [(.text s, v)] :=
      Assoc.put_of_notMem v (Atom.exact_text s) hnew
    rw [List.append_assoc, List.append_assoc, hstand.decodeInto]
    change decodeInto (.field _ read (.atom (.text s)) :: outer) _ = _
    rw [hv _ _ (by simpa using hroom), settle]
    dsimp only
    rw [hput]
    cases later with
    | nil =>
      cases hbytes
      rfl
    | cons q further =>
      rw [if_neg (by simp)]
      change decodeInto (.table (q :: further).length (read ++ [(.text s, v)]) :: outer) _ = _
      rw [hlater outer _ rest (List.cons_ne_nil _ _) (by simpa using hnodup) hroom,
        List.append_assoc]
      rfl

theorem packs_table {fields : Table} (hlength : fields.length ≤ maxTable)
    (htexts : Atom.Texts (Assoc.keys fields)) (hnodup : (Assoc.keys fields).Nodup)
    (hkeys : ∀ p ∈ fields, Sized (.atom p.1)) (h : ∀ p ∈ fields, Packs room p.2) :
    Packs (room + 1) (.table fields) := by
  obtain ⟨head, hhead, hstand⟩ := standFor_tableHead (n := fields.length)
    (by unfold maxTable at hlength; unfold maxLength; omega)
  obtain ⟨bytes, hbytes, hfields⟩ := packs_fields htexts hkeys h
  refine ⟨head ++ bytes, ?_, fun frames rest hroom => ?_⟩
  · rw [encodeWithin, if_neg (by omega), hhead]
    change (encodeFields room fields >>= _) = _
    rw [hbytes]
    rfl
  · rw [List.append_assoc, hstand.decodeInto, takeItem, if_neg (by omega), if_neg (by omega)]
    split
    next hnone =>
      cases List.eq_nil_of_length_eq_zero hnone
      cases hbytes
      rfl
    next hsome =>
      change decodeInto (.table fields.length [] :: frames) _ = _
      rw [hfields frames [] rest (fun h => hsome (by rw [h]; rfl)) hnodup (by omega),
        List.nil_append]

theorem Shaped.packs {v : Value} (h : Shaped room v) (hranged : Ranged v) (hsized : Sized v) :
    Packs room v := by
  induction h with
  | atom hplain => exact packs_atom hplain hranged hsized
  | list _ ih =>
    refine packs_list (hsized.list _ (.here _)) fun v hv => ?_
    have hpart (u : Value) (hu : Inside u v) := Inside.item hv hu
    exact ih v hv (hranged.of_inside hpart) (hsized.of_inside hpart)
  | table htexts hnodup _ ih =>
    refine packs_table (hsized.table _ (.here _)) htexts hnodup (fun p hp => ?_) fun p hp => ?_
    · refine hsized.of_inside fun u hu => ?_
      cases hu
      exact .key hp
    · have hpart (u : Value) (hu : Inside u p.2) := Inside.field hp hu
      exact ih p hp (hranged.of_inside hpart) (hsized.of_inside hpart)

/-- A value is read back as it was packed, and reading stops where its bytes end. -/
theorem Shaped.decode_encode {v : Value} (h : Shaped (maxNesting + 1) v) (hranged : Ranged v)
    (hsized : Sized v) :
    ∃ bytes, encode v = .ok bytes ∧ ∀ rest, decode (bytes ++ rest) = .ok (v, rest) := by
  obtain ⟨bytes, hbytes, hread⟩ := h.packs hranged hsized
  exact ⟨bytes, hbytes, fun rest => hread [] rest (by decide)⟩

end Values

end Questline.MessagePack
