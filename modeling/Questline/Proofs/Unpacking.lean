import Questline.Proofs.Packing

/-! Reading packed values that are cut off.  A reader that has not run out of bytes makes the same
of more of them, and whatever has been packed is read to its last byte; so nothing is made of
less. -/

namespace Questline.MessagePack

section Equations

theorem payload_eq (n : Nat) (item : Bytes → Except DecodeFault Item) (bytes : Bytes) :
    payload n item bytes = (split n bytes).bind fun p => (item p.1).map (·, p.2) := by
  unfold payload
  cases split n bytes with
  | error why => rfl
  | ok p =>
    dsimp only [Except.bind]
    cases item p.1 <;> rfl

theorem sized_eq (width : Nat) (item : Bytes → Except DecodeFault Item) (bytes : Bytes) :
    sized width item bytes =
      (split width bytes).bind fun p => payload (ofBigEndian p.1) item p.2 := by
  unfold sized
  cases split width bytes <;> rfl

theorem sizedExtension_eq (width : Nat) (item : Bytes → Except DecodeFault Item) (bytes : Bytes) :
    sizedExtension width item bytes = (split width bytes).bind fun p =>
      if ofBigEndian p.1 + 1 < 0x100000000 then payload (ofBigEndian p.1 + 1) item p.2
      else .error .badLength := by
  unfold sizedExtension
  cases split width bytes <;> rfl

end Equations

section Stability

variable {α β : Type} {read : Bytes → Except DecodeFault (α × Bytes)}

/-- A reader that, unless it runs out of bytes, makes the same of more of them and leaves those. -/
def Stable (read : Bytes → Except DecodeFault (α × Bytes)) : Prop :=
  ∀ bytes more, read bytes = .error .outOfData ∨
    read (bytes ++ more) = (read bytes).map fun p => (p.1, p.2 ++ more)

/-- An item takes up at least one byte. -/
theorem length_of_front {bytes : Bytes} {p : Item × Bytes} (h : front bytes = .ok p) :
    p.2.length < bytes.length := by
  cases bytes with
  | nil => cases h
  | cons b bytes =>
    rw [front] at h
    cases hl : layoutOf b with
    | none =>
      rw [hl] at h
      cases h
    | some l =>
      rw [hl] at h
      exact Nat.lt_succ_of_le (length_of_readLayout (l := l) h)

namespace Stable

theorem of_item (x : Except DecodeFault α) : Stable fun bytes => x.map (·, bytes) := by
  intro bytes more
  cases x <;> exact .inr rfl

theorem bind {next : α → Bytes → Except DecodeFault (β × Bytes)} (h : Stable read)
    (hnext : ∀ a, Stable (next a)) :
    Stable fun bytes => (read bytes).bind fun p => next p.1 p.2 := by
  intro bytes more
  dsimp only
  rcases h bytes more with hout | hmore
  · rw [hout]
    exact .inl rfl
  · rw [hmore]
    cases read bytes with
    | error why => exact .inr rfl
    | ok p => exact hnext p.1 p.2 more

theorem congr {read' : Bytes → Except DecodeFault (α × Bytes)} (h : Stable read)
    (hsame : ∀ bytes, read' bytes = read bytes) : Stable read' :=
  funext hsame ▸ h

theorem split (n : Nat) : Stable (split n) := by
  intro bytes more
  unfold MessagePack.split
  split
  next => exact .inl rfl
  next hlong =>
    have hn : n ≤ bytes.length := Nat.le_of_not_lt hlong
    rw [if_neg (by rw [List.length_append]; omega), List.take_append_of_le_length hn,
      List.drop_append_of_le_length hn]
    exact .inr rfl

theorem payload (n : Nat) (item : Bytes → Except DecodeFault Item) : Stable (payload n item) :=
  ((split n).bind fun first => of_item (item first)).congr (payload_eq n item)

theorem sized (width : Nat) (item : Bytes → Except DecodeFault Item) :
    Stable (sized width item) :=
  ((split width).bind fun n => payload (ofBigEndian n) item).congr (sized_eq width item)

theorem sizedExtension (width : Nat) (item : Bytes → Except DecodeFault Item) :
    Stable (sizedExtension width item) := by
  have hlimited (n : Bytes) : Stable fun rest => if ofBigEndian n + 1 < 0x100000000 then
      MessagePack.payload (ofBigEndian n + 1) item rest else .error .badLength := by
    split
    · exact payload _ item
    · exact of_item (.error .badLength)
  exact ((split width).bind hlimited).congr (sizedExtension_eq width item)

theorem readLayout (l : Layout) : Stable (readLayout l) := by
  intro bytes more
  unfold MessagePack.readLayout
  cases l with
  | item i => exact of_item (.ok i) bytes more
  | unsigned | signed | float | text | extension | longList | longTable =>
    exact payload _ _ bytes more
  | longText | longBytes => exact sized _ _ bytes more
  | longExtension => exact sizedExtension _ _ bytes more

theorem front : Stable front := by
  intro bytes more
  cases bytes with
  | nil => exact .inl rfl
  | cons b bytes =>
    rw [List.cons_append, MessagePack.front, MessagePack.front]
    cases layoutOf b with
    | none => exact .inr rfl
    | some l => exact readLayout l bytes more

theorem decodeInto (frames : List Frame) : Stable (decodeInto frames) := by
  intro bytes
  induction h : bytes.length using Nat.strong_induction_on generalizing frames bytes with
  | _ size ih =>
    intro more
    subst h
    rw [decodeInto_eq, decodeInto_eq]
    rcases front bytes more with hout | hmore
    · rw [hout]
      exact .inl rfl
    · rw [hmore]
      cases hfront : MessagePack.front bytes with
      | error why => exact .inr rfl
      | ok p =>
        change (takeItem p.1 frames).bind (goOn p.2) = _ ∨
          (takeItem p.1 frames).bind (goOn (p.2 ++ more)) =
            ((takeItem p.1 frames).bind (goOn p.2)).map _
        cases takeItem p.1 frames with
        | error why => exact .inr rfl
        | ok next =>
          cases next with
          | inl v => exact .inr rfl
          | inr frames => exact ih _ (length_of_front hfront) frames p.2 rfl more

theorem decode : Stable decode := decodeInto []

end Stable

end Stability

section Keys

/-- An answer that does not complain about a key. -/
def Keyless {α : Type} (x : Except DecodeFault α) : Prop := x ≠ .error .badKey

namespace Keyless

variable {α β : Type} {item : Bytes → Except DecodeFault Item}

theorem ok (a : α) : Keyless (.ok a) := nofun

theorem bind {x : Except DecodeFault α} {f : α → Except DecodeFault β} (hx : Keyless x)
    (hf : ∀ a, Keyless (f a)) : Keyless (x.bind f) := by
  cases x with
  | error why => exact fun he => hx (congrArg Except.error (Except.error.inj he))
  | ok a => exact hf a

theorem map {x : Except DecodeFault α} (hx : Keyless x) (f : α → β) : Keyless (x.map f) := by
  cases x with
  | error why => exact fun he => hx (congrArg Except.error (Except.error.inj he))
  | ok a => exact ok (f a)

theorem split (n : Nat) (bytes : Bytes) : Keyless (split n bytes) := by
  unfold MessagePack.split
  split <;> nofun

theorem payload (n : Nat) (h : ∀ bytes, Keyless (item bytes)) (bytes : Bytes) :
    Keyless (payload n item bytes) := by
  rw [payload_eq]
  exact (split n bytes).bind fun p => (h p.1).map (·, p.2)

theorem sized (width : Nat) (h : ∀ bytes, Keyless (item bytes)) (bytes : Bytes) :
    Keyless (sized width item bytes) :=
  sized_eq width item bytes ▸ (split width bytes).bind fun _ => payload _ h _

theorem textOf (bytes : Bytes) : Keyless (textOf bytes) := by
  unfold MessagePack.textOf
  split <;> nofun

theorem momentOf (bytes : Bytes) : Keyless (momentOf bytes) := by
  unfold MessagePack.momentOf
  dsimp only
  split
  · split <;> nofun
  · nofun

theorem extensionOf (bytes : Bytes) : Keyless (extensionOf bytes) := by
  unfold MessagePack.extensionOf
  split
  · simp [Keyless]
  · split
    · exact momentOf _
    · split <;> simp [Keyless]

theorem sizedExtension (width : Nat) (h : ∀ bytes, Keyless (item bytes)) (bytes : Bytes) :
    Keyless (sizedExtension width item bytes) := by
  rw [sizedExtension_eq]
  refine (split width bytes).bind fun p => ?_
  split
  · exact payload _ h _
  · nofun

theorem readLayout (l : Layout) (bytes : Bytes) : Keyless (readLayout l bytes) := by
  unfold MessagePack.readLayout
  cases l with
  | item i => exact ok (i, bytes)
  | unsigned | signed | float | longList | longTable => exact payload _ (fun _ => ok _) bytes
  | text => exact payload _ textOf bytes
  | extension => exact payload _ extensionOf bytes
  | longText => exact sized _ textOf bytes
  | longBytes => exact sized _ (fun _ => ok _) bytes
  | longExtension => exact sizedExtension _ extensionOf bytes

theorem front (bytes : Bytes) : Keyless (front bytes) := by
  unfold MessagePack.front
  split
  · simp [Keyless]
  next b bytes =>
    cases layoutOf b with
    | none => simp [Keyless]
    | some l => exact readLayout l bytes

end Keyless

end Keys

section Encodings

/-- A value has been read to where some bytes end, or reading has failed, though not for a key. -/
def ComesOut (x : Except DecodeFault (Value × Bytes)) (frames : List Frame) (rest : Bytes) : Prop :=
  (∃ w, x = (settle w frames).bind (goOn rest)) ∨ ∃ why, why ≠ .badKey ∧ x = .error why

theorem comesOut_tooDeep (frames : List Frame) (rest : Bytes) :
    ComesOut (.error .tooDeep) frames rest := .inr ⟨.tooDeep, nofun, rfl⟩

theorem comesOut_badLength (frames : List Frame) (rest : Bytes) :
    ComesOut (.error .badLength) frames rest := .inr ⟨.badLength, nofun, rfl⟩

/-- Bytes that are read to their last one, if they can be read, whatever is behind them. -/
def Whole (bytes : Bytes) : Prop :=
  ∀ frames rest, ComesOut (decodeInto frames (bytes ++ rest)) frames rest

/-- Bytes that hold one atom, if they hold anything, and are read to their last one. -/
def WholeAtom (bytes : Bytes) : Prop :=
  ∀ rest p, front (bytes ++ rest) = .ok p → (∃ a, p.1 = .atom a) ∧ p.2 = rest

theorem atom_of_extensionOf {bytes : Bytes} {i : Item} (h : extensionOf bytes = .ok i) :
    ∃ a, i = .atom a := by
  unfold extensionOf momentOf at h
  grind

theorem of_encodeLength {kind : String} {mark8 : Option UInt8} {mark16 mark32 : UInt8} {n : Nat}
    {bytes : Bytes} (h : encodeLength kind mark8 mark16 mark32 n = .ok bytes) :
    ∃ mark width, bytes = mark :: bigEndian width n ∧ n < 256 ^ width ∧
      (mark8 = some mark ∧ width = 1 ∨ mark = mark16 ∧ width = 2 ∨ mark = mark32 ∧ width = 4) := by
  by_cases hn : n < maxLength
  · obtain ⟨mark, width, hlength, hwidth, hmark⟩ :=
      encodeLength_eq_ok kind mark8 mark16 mark32 hn
    exact ⟨mark, width, Except.ok.inj (h.symm.trans hlength), hwidth, hmark⟩
  · rw [encodeLength_of_long hn] at h
    cases h

namespace WholeAtom

theorem of_standFor {bytes : Bytes} {a : Atom} (h : StandFor bytes (.atom a)) :
    WholeAtom bytes := by
  intro rest p hp
  cases (h rest).symm.trans hp
  exact ⟨⟨a, rfl⟩, rfl⟩

theorem of_layout {b : UInt8} {l : Layout} {bytes : Bytes} {x : Except DecodeFault Item}
    (hl : layoutOf b = some l) (hread : ∀ rest, readLayout l (bytes ++ rest) = x.map (·, rest))
    (hx : ∀ i, x = .ok i → ∃ a, i = .atom a) : WholeAtom (b :: bytes) := by
  intro rest p hp
  rw [List.cons_append, front, hl, Option.elim_some, hread] at hp
  obtain ⟨i, hi, rfl⟩ := map_eq_ok.1 hp
  exact ⟨hx i hi, rfl⟩

theorem decodeInto {bytes : Bytes} (h : WholeAtom bytes) (frames : List Frame) (rest : Bytes) :
    (∃ a, decodeInto frames (bytes ++ rest) = (settle (.atom a) frames).bind (goOn rest)) ∨
      ∃ why, why ≠ .badKey ∧ decodeInto frames (bytes ++ rest) = .error why := by
  rw [decodeInto_eq]
  cases hfront : front (bytes ++ rest) with
  | error why => exact .inr ⟨why, fun he => Keyless.front _ (he ▸ hfront), rfl⟩
  | ok p =>
    obtain ⟨i, left⟩ := p
    obtain ⟨⟨a, hi⟩, hleft⟩ := h rest _ hfront
    cases hi
    cases hleft
    exact .inl ⟨a, rfl⟩

theorem whole {bytes : Bytes} (h : WholeAtom bytes) : Whole bytes := fun frames rest =>
  (h.decodeInto frames rest).imp_left fun ⟨a, ha⟩ => ⟨.atom a, ha⟩

theorem extension {code : UInt8} {data head : Bytes}
    (h : extensionHead code data.length = .ok head) : WholeAtom (head ++ data) := by
  have hshort {b : UInt8} {n : Nat} (hl : layoutOf b = some (.extension n))
      (hn : data.length = n) : WholeAtom (b :: code :: data) :=
    .of_layout hl (payload_append_eq (by rw [List.length_cons, hn]) extensionOf)
      fun _ => atom_of_extensionOf
  unfold extensionHead at h
  split at h
  next hn => cases h; exact hshort rfl hn
  split at h
  next hn => cases h; exact hshort rfl hn
  split at h
  next hn => cases h; exact hshort rfl hn
  split at h
  next hn => cases h; exact hshort rfl hn
  split at h
  next hn => cases h; exact hshort rfl hn
  obtain ⟨first, hfirst, rfl⟩ := map_eq_ok.1 h
  obtain ⟨mark, width, rfl, hwidth, hmark⟩ := of_encodeLength hfirst
  rw [List.append_assoc, List.cons_append]
  refine .of_layout (l := .longExtension width) (x := if data.length + 1 < 0x100000000 then
    extensionOf (code :: data) else .error .badLength) (layoutOf_mark rfl rfl rfl hmark)
    (fun rest => ?_) fun i hi => ?_
  · rw [readLayout, List.append_assoc, sizedExtension_eq, split_append (length_bigEndian _ _)]
    change (if ofBigEndian (bigEndian width data.length) + 1 < _ then _ else _) = _
    rw [ofBigEndian_bigEndian hwidth]
    split
    · exact payload_append_eq (by simp) extensionOf rest
    · rfl
  · split at hi
    · exact atom_of_extensionOf hi
    · cases hi

theorem of_encodeAtom {a : Atom} {bytes : Bytes} (h : encodeAtom a = .ok bytes) :
    WholeAtom bytes := by
  have hplain (hplain : isPlain a = true) (hranged : Ranged (.atom a)) (hsized : Sized (.atom a)) :
      WholeAtom bytes := by
    obtain ⟨_, hbytes, hstand⟩ := standFor_atom hplain hranged hsized
    cases hbytes.symm.trans h
    exact .of_standFor hstand
  cases a with
  | null | bool | float => exact hplain rfl nofun ⟨nofun, nofun, nofun⟩
  | int n =>
    by_cases hn : InRange n
    · exact hplain rfl (ranged_int hn) (sized_int n)
    · rw [encodeAtom, encodeInt_of_not_inRange hn] at h
      cases h
  | text s =>
    by_cases hs : s.utf8ByteSize < maxLength
    · exact hplain rfl (ranged_text s) (sized_text hs)
    · rw [← length_textBytes] at hs
      have hlong : ¬ (textBytes s).length < 32 := by unfold maxLength at hs; omega
      rw [encodeAtom, textHead, if_neg hlong, encodeLength_of_long hs] at h
      cases h
  | bytes b =>
    obtain ⟨head, hhead, rfl⟩ := map_eq_ok.1 h
    obtain ⟨mark, width, rfl, hwidth, hmark⟩ := of_encodeLength hhead
    exact .of_standFor (a := .bytes b) (.of_layout (l := .longBytes width)
      (layoutOf_mark rfl rfl rfl hmark) fun rest => sized_append hwidth rfl rfl rest)
  | extension code data =>
    obtain ⟨head, hhead, rfl⟩ := map_eq_ok.1 h
    exact extension hhead
  | moment seconds nanos =>
    obtain ⟨head, hhead, rfl⟩ := map_eq_ok.1 h
    exact extension hhead

end WholeAtom

theorem standFor_of_listHead {n : Nat} {head : Bytes} (h : listHead n = .ok head) :
    StandFor head (.list n) := by
  by_cases hn : n < maxLength
  · obtain ⟨_, hhead, hstand⟩ := standFor_listHead hn
    cases hhead.symm.trans h
    exact hstand
  · rw [listHead, if_neg (by unfold maxLength at hn; omega), encodeLength_of_long hn] at h
    cases h

theorem standFor_of_tableHead {n : Nat} {head : Bytes} (h : tableHead n = .ok head) :
    StandFor head (.table n) := by
  by_cases hn : n < maxLength
  · obtain ⟨_, hhead, hstand⟩ := standFor_tableHead hn
    cases hhead.symm.trans h
    exact hstand
  · rw [tableHead, if_neg (by unfold maxLength at hn; omega), encodeLength_of_long hn] at h
    cases h

variable {room : Nat}

theorem atom_of_encodeAtomWithin {a : Atom} {bytes : Bytes}
    (h : encodeAtomWithin room a = .ok bytes) : WholeAtom bytes := by
  unfold encodeAtomWithin at h
  split at h
  · cases h
  · exact .of_encodeAtom h

section Parts

variable (hwhole : ∀ v bytes, encodeWithin room v = .ok bytes → Whole bytes)
include hwhole

theorem whole_items {items : List Value} {bytes : Bytes} (h : encodeItems room items = .ok bytes)
    (hsome : items ≠ []) (outer : List Frame) (read : List Value) (rest : Bytes) :
    ComesOut (decodeInto (.list items.length read :: outer) (bytes ++ rest)) outer rest := by
  induction items generalizing bytes read with
  | nil => exact absurd rfl hsome
  | cons v later ih =>
    obtain ⟨first, hfirst, h⟩ := bind_eq_ok.1 h
    obtain ⟨others, hothers, h⟩ := bind_eq_ok.1 h
    cases h
    rw [List.append_assoc]
    rcases hwhole v first hfirst (.list (v :: later).length read :: outer) (others ++ rest) with
      ⟨w, hw⟩ | hfailed
    · rw [hw, settle]
      cases later with
      | nil =>
        cases hothers
        exact .inl ⟨.list (read ++ [w]), rfl⟩
      | cons u further =>
        rw [if_neg (by simp)]
        exact ih hothers (List.cons_ne_nil _ _) (read ++ [w])
    · exact .inr hfailed

theorem whole_fields {fields : Table} {bytes : Bytes} (h : encodeFields room fields = .ok bytes)
    (hsome : fields ≠ []) (outer : List Frame) (read : Table) (rest : Bytes) :
    ComesOut (decodeInto (.table fields.length read :: outer) (bytes ++ rest)) outer rest := by
  induction fields generalizing bytes read with
  | nil => exact absurd rfl hsome
  | cons p later ih =>
    obtain ⟨k, v⟩ := p
    obtain ⟨key, hkey, h⟩ := bind_eq_ok.1 h
    obtain ⟨first, hfirst, h⟩ := bind_eq_ok.1 h
    obtain ⟨others, hothers, h⟩ := bind_eq_ok.1 h
    cases h
    rw [List.append_assoc, List.append_assoc]
    rcases (atom_of_encodeAtomWithin hkey).decodeInto
      (.table ((k, v) :: later).length read :: outer) (first ++ (others ++ rest)) with
      ⟨a, ha⟩ | hfailed
    · rw [ha]
      change ComesOut (decodeInto (.field _ read (.atom a) :: outer) _) outer rest
      rcases hwhole v first hfirst (.field ((k, v) :: later).length read (.atom a) :: outer)
        (others ++ rest) with ⟨w, hw⟩ | hfailed
      · rw [hw, settle]
        cases later with
        | nil =>
          cases hothers
          exact .inl ⟨.table (Assoc.put read a w), rfl⟩
        | cons q further =>
          rw [if_neg (by simp)]
          exact ih hothers (List.cons_ne_nil _ _) (Assoc.put read a w)
      · exact .inr hfailed
    · exact .inr hfailed

end Parts

/-- Whatever has been packed is read to its last byte, or not at all. -/
theorem whole_of_encodeWithin {v : Value} {bytes : Bytes} (h : encodeWithin room v = .ok bytes) :
    Whole bytes := by
  induction room generalizing v bytes with
  | zero => cases v <;> cases h
  | succ room ih =>
    cases v with
    | atom a => exact (atom_of_encodeAtomWithin h).whole
    | list items =>
      rw [encodeWithin, if_neg (by omega)] at h
      obtain ⟨head, hhead, h⟩ := bind_eq_ok.1 h
      obtain ⟨others, hothers, h⟩ := bind_eq_ok.1 h
      cases h
      intro frames rest
      rw [List.append_assoc, (standFor_of_listHead hhead).decodeInto, takeItem]
      split
      · exact comesOut_tooDeep frames rest
      split
      · exact comesOut_badLength frames rest
      split
      next hnone =>
        cases List.eq_nil_of_length_eq_zero hnone
        cases hothers
        exact .inl ⟨.list [], rfl⟩
      next hsome =>
        exact whole_items (fun _ _ => ih) hothers (fun he => hsome (by rw [he]; rfl)) frames [] rest
    | table fields =>
      rw [encodeWithin, if_neg (by omega)] at h
      obtain ⟨head, hhead, h⟩ := bind_eq_ok.1 h
      obtain ⟨others, hothers, h⟩ := bind_eq_ok.1 h
      cases h
      intro frames rest
      rw [List.append_assoc, (standFor_of_tableHead hhead).decodeInto, takeItem]
      split
      · exact comesOut_tooDeep frames rest
      split
      · exact comesOut_badLength frames rest
      split
      next hnone =>
        cases List.eq_nil_of_length_eq_zero hnone
        cases hothers
        exact .inl ⟨.table [], rfl⟩
      next hsome =>
        exact whole_fields (fun _ _ => ih) hothers (fun he => hsome (by rw [he]; rfl)) frames []
          rest

end Encodings

/-- What is packed at the front of some bytes is read from there, or cannot be read. -/
theorem decode_packed {v : Value} {bytes : Bytes} (h : encode v = .ok bytes) (rest : Bytes) :
    (∃ w, decode (bytes ++ rest) = .ok (w, rest)) ∨
      ∃ why, why ≠ .badKey ∧ decode (bytes ++ rest) = .error why :=
  whole_of_encodeWithin h [] rest

/-- Reading fails where what is packed is cut off. -/
theorem decode_cut {v : Value} {cut more : Bytes} (h : encode v = .ok (cut ++ more))
    (hmore : more ≠ []) : ∃ why, why ≠ .badKey ∧ decode cut = .error why := by
  have hpacked := decode_packed h []
  rw [List.append_nil] at hpacked
  rcases Stable.decode cut more with hout | hsame
  · exact ⟨.outOfData, nofun, hout⟩
  rw [hsame] at hpacked
  cases hcut : decode cut with
  | error why =>
    rw [hcut] at hpacked
    rcases hpacked with ⟨_, hw⟩ | ⟨_, hkey, hw⟩
    · cases hw
    · cases hw
      exact ⟨why, hkey, rfl⟩
  | ok p =>
    -- the missing bytes would be left over when the whole has been read
    rw [hcut] at hpacked
    rcases hpacked with ⟨_, hw⟩ | ⟨_, _, hw⟩
    · have hleft := congrArg Prod.snd (Except.ok.inj hw)
      exact absurd (List.append_eq_nil_iff.1 hleft).2 hmore
    · cases hw

end Questline.MessagePack
