import Questline.Proofs.Tables
import Questline.Text.Spelling
import Questline.Value.Reading

/-! The spellings of a name.  The words of a name are run together, each with a capital, or set
apart by underscores in small letters or in capitals; all of these are read as the same name.  The
first pass over words that are run together finds every other boundary between them, and the second
pass finds just the others. -/

namespace Questline.Text

/-- Within ASCII, lower case goes letter by letter. -/
theorem lowerAfter_ascii {cs : List Char} (h : ∀ c ∈ cs, c.toNat < 128) (before : List Char) :
    lowerAfter before cs = cs.map Char.toLower := by
  induction cs generalizing before with
  | nil => rfl
  | cons c rest ih =>
    rw [List.forall_mem_cons] at h
    have hsigma : c ≠ 'Σ' := by
      rintro rfl
      exact absurd h.1 (by decide)
    rw [lowerAfter, if_neg hsigma, lowerChar, if_pos h.1, ih h.2]
    rfl

theorem upperChar_ascii {cs : List Char} (h : ∀ c ∈ cs, c.toNat < 128) :
    cs.flatMap upperChar = cs.map Char.toUpper := by
  induction cs with
  | nil => rfl
  | cons c rest ih =>
    rw [List.forall_mem_cons] at h
    rw [List.flatMap_cons, upperChar, if_pos h.1, ih h.2]
    rfl

namespace Spelling

/-- A word of a name: a capital and small letters after it, at least one. -/
structure Word where
  capital : Char
  small : Char
  rest : List Char
  isCapital_capital : isCapital capital = true
  isSmall_small : ∀ c ∈ small :: rest, isSmall c = true

namespace Word

def chars (w : Word) : List Char := w.capital :: w.small :: w.rest

def text (w : Word) : String := String.ofList w.chars

end Word

/-- Words run together. -/
def camelCase (words : List Word) : String := String.join (words.map Word.text)

/-- Words in small letters, set apart. -/
def snakeCase (words : List Word) : String :=
  "_".intercalate (words.map fun w => w.text.map Char.toLower)

/-- Words in capitals, set apart. -/
def upperCase (words : List Word) : String :=
  "_".intercalate (words.map fun w => w.text.map Char.toUpper)

section Passes

variable {a b : Char} {cs smalls : List Char}

theorem splitWords_cons (h : isCapital b = false) :
    splitWords (a :: b :: cs) = a :: splitWords (b :: cs) := by
  cases cs with
  | nil => simp [splitWords]
  | cons c rest => rw [splitWords, if_neg (by simp [h])]

/-- Where no capital stands there are no words to set apart. -/
theorem splitWords_of_no_capital (h : ∀ c ∈ cs, isCapital c = false) : splitWords cs = cs := by
  fun_induction splitWords cs with
  | case1 a b c rest hword =>
    cases (h b (by simp)).symm.trans (by simp_all : isCapital b = true)
  | case2 a b c rest _ ih => rw [ih fun d hd => h d (List.mem_cons_of_mem _ hd)]
  | case3 => rfl

theorem splitWords_of_no_small (h : ∀ c ∈ cs, isSmall c = false) : splitWords cs = cs := by
  fun_induction splitWords cs with
  | case1 a b c rest hword =>
    cases (h c (by simp)).symm.trans (by simp_all : isSmall c = true)
  | case2 a b c rest _ ih => rw [ih fun d hd => h d (List.mem_cons_of_mem _ hd)]
  | case3 => rfl

theorem splitHumps_cons (h : isSmall a = false) (h' : isAsciiDigit a = false) :
    splitHumps (a :: cs) = a :: splitHumps cs := by
  cases cs with
  | nil => rfl
  | cons b rest => simp [splitHumps, h, h']

theorem splitHumps_of_no_capital (h : ∀ c ∈ cs, isCapital c = false) : splitHumps cs = cs := by
  fun_induction splitHumps cs with
  | case1 a b rest hhump =>
    cases (h b (by simp)).symm.trans (by simp_all : isCapital b = true)
  | case2 a b rest _ ih => rw [ih fun d hd => h d (List.mem_cons_of_mem _ hd)]
  | case3 => rfl

theorem splitHumps_of_no_small (h : ∀ c ∈ cs, isSmall c = false ∧ isAsciiDigit c = false) :
    splitHumps cs = cs := by
  induction cs with
  | nil => rfl
  | cons c rest ih =>
    rw [List.forall_mem_cons] at h
    rw [splitHumps_cons h.1.1 h.1.2, ih h.2]

theorem not_isCapital_of_isSmall (h : isSmall a = true) : isCapital a = false := by
  simp only [isSmall, isCapital, Char.le_def, Bool.and_eq_true, decide_eq_true_eq,
    Bool.and_eq_false_iff, decide_eq_false_iff_not] at *
  exact .inr fun hle => absurd (UInt32.le_trans h.1 hle) (by decide)

theorem not_isAsciiDigit_of_isSmall (h : isSmall a = true) : isAsciiDigit a = false := by
  simp only [isSmall, isAsciiDigit, Char.le_def, Bool.and_eq_true, decide_eq_true_eq,
    Bool.and_eq_false_iff, decide_eq_false_iff_not] at *
  exact .inr fun hle => absurd (UInt32.le_trans h.1 hle) (by decide)

theorem not_isSmall_of_isCapital (h : isCapital a = true) :
    isSmall a = false ∧ isAsciiDigit a = false := by
  simp only [isSmall, isAsciiDigit, isCapital, Char.le_def, Bool.and_eq_true, decide_eq_true_eq,
    Bool.and_eq_false_iff, decide_eq_false_iff_not] at *
  exact ⟨.inl fun hle => absurd (UInt32.le_trans hle h.2) (by decide),
    .inr fun hle => absurd (UInt32.le_trans h.1 hle) (by decide)⟩

/-- Small letters are left together, and set apart from a capital after them. -/
theorem splitHumps_smalls (hsome : smalls ≠ []) (h : ∀ c ∈ smalls, isSmall c = true) :
    splitHumps (smalls ++ cs) =
      smalls ++ (if cs.head?.any isCapital then '_' :: splitHumps cs else splitHumps cs) := by
  induction smalls with
  | nil => exact absurd rfl hsome
  | cons a rest ih =>
    rw [List.forall_mem_cons] at h
    cases rest with
    | cons b rest =>
      have hb := not_isCapital_of_isSmall (h.2 b List.mem_cons_self)
      rw [List.cons_append, List.cons_append, splitHumps, if_neg (by simp [hb])]
      exact congrArg (a :: ·) (ih nofun h.2)
    | nil =>
      cases cs with
      | nil => rfl
      | cons b cs =>
        by_cases hb : isCapital b = true
        · obtain ⟨hsmall, hdigit⟩ := not_isSmall_of_isCapital hb
          simp [splitHumps, h.1, hb, splitHumps_cons hsmall hdigit]
        · simp [splitHumps, hb]

end Passes

section Words

variable {cs smalls : List Char}

theorem Word.splitHumps (w : Word) (cs : List Char) : splitHumps (w.chars ++ cs) =
    w.chars ++ (if cs.head?.any isCapital then '_' :: Spelling.splitHumps cs
      else Spelling.splitHumps cs) := by
  obtain ⟨hsmall, hdigit⟩ := not_isSmall_of_isCapital w.isCapital_capital
  rw [chars, List.cons_append, splitHumps_cons hsmall hdigit,
    splitHumps_smalls (List.cons_ne_nil _ _) w.isSmall_small]
  rfl

/-- The small letters of a word are left together, and set apart from a word after them; the pass
then goes on behind that word. -/
theorem splitWords_smalls (hsome : smalls ≠ []) (h : ∀ c ∈ smalls, isSmall c = true) (w : Word)
    (hcs : ∀ c ∈ cs.head?, isSmall c = false) :
    splitWords (smalls ++ (w.chars ++ cs)) = smalls ++ '_' :: (w.chars ++ splitWords cs) := by
  induction smalls with
  | nil => exact absurd rfl hsome
  | cons a rest ih =>
    rw [List.forall_mem_cons] at h
    cases rest with
    | cons b rest =>
      have hb := not_isCapital_of_isSmall (h.2 b List.mem_cons_self)
      rw [List.cons_append, List.cons_append, splitWords_cons hb]
      exact congrArg (a :: ·) (ih nofun h.2)
    | nil =>
      have hline : a ≠ '\n' := by
        rintro rfl
        cases h.1
      obtain ⟨hsmall, hrest⟩ := List.forall_mem_cons.1 w.isSmall_small
      have hstop : cs.takeWhile isSmall = [] ∧ cs.dropWhile isSmall = cs := by
        cases cs with
        | nil => exact ⟨rfl, rfl⟩
        | cons b cs => simp [hcs b rfl]
      rw [Word.chars, List.singleton_append, List.cons_append, List.cons_append, splitWords,
        if_pos (by simp [hline, w.isCapital_capital, hsmall]),
        List.takeWhile_append_of_pos hrest, List.dropWhile_append_of_pos hrest, hstop.1, hstop.2]
      simp

theorem Word.splitWords_cons (w : Word) (cs : List Char) : splitWords (w.chars ++ cs) =
    w.capital :: splitWords (w.small :: w.rest ++ cs) :=
  Spelling.splitWords_cons (not_isCapital_of_isSmall (w.isSmall_small _ List.mem_cons_self))

/-- What the first pass makes of words that are run together: they are set apart two by two. -/
def paired : List Word → List Char
  | [] => []
  | [w] => w.chars
  | w :: v :: rest => w.chars ++ '_' :: (v.chars ++ paired rest)

theorem head?_flatMap (words : List Word) :
    (words.flatMap Word.chars).head? = words.head?.map Word.capital := by
  cases words <;> rfl

theorem head?_paired (words : List Word) :
    (paired words).head? = words.head?.map Word.capital := by
  fun_cases paired words <;> rfl

theorem splitWords_flatMap (words : List Word) :
    splitWords (words.flatMap Word.chars) = paired words := by
  fun_induction paired words with
  | case1 => simp [splitWords]
  | case2 w =>
    rw [List.flatMap_singleton, ← List.append_nil w.chars, w.splitWords_cons, List.append_nil,
      splitWords_of_no_capital fun c hc => not_isCapital_of_isSmall (w.isSmall_small c hc),
      List.append_nil]
    rfl
  | case3 w v rest ih =>
    have hstop : ∀ c ∈ (rest.flatMap Word.chars).head?, isSmall c = false := by
      rw [head?_flatMap]
      simp only [Option.mem_def, Option.map_eq_some_iff]
      rintro _ ⟨u, _, rfl⟩
      exact (not_isSmall_of_isCapital u.isCapital_capital).1
    rw [List.flatMap_cons, List.flatMap_cons, w.splitWords_cons,
      splitWords_smalls (List.cons_ne_nil _ _) w.isSmall_small v hstop, ih]
    rfl

/-- The second pass sets apart what the first one has left together. -/
theorem splitHumps_paired (words : List Word) :
    splitHumps (paired words) = ['_'].intercalate (words.map Word.chars) := by
  fun_induction paired words with
  | case1 => rfl
  | case2 w => simpa [Spelling.splitHumps] using w.splitHumps []
  | case3 w v rest ih =>
    have hunderscore : isCapital '_' = false ∧ isSmall '_' = false ∧ isAsciiDigit '_' = false := by
      decide
    rw [w.splitHumps, List.head?_cons, if_neg (by simp [hunderscore.1]),
      splitHumps_cons hunderscore.2.1 hunderscore.2.2, v.splitHumps, head?_paired, ih]
    cases rest with
    | nil => simp [List.intercalate_cons_cons]
    | cons u rest => simp [u.isCapital_capital, List.intercalate_cons_cons]

end Words

section Letters

variable {c : Char}

@[elab_as_elim]
theorem of_ascii {P : Char → Prop} (hc : c.toNat < 128)
    (h : ∀ n < 128, P (Char.ofNat n)) : P c :=
  Char.ofNat_toNat c ▸ h c.toNat hc

theorem ascii_of_letter (h : isCapital c = true ∨ isSmall c = true) :
    c.toNat < 128 := by
  simp only [isCapital, isSmall, Char.le_def, Bool.and_eq_true, decide_eq_true_eq] at h
  have hz : c.val ≤ 'z'.val := h.elim (fun h => UInt32.le_trans h.2 (by decide)) And.right
  exact Nat.lt_of_le_of_lt (UInt32.le_iff_toNat_le.1 hz) (by decide)

theorem not_isAsciiDigit_of_letter (h : isCapital c = true ∨ isSmall c = true) :
    isAsciiDigit c = false :=
  h.elim (fun h => (not_isSmall_of_isCapital h).2) not_isAsciiDigit_of_isSmall

variable (h : c.toNat < 128)
include h

theorem toLower_ascii : c.toLower.toNat < 128 := of_ascii h (by decide)

theorem toUpper_ascii : c.toUpper.toNat < 128 := of_ascii h (by decide)

theorem toLower_toLower : c.toLower.toLower = c.toLower := of_ascii h (by decide)

theorem toLower_toUpper : c.toUpper.toLower = c.toLower := of_ascii h (by decide)

theorem toUpper_toLower : c.toLower.toUpper = c.toUpper := of_ascii h (by decide)

theorem isCapital_toLower : isCapital c.toLower = false := of_ascii h (by decide)

theorem isSmall_toUpper : isSmall c.toUpper = false := of_ascii h (by decide)

theorem isAsciiDigit_toUpper : isAsciiDigit c.toUpper = isAsciiDigit c := of_ascii h (by decide)

end Letters

section Joined

variable {words : List Word}

/-- The letters of some words, set apart. -/
def joined (words : List Word) : List Char := ['_'].intercalate (words.map Word.chars)

/-- Names are spelled in ASCII, without any digits. -/
theorem plain_of_mem_joined {c : Char} (h : c ∈ joined words) :
    c.toNat < 128 ∧ isAsciiDigit c = false := by
  have hword {w : Word} (hc : c ∈ w.chars) : c.toNat < 128 ∧ isAsciiDigit c = false := by
    have hletter : isCapital c = true ∨ isSmall c = true := by
      rcases List.mem_cons.1 hc with rfl | hsmall
      · exact .inl w.isCapital_capital
      · exact .inr (w.isSmall_small c hsmall)
    exact ⟨ascii_of_letter hletter, not_isAsciiDigit_of_letter hletter⟩
  unfold joined at h
  induction words with
  | nil => simp at h
  | cons w rest ih =>
    cases rest with
    | nil => exact hword (by simpa using h)
    | cons v rest =>
      rw [List.map_cons, List.map_cons, List.intercalate_cons_cons, List.mem_append,
        List.mem_append, List.mem_singleton] at h
      rcases h with (hc | rfl) | hc
      · exact hword hc
      · decide
      · exact ih hc

theorem toList_camelCase (words : List Word) :
    (camelCase words).toList = words.flatMap Word.chars := by
  rw [camelCase, String.toList_join, List.flatMap_map]
  exact List.flatMap_congr fun w _ => String.toList_ofList

theorem toList_intercalate_map {f : Char → Char} (hf : f '_' = '_') (words : List Word) :
    ("_".intercalate (words.map fun w => w.text.map f)).toList = (joined words).map f := by
  rw [String.toList_intercalate, List.map_map, joined]
  induction words with
  | nil => rfl
  | cons w rest ih =>
    cases rest with
    | nil => simp [Word.text]
    | cons v rest =>
      rw [List.map_cons, List.map_cons, List.intercalate_cons_cons] at *
      rw [List.map_cons, List.map_cons, List.intercalate_cons_cons, List.map_append,
        List.map_append, ih]
      simp [Word.text, hf]

end Joined

section Reading

variable {words : List Word}

/-- A spelling is read by its letters, once the passes have set its words apart. -/
theorem snake_eq {s : String} {cs : List Char} (hpasses : splitHumps (splitWords s.toList) = cs)
    (hascii : ∀ c ∈ cs, c.toNat < 128)
    (hletters : cs.map Char.toLower = (joined words).map Char.toLower) :
    snake s = snakeCase words := by
  rw [snake, hpasses, lower, String.toList_ofList, lowerAfter_ascii hascii, hletters,
    ← toList_intercalate_map (by decide) words, String.ofList_toList]
  rfl

theorem snake_camelCase (words : List Word) : snake (camelCase words) = snakeCase words := by
  refine snake_eq ?_ (fun c hc => (plain_of_mem_joined hc).1) rfl
  rw [toList_camelCase, splitWords_flatMap, splitHumps_paired]
  rfl

theorem snake_snakeCase (words : List Word) : snake (snakeCase words) = snakeCase words := by
  have hcapital : ∀ c ∈ (joined words).map Char.toLower, isCapital c = false :=
    List.forall_mem_map.2 fun c hc => isCapital_toLower (plain_of_mem_joined hc).1
  have hpasses : splitHumps (splitWords (snakeCase words).toList) =
      (joined words).map Char.toLower := by
    rw [snakeCase, toList_intercalate_map (by decide), splitWords_of_no_capital hcapital,
      splitHumps_of_no_capital hcapital]
  refine snake_eq hpasses ?_ ?_
  · exact List.forall_mem_map.2 fun c hc => toLower_ascii (plain_of_mem_joined hc).1
  · rw [List.map_map]
    exact List.map_congr_left fun c hc => toLower_toLower (plain_of_mem_joined hc).1

theorem snake_upperCase (words : List Word) : snake (upperCase words) = snakeCase words := by
  have hsmall : ∀ c ∈ (joined words).map Char.toUpper, isSmall c = false ∧ isAsciiDigit c = false :=
    List.forall_mem_map.2 fun c hc => by
      obtain ⟨hascii, hdigit⟩ := plain_of_mem_joined hc
      exact ⟨isSmall_toUpper hascii, (isAsciiDigit_toUpper hascii).trans hdigit⟩
  have hpasses : splitHumps (splitWords (upperCase words).toList) =
      (joined words).map Char.toUpper := by
    rw [upperCase, toList_intercalate_map (by decide),
      splitWords_of_no_small fun c hc => (hsmall c hc).1, splitHumps_of_no_small hsmall]
  refine snake_eq hpasses ?_ ?_
  · exact List.forall_mem_map.2 fun c hc => toUpper_ascii (plain_of_mem_joined hc).1
  · rw [List.map_map]
    exact List.map_congr_left fun c hc => toLower_toUpper (plain_of_mem_joined hc).1

theorem upper_snakeCase (words : List Word) : upper (snakeCase words) = upperCase words := by
  have hascii : ∀ c ∈ (joined words).map Char.toLower, c.toNat < 128 :=
    List.forall_mem_map.2 fun c hc => toLower_ascii (plain_of_mem_joined hc).1
  have hletters : ((joined words).map Char.toLower).map Char.toUpper =
      (joined words).map Char.toUpper := by
    rw [List.map_map]
    exact List.map_congr_left fun c hc => toUpper_toLower (plain_of_mem_joined hc).1
  rw [upper, snakeCase, toList_intercalate_map (by decide), upperChar_ascii hascii, hletters,
    ← toList_intercalate_map (by decide) words, String.ofList_toList]
  rfl

/-- A member is found under every spelling of its name. -/
theorem readSpelling_eq {α : Type} [Vocabulary α]
    (hdistinct : ((Vocabulary.members : List α).map Vocabulary.name).Nodup) {a : α}
    (ha : a ∈ Vocabulary.members) (hname : Vocabulary.name a = upperCase words) {s : String}
    (hs : snake s = snakeCase words) : Value.readSpelling α (.text s) = .ok a := by
  have hfound : Vocabulary.ofSpelling? s = some a := by
    rw [Vocabulary.ofSpelling?, constant, hs, upper_snakeCase, ← hname]
    exact find?_of_distinct hdistinct ha
  rw [Value.readSpelling, hfound]
  rfl

end Reading

/-- Words that are run together, and the same words set apart in small letters or in capitals, are
one name: each spelling has the snake case that is spelled in small letters, and a member that is
named in capitals is found under each of them. -/
theorem spellings_of_one_name (words : List Word) :
    snake (camelCase words) = snakeCase words ∧ snake (snakeCase words) = snakeCase words ∧
      snake (upperCase words) = snakeCase words ∧
      ∀ (α : Type) [Vocabulary α], ((Vocabulary.members : List α).map Vocabulary.name).Nodup →
        ∀ a ∈ (Vocabulary.members : List α), Vocabulary.name a = upperCase words →
          ∀ spelling ∈ [camelCase words, snakeCase words, upperCase words],
            Value.readSpelling α (.text spelling) = .ok a := by
  have hcamel := snake_camelCase words
  have hsnake := snake_snakeCase words
  have hupper := snake_upperCase words
  refine ⟨hcamel, hsnake, hupper, fun α _ hdistinct a ha hname => ?_⟩
  simp only [List.forall_mem_cons, List.not_mem_nil, IsEmpty.forall_iff, implies_true, and_true]
  exact ⟨readSpelling_eq hdistinct ha hname hcamel, readSpelling_eq hdistinct ha hname hsnake,
    readSpelling_eq hdistinct ha hname hupper⟩

/-- Of three words the first pass leaves the last two together. -/
theorem spellings_of_one_name_visited :
    let words : List Word := [⟨'I', 's', [], rfl, List.all_eq_true.1 rfl⟩,
      ⟨'L', 'o', "cation".toList, rfl, List.all_eq_true.1 rfl⟩,
      ⟨'V', 'i', "sited".toList, rfl, List.all_eq_true.1 rfl⟩]
    splitWords (camelCase words).toList = "Is_LocationVisited".toList ∧
      snake "IsLocationVisited" = "is_location_visited" ∧
      ∀ spelling ∈ ["IsLocationVisited", "is_location_visited", "IS_LOCATION_VISITED"],
        Value.readSpelling Service (.text spelling) = .ok .isLocationVisited := by
  intro words
  have hcamel : camelCase words = "IsLocationVisited" := by decide +kernel
  have hsnake : snakeCase words = "is_location_visited" := by decide +kernel
  have hupper : upperCase words = "IS_LOCATION_VISITED" := by decide +kernel
  obtain ⟨hread, _, _, hfound⟩ := spellings_of_one_name words
  rw [hcamel, hsnake] at hread
  have hmember :=
    hfound Service (by decide +kernel) .isLocationVisited (by decide +kernel) hupper.symm
  rw [hcamel, hsnake, hupper] at hmember
  exact ⟨by decide +kernel, hread, hmember⟩

end Spelling

end Questline.Text
