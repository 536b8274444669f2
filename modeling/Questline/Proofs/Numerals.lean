import Mathlib.Data.List.TakeWhile
import Mathlib.Data.Nat.Digits.Defs
import Questline.Proofs.Results
import Questline.Value.Reading

/-! Numbers that are typed.  A text of digits is taken for a number before it is read as one, and
the two do not agree: some digits have no value in a number, and a number may be too long. -/

namespace Questline

namespace Text

def isDecimal (c : Char) : Bool := (decimalValue? c).isSome

/-- The decimal number that a text is, in digits of any script. -/
def number? (s : String) : Option Nat :=
  if s = "" then none
  else (s.toList.mapM decimalValue?).map fun digits => Nat.ofDigits 10 digits.reverse

/-- Why a text of digits is misread, if it is: too many of its first digits are decimal, or one of
the digits is not. -/
def misreading? (s : String) : Option Fault :=
  let leading := (s.toList.takeWhile isDecimal).length
  if Decimal.maxDigits < leading then some (.refused (.tooManyDigits leading))
  else if leading < s.length then some .unreadable
  else none

/-- All characters that are digits. -/
def digitCodes : List Nat :=
  (decimalZeros.flatMap fun z => List.range' z 10) ++
    otherDigits.flatMap fun (a, b) => List.range' a (b + 1 - a)

theorem mem_digitCodes {c : Char} (h : isDigit c = true) : c.toNat ∈ digitCodes := by
  rw [isDigit, Bool.or_eq_true] at h
  rw [digitCodes, List.mem_append]
  refine h.imp (fun h => ?_) fun h => ?_
  · obtain ⟨_, hvalue⟩ := Option.isSome_iff_exists.1 h
    obtain ⟨z, hz, hvalue⟩ := List.exists_of_findSome?_eq_some hvalue
    have hrange : z ≤ c.toNat ∧ c.toNat < z + 10 := by
      by_contra hno
      rw [if_neg hno] at hvalue
      cases hvalue
    exact List.mem_flatMap.2 ⟨z, hz, List.mem_range'_1.2 hrange⟩
  · obtain ⟨⟨a, b⟩, hab, hrange⟩ := List.any_eq_true.1 h
    rw [Bool.and_eq_true, decide_eq_true_eq, decide_eq_true_eq] at hrange
    exact List.mem_flatMap.2 ⟨(a, b), hab, List.mem_range'_1.2 ⟨hrange.1, by omega⟩⟩

/-- No digit is one of the other characters of a numeral. -/
theorem plain_of_isDigit {c : Char} (h : isDigit c = true) :
    isNumberBlank c = false ∧ c ≠ '-' ∧ c ≠ '+' ∧ c ≠ '_' := by
  have hplain : ∀ n ∈ digitCodes, isNumberBlank (Char.ofNat n) = false ∧ Char.ofNat n ≠ '-' ∧
      Char.ofNat n ≠ '+' ∧ Char.ofNat n ≠ '_' := by decide +kernel
  have hc := hplain c.toNat (mem_digitCodes h)
  rwa [Char.ofNat_toNat] at hc

theorem trimBy_of_none {drop : Char → Bool} {cs : List Char} (h : ∀ c ∈ cs, drop c = false) :
    trimBy drop cs = cs := by
  have hnone {l : List Char} (hl : ∀ c ∈ l, drop c = false) : l.dropWhile drop = l := by
    cases l with
    | nil => rfl
    | cons c rest => rw [List.dropWhile_cons, hl c List.mem_cons_self, if_neg Bool.false_ne_true]
  rw [trimBy, hnone h, hnone fun c hc => h c (List.mem_reverse.1 hc), List.reverse_reverse]

end Text

namespace Decimal

variable {cs : List Char}

theorem ofDigits_eq (digits : List Nat) : ofDigits digits = Nat.ofDigits 10 digits.reverse := by
  rw [Nat.ofDigits_eq_foldr, List.foldr_reverse, ofDigits]
  congr 1
  funext n d
  exact Nat.add_comm ..

theorem readSign_of_digits (h : ∀ c ∈ cs, Text.isDigit c = true) : readSign cs = (false, cs) := by
  unfold readSign
  split
  next rest => exact absurd rfl (Text.plain_of_isDigit (h '-' List.mem_cons_self)).2.1
  next rest => exact absurd rfl (Text.plain_of_isDigit (h '+' List.mem_cons_self)).2.2.1
  next => rfl

/-- Nothing but a digit follows on a digit here, so reading goes on with each of them. -/
theorem readDigits_go_cons {c : Char} (hc : c ≠ '_') (seen : List Nat) (rest : List Char) :
    readDigits.go seen (c :: rest) = (Text.decimalValue? c).elim (seen.reverse, c :: rest)
      fun d => readDigits.go (d :: seen) rest := by
  rw [readDigits.go]
  · cases Text.decimalValue? c <;> rfl
  · exact fun _ _ he => absurd he hc

/-- Among digits reading goes on as far as they are decimal. -/
theorem readDigits_go (h : ∀ c ∈ cs, Text.isDigit c = true) (seen : List Nat) :
    readDigits.go seen cs =
      (seen.reverse ++ (cs.takeWhile Text.isDecimal).filterMap Text.decimalValue?,
        cs.dropWhile Text.isDecimal) := by
  induction cs generalizing seen with
  | nil => simp [readDigits.go]
  | cons c rest ih =>
    rw [List.forall_mem_cons] at h
    rw [readDigits_go_cons (Text.plain_of_isDigit h.1).2.2.2]
    cases hvalue : Text.decimalValue? c with
    | none => simp [hvalue, Text.isDecimal]
    | some d => simp [hvalue, Text.isDecimal, ih h.2]

theorem readDigits_of_digits (h : ∀ c ∈ cs, Text.isDigit c = true) :
    readDigits cs = if cs.takeWhile Text.isDecimal = [] then none
      else some ((cs.takeWhile Text.isDecimal).filterMap Text.decimalValue?,
        cs.dropWhile Text.isDecimal) := by
  cases cs with
  | nil => rfl
  | cons c rest =>
    rw [List.forall_mem_cons] at h
    cases hvalue : Text.decimalValue? c with
    | none => simp [readDigits, hvalue, Text.isDecimal]
    | some d => simp [readDigits, hvalue, Text.isDecimal, readDigits_go h.2]

theorem length_leading (cs : List Char) :
    ((cs.takeWhile Text.isDecimal).filterMap Text.decimalValue?).length =
      (cs.takeWhile Text.isDecimal).length := by
  rw [List.length_filterMap_eq_countP, List.countP_eq_length]
  intro c hc
  exact List.mem_takeWhile_imp (p := Text.isDecimal) hc

end Decimal

namespace Text

variable {s : String}

theorem isDigit_of_isNumeral (h : isNumeral s = true) : ∀ c ∈ s.toList, isDigit c = true := by
  rw [isNumeral, Bool.and_eq_true, List.all_eq_true] at h
  exact h.2

theorem mapM_decimalValue? {cs : List Char} (h : ∀ c ∈ cs, isDecimal c = true) :
    cs.mapM decimalValue? = some (cs.filterMap decimalValue?) := by
  induction cs with
  | nil => rfl
  | cons c rest ih =>
    rw [List.forall_mem_cons] at h
    obtain ⟨d, hd⟩ := Option.isSome_iff_exists.1 h.1
    simp [hd, ih h.2]

theorem isDecimal_of_mapM {cs : List Char} {digits : List Nat}
    (h : cs.mapM decimalValue? = some digits) : ∀ c ∈ cs, isDecimal c = true := by
  induction cs generalizing digits with
  | nil => simp
  | cons c rest ih =>
    rw [List.mapM_cons] at h
    obtain ⟨d, hd, h⟩ := Option.bind_eq_some_iff.1 h
    obtain ⟨rest', hrest, _⟩ := Option.bind_eq_some_iff.1 h
    exact List.forall_mem_cons.2 ⟨Option.isSome_iff_exists.2 ⟨d, hd⟩, ih hrest⟩

theorem leading_lt (cs : List Char) :
    (cs.takeWhile isDecimal).length < cs.length ↔ ¬ ∀ c ∈ cs, isDecimal c = true := by
  have hfront := List.takeWhile_prefix isDecimal (l := cs)
  rw [hfront.length_le.lt_iff_ne, Ne, ← List.takeWhile_eq_self_iff]
  exact not_congr ⟨hfront.eq_of_length, congrArg List.length⟩

/-- A number that is short enough is not misread. -/
theorem misreading?_of_number {k : Nat} (hk : number? s = some k)
    (hlength : s.length ≤ Decimal.maxDigits) : isNumeral s = true ∧ misreading? s = none := by
  unfold number? at hk
  split at hk
  next => cases hk
  next hne =>
    obtain ⟨digits, hdigits, _⟩ := Option.map_eq_some_iff.1 hk
    have hall := isDecimal_of_mapM hdigits
    have hleading : s.toList.takeWhile isDecimal = s.toList := List.takeWhile_eq_self_iff.2 hall
    constructor
    · rw [isNumeral, Bool.and_eq_true, List.all_eq_true]
      refine ⟨by simpa using hne, fun c hc => ?_⟩
      rw [isDigit, Bool.or_eq_true]
      exact .inl (hall c hc)
    · simp only [misreading?, hleading, String.length_toList]
      rw [if_neg (by omega), if_neg (by omega)]

end Text

section Numeral

variable {s : String} (h : Text.isNumeral s = true)
include h

theorem Decimal.readSign_of_numeral :
    readSign (Text.trimBy Text.isNumberBlank s.toList) = (false, s.toList) := by
  have hdigits := Text.isDigit_of_isNumeral h
  rw [Text.trimBy_of_none fun c hc => (Text.plain_of_isDigit (hdigits c hc)).1]
  exact readSign_of_digits hdigits

theorem Decimal.excessDigits?_of_numeral : excessDigits? s =
    if maxDigits < (s.toList.takeWhile Text.isDecimal).length then
      some (s.toList.takeWhile Text.isDecimal).length else none := by
  have hdigits := Text.isDigit_of_isNumeral h
  have hmark : (s.toList.dropWhile Text.isDecimal).head? ≠ some '_' := by
    intro hhead
    have hmem := (List.dropWhile_sublist _).subset (List.mem_of_head? hhead)
    exact (Text.plain_of_isDigit (hdigits _ hmem)).2.2.2 rfl
  rw [excessDigits?, readSign_of_numeral h, readDigits_of_digits hdigits]
  by_cases hnone : s.toList.takeWhile Text.isDecimal = []
  · rw [if_pos hnone, hnone]
    rfl
  · rw [if_neg hnone]
    simp only [length_leading, hmark, ne_eq, not_false_eq_true, and_true]

theorem Text.number?_of_decimal (hall : ∀ c ∈ s.toList, isDecimal c = true) :
    number? s = some (Nat.ofDigits 10 (s.toList.filterMap decimalValue?).reverse) := by
  have hempty : s ≠ "" := by
    rintro rfl
    cases h
  rw [number?, if_neg hempty, mapM_decimalValue? hall]
  rfl

theorem Decimal.readInt?_of_numeral : readInt? s =
    if (s.toList.takeWhile Text.isDecimal).length < s.length then none
    else (Text.number? s).map Int.ofNat := by
  have hread := readDigits_of_digits (Text.isDigit_of_isNumeral h)
  rw [readInt?, readSign_of_numeral h, ← String.length_toList]
  dsimp only
  by_cases hall : ∀ c ∈ s.toList, Text.isDecimal c = true
  · have hwhole := List.takeWhile_eq_self_iff.2 hall
    have hsome : s.toList ≠ [] := by
      intro hnil
      rw [String.toList_eq_nil_iff.1 hnil] at h
      cases h
    rw [hwhole, List.dropWhile_eq_nil_iff.2 hall, if_neg hsome] at hread
    rw [hread, hwhole, if_neg (Nat.lt_irrefl _), Text.number?_of_decimal h hall]
    exact congrArg (fun n => some (Int.ofNat n)) (ofDigits_eq _)
  · obtain ⟨c, rest, hrest⟩ := List.exists_cons_of_ne_nil (mt List.dropWhile_eq_nil_iff.1 hall)
    rw [if_pos ((Text.leading_lt _).2 hall), hread, hrest]
    by_cases hnone : s.toList.takeWhile Text.isDecimal = []
    · rw [if_pos hnone]
    · rw [if_neg hnone]

/-- A text of digits that is not misread is read as the number that it is. -/
theorem Value.readNumeral_eq :
    match Text.misreading? s with
    | some why => readNumeral s = .error why
    | none => ∃ k : Nat, Text.number? s = some k ∧ readNumeral s = .ok k := by
  unfold readNumeral Text.misreading?
  rw [Decimal.excessDigits?_of_numeral h, Decimal.readInt?_of_numeral h]
  dsimp only
  by_cases hmany : Decimal.maxDigits < (s.toList.takeWhile Text.isDecimal).length
  · rw [if_pos hmany, if_pos hmany]
  rw [if_neg hmany, if_neg hmany]
  by_cases hshort : (s.toList.takeWhile Text.isDecimal).length < s.length
  · rw [if_pos hshort, if_pos hshort]
    rfl
  rw [if_neg hshort, if_neg hshort]
  rw [← String.length_toList, Text.leading_lt, not_not] at hshort
  rw [Text.number?_of_decimal h hshort]
  exact ⟨_, rfl, rfl⟩

end Numeral

theorem Value.readNumeral_of_number {s : String} {k : Nat} (hk : Text.number? s = some k)
    (hlength : s.length ≤ Decimal.maxDigits) : readNumeral s = .ok k := by
  obtain ⟨hnum, hmisread⟩ := Text.misreading?_of_number hk hlength
  have hread := readNumeral_eq hnum
  rw [hmisread] at hread
  obtain ⟨k', hk', hread⟩ := hread
  cases hk.symm.trans hk'
  exact hread

end Questline
