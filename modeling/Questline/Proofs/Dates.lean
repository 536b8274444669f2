import Mathlib.Data.List.TakeWhile
import Questline.Proofs.Bytes
import Questline.Save.Date.Reading

/-! A date that a clock shows is read back as it was written: each number has its digits, and each
mark between two numbers is found where it was put. -/

namespace Questline.Date

section Digits

variable {width n : Nat}

theorem toList_padded (width n : Nat) : (padded width n).toList =
    List.replicate (width - (Nat.toDigits 10 n).length) '0' ++ Nat.toDigits 10 n := by
  rw [padded, String.toList_ofList]

theorem isDigit_of_mem_padded {c : Char} (h : c ∈ (padded width n).toList) : c.isDigit = true := by
  rw [toList_padded, List.mem_append, List.mem_replicate] at h
  rcases h with ⟨_, rfl⟩ | h
  · rfl
  · exact Nat.isDigit_of_mem_toDigits (by decide) (by decide) h

theorem length_padded (hwidth : 0 < width) (h : n < 10 ^ width) :
    (padded width n).toList.length = width := by
  have hlength := (Nat.length_toDigits_le_iff (b := 10) (by decide) hwidth).2 h
  rw [toList_padded, List.length_append, List.length_replicate]
  omega

theorem readDigits_padded (hwidth : 0 < width) (h : n < 10 ^ width) (rest : List Char) :
    readDigits width ((padded width n).toList ++ rest) = some (n, rest) := by
  have hlength := length_padded hwidth h
  have hall : (padded width n).toList.all Char.isDigit = true :=
    List.all_eq_true.2 fun c hc => isDigit_of_mem_padded hc
  have hvalue : Nat.ofDigitChars 10 (padded width n).toList 0 = n := by
    rw [toList_padded, Nat.ofDigitChars_append, Nat.ofDigitChars_replicate_zero, Nat.mul_zero,
      Nat.ofDigitChars_toDigits (by decide) (by decide)]
  unfold readDigits
  dsimp only
  rw [List.take_left' hlength, List.drop_left' hlength, if_pos ⟨hlength, hall⟩]
  exact congrArg (fun n => some (n, rest)) hvalue

end Digits

theorem byteChars_of_ascii {s : String} (h : ∀ c ∈ s.toList, c.toNat < 0x80) :
    byteChars s = s.toList := by
  rw [byteChars, toList_toUTF8]
  generalize s.toList = cs at h
  induction cs with
  | nil => rfl
  | cons c rest ih =>
    rw [List.forall_mem_cons] at h
    have hc : Char.ofNat (UInt8.ofNat c.toNat).toNat = c := by
      rw [UInt8.toNat_ofNat', Nat.mod_eq_of_lt (by omega), Char.ofNat_toNat]
    rw [List.flatMap_cons, utf8EncodeChar_of_ascii h.1, List.map_append, ih h.2]
    exact congrArg (· :: rest) hc

/-- A date that a clock without a zone can show. -/
structure Shown (d : Date) : Prop where
  year : 0 < d.year ∧ d.year ≤ 9999
  onCalendar : d.isOnCalendar = true
  minute : d.minute ≤ 59
  second : d.second ≤ 59
  micro : d.micro < 1000000
  zone : d.zone = none

def clockChars (c : Clock) : List Char :=
  (padded 2 c.hour).toList ++ ':' :: ((padded 2 c.minute).toList ++ ':' ::
    ((padded 2 c.second).toList ++ (fractionText c.micro).toList))

/-- The time of day of a date. -/
def clock (d : Date) : Clock :=
  { hour := d.hour, minute := d.minute, second := d.second, micro := d.micro }

theorem toList_write {d : Date} (h : d.zone = none) : d.write.toList =
    (padded 4 d.year).toList ++ '-' :: ((padded 2 d.month).toList ++ '-' ::
      ((padded 2 d.day).toList ++ 'T' :: clockChars d.clock)) := by
  unfold write clockChars clock
  rw [h]
  simp only [String.toList_append, List.append_assoc]
  simp

theorem mem_fractionText {micro : Nat} {c : Char} (h : c ∈ (fractionText micro).toList) :
    c.isDigit = true ∨ c = '.' := by
  unfold fractionText at h
  split at h
  · simp at h
  · rw [String.toList_append, List.mem_append] at h
    rcases h with h | h
    · exact .inr (by simpa using h)
    · exact .inl (isDigit_of_mem_padded h)

theorem mem_clockChars {c : Clock} {x : Char} (h : x ∈ clockChars c) :
    x.isDigit = true ∨ x = ':' ∨ x = '.' := by
  simp only [clockChars, List.mem_append, List.mem_cons] at h
  rcases h with h | rfl | h | rfl | h | h
  · exact .inl (isDigit_of_mem_padded h)
  · exact .inr (.inl rfl)
  · exact .inl (isDigit_of_mem_padded h)
  · exact .inr (.inl rfl)
  · exact .inl (isDigit_of_mem_padded h)
  · exact (mem_fractionText h).imp id .inr

theorem readFraction_padded {micro : Nat} (h : micro < 1000000) :
    readFraction (padded 6 micro).toList = some (micro, true) := by
  have hlength := length_padded (by decide : 0 < 6) h
  have hdigits := readDigits_padded (by decide : 0 < 6) h []
  rw [List.append_nil] at hdigits
  unfold readFraction
  rw [hlength]
  change (readDigits 6 _ >>= _) = _
  rw [hdigits]
  simp [atEnd]

theorem next_colon (c : Clock) {tail : List Char} (h : tail ≠ [])
    (more : List Char → Option (Clock × Bool)) :
    readClock.next c true (':' :: tail) more = more tail := by
  cases tail with
  | nil => exact absurd rfl h
  | cons => rfl

theorem padded_append_ne_nil {width n : Nat} (hwidth : 0 < width) (h : n < 10 ^ width)
    (rest : List Char) : (padded width n).toList ++ rest ≠ [] := by
  have hlength := length_padded hwidth h
  intro hnil
  rw [(List.append_eq_nil_iff.1 hnil).1] at hlength
  exact absurd hlength (Nat.ne_of_lt hwidth)

theorem next_fraction {c : Clock} (hmicro : c.micro < 1000000) :
    readClock.next { c with micro := 0 } true (fractionText c.micro).toList
      (readClock.fraction { c with micro := 0 }) = some (c, true) := by
  unfold fractionText
  split
  next hnone =>
    obtain ⟨hour, minute, second, micro⟩ := c
    cases hnone
    rfl
  next =>
    have hread := readFraction_padded hmicro
    have hlength := length_padded (by decide : 0 < 6) hmicro
    have hpoint (s : String) : ("." ++ s).toList = '.' :: s.toList := by simp
    rw [hpoint]
    cases hdigits : (padded 6 c.micro).toList with
    | nil =>
      rw [hdigits] at hlength
      cases hlength
    | cons x rest =>
      change readClock.fraction { c with micro := 0 } (x :: rest) = _
      rw [readClock.fraction, ← hdigits, hread]
      rfl

theorem readClock_clockChars {c : Clock} (hhour : c.hour < 100) (hminute : c.minute < 100)
    (hsecond : c.second < 100) (hmicro : c.micro < 1000000) :
    readClock (clockChars c) = some (c, true) := by
  unfold readClock clockChars
  rw [readDigits_padded (by decide) hhour]
  simp only [Option.bind_eq_bind, Option.bind_some, List.head?_cons, beq_self_eq_true]
  rw [next_colon _ (padded_append_ne_nil (by decide) hminute _),
    readDigits_padded (by decide) hminute, Option.bind_some,
    next_colon _ (padded_append_ne_nil (by decide) hsecond _),
    readDigits_padded (by decide) hsecond, Option.bind_some]
  exact next_fraction hmicro

theorem readTime_clockChars {d : Date} {c : Clock} (hhour : c.hour < 100) (hminute : c.minute < 100)
    (hsecond : c.second < 100) (hmicro : c.micro < 1000000) :
    readTime d (clockChars c) = some { d with
      hour := c.hour, minute := c.minute, second := c.second, micro := c.micro, zone := none } := by
  have hmarks : ∀ x ∈ clockChars c, (!isZoneMark x) = true := by
    intro x hx
    rcases mem_clockChars hx with hdigit | rfl | rfl
    · rw [Bool.not_eq_true', ← Bool.not_eq_true]
      intro hmark
      simp only [isZoneMark, Bool.or_eq_true, beq_iff_eq] at hmark
      rcases hmark with (rfl | rfl) | rfl <;> cases hdigit
    · rfl
    · rfl
  unfold readTime
  dsimp only
  rw [List.takeWhile_eq_self_iff.2 hmarks, List.dropWhile_eq_nil_iff.2 hmarks,
    readClock_clockChars hhour hminute hsecond hmicro]
  rfl

/-- Two digits begin with one, which is no letter. -/
theorem exists_padded_two {n : Nat} (h : n < 100) :
    ∃ a b, (padded 2 n).toList = [a, b] ∧ a ≠ 'W' := by
  have hlength := length_padded (by decide : 0 < 2) h
  match hdigits : (padded 2 n).toList, hlength with
  | [a, b], _ =>
    refine ⟨a, b, rfl, ?_⟩
    rintro rfl
    have hdigit : 'W'.isDigit = true := isDigit_of_mem_padded (hdigits ▸ List.mem_cons_self)
    cases hdigit

section Day

variable {year month day : Nat} (hyear : year < 10000) (hmonth : month < 100) (hday : day < 100)
  (rest : List Char)
include hyear hmonth

theorem dateLength_padded :
    dateLength ((padded 4 year).toList ++ '-' :: ((padded 2 month).toList ++ rest)) = 10 := by
  obtain ⟨a, b, hdigits, ha⟩ := exists_padded_two hmonth
  unfold dateLength
  rw [List.drop_left' (length_padded (by decide) hyear), hdigits]
  split
  next heq =>
    cases heq
    exact absurd rfl ha
  next => rfl
  next heq => cases heq
  next _ hdash _ => exact (hdash _ rfl).elim

include hday

theorem readDay_padded : readDay 10 ((padded 4 year).toList ++ '-' ::
    ((padded 2 month).toList ++ '-' :: ((padded 2 day).toList ++ rest))) =
      some { year, month, day } := by
  obtain ⟨a, b, hdigits, ha⟩ := exists_padded_two hmonth
  have hread := readDigits_padded (by decide : 0 < 2) hmonth
    ('-' :: ((padded 2 day).toList ++ rest))
  rw [hdigits] at hread
  have hdash (cs : List Char) : dropDash true ('-' :: cs) = some cs := rfl
  unfold readDay
  rw [readDigits_padded (by decide) hyear, hdigits]
  simp only [Option.bind_eq_bind, Option.bind_some, List.head?_cons, beq_self_eq_true, if_true,
    List.drop_succ_cons, List.drop_zero]
  split
  next heq =>
    cases heq
    exact absurd rfl ha
  next =>
    rw [hread]
    simp only [Option.bind_some, hdash, readDigits_padded (by decide : 0 < 2) hday]

theorem drop_padded : ((padded 4 year).toList ++ '-' :: ((padded 2 month).toList ++ '-' ::
    ((padded 2 day).toList ++ rest))).drop 10 = rest := by
  have hsplit : (padded 4 year).toList ++ '-' :: ((padded 2 month).toList ++ '-' ::
      ((padded 2 day).toList ++ rest)) =
      ((padded 4 year).toList ++ '-' :: ((padded 2 month).toList ++
        '-' :: (padded 2 day).toList)) ++ rest := by simp
  rw [hsplit, List.drop_left']
  simp [length_padded (by decide : 0 < 4) hyear, length_padded (by decide : 0 < 2) hmonth,
    length_padded (by decide : 0 < 2) hday]

end Day

theorem readParts_eq {cs rest : List Char} {d : Date} (hday : readDay (dateLength cs) cs = some d)
    (hrest : cs.drop (dateLength cs) = 'T' :: rest) : readParts cs = readTime d rest := by
  rw [readParts, hday, Option.bind_eq_bind, Option.bind_some, hrest]
  rfl

theorem isAscii_of_isDigit {c : Char} (h : c.isDigit = true) : c.toNat < 0x80 := by
  have hnine : c.toNat ≤ 57 := (Char.isDigit_iff_toNat.1 h).2
  omega

theorem byteChars_write {d : Date} (h : d.zone = none) : byteChars d.write = d.write.toList := by
  refine byteChars_of_ascii fun c hc => ?_
  rw [toList_write h] at hc
  simp only [List.mem_append, List.mem_cons] at hc
  rcases hc with hc | rfl | hc | rfl | hc | rfl | hc
  · exact isAscii_of_isDigit (isDigit_of_mem_padded hc)
  · decide
  · exact isAscii_of_isDigit (isDigit_of_mem_padded hc)
  · decide
  · exact isAscii_of_isDigit (isDigit_of_mem_padded hc)
  · decide
  · rcases mem_clockChars hc with hdigit | rfl | rfl
    · exact isAscii_of_isDigit hdigit
    · decide
    · decide

theorem daysIn_lt (year month : Nat) : daysIn year month < 100 := by
  unfold daysIn
  split
  · split <;> decide
  · split <;> decide

/-- All numbers of a date that a clock shows fit into their digits. -/
theorem Shown.fits {d : Date} (h : d.Shown) : d.year < 10000 ∧ d.month < 100 ∧ d.day < 100 ∧
    d.clock.hour < 100 ∧ d.clock.minute < 100 ∧ d.clock.second < 100 := by
  obtain ⟨hyear, hcalendar, hminute, hsecond, _, _⟩ := h
  have hdays := daysIn_lt d.year d.month
  have hranges : 1 ≤ d.month ∧ d.month ≤ 12 ∧ 1 ≤ d.day ∧ d.day ≤ daysIn d.year d.month ∧
      d.hour < 24 := by
    simpa [isOnCalendar, and_assoc] using hcalendar
  change _ ∧ _ ∧ _ ∧ d.hour < 100 ∧ d.minute < 100 ∧ d.second < 100
  omega

theorem Shown.size_write {d : Date} (h : d.Shown) : d.write.utf8ByteSize ≤ 26 := by
  obtain ⟨hyear, hmonth, hday, hhour, hminute, hsecond⟩ := h.fits
  have hbytes : d.write.utf8ByteSize = d.write.toList.length := by
    rw [← byteChars_write h.zone, byteChars, List.length_map]
    exact (MessagePack.length_textBytes d.write).symm
  have hfraction : (fractionText d.clock.micro).toList.length ≤ 7 := by
    unfold fractionText
    split
    · decide
    · have hlength : (padded 6 d.clock.micro).toList.length = 6 :=
        length_padded (by decide) h.micro
      simp [hlength]
  have htwo {n : Nat} (hn : n < 100) : (padded 2 n).toList.length = 2 :=
    length_padded (by decide) hn
  rw [hbytes, toList_write h.zone, clockChars]
  simp only [List.length_append, List.length_cons, length_padded (by decide : 0 < 4) hyear,
    htwo hmonth, htwo hday, htwo hhour, htwo hminute, htwo hsecond]
  omega

/-- A date is read back as it was written. -/
theorem Shown.read_write {d : Date} (h : d.Shown) : read d.write = .ok d := by
  obtain ⟨hyear, hmonth, hday, hhour, hminute, hsecond⟩ := h.fits
  have hparts : readParts (byteChars d.write) = some d := by
    rw [byteChars_write h.zone, toList_write h.zone, readParts_eq
      (d := { year := d.year, month := d.month, day := d.day }) ?_ ?_,
      readTime_clockChars hhour hminute hsecond h.micro]
    · obtain ⟨year, month, day, hour, minute, second, micro, zone⟩ := d
      cases h.zone
      rfl
    · rw [dateLength_padded hyear hmonth, readDay_padded hyear hmonth hday]
    · rw [dateLength_padded hyear hmonth, drop_padded hyear hmonth hday]
  rw [read, hparts]
  change checked d = .ok d
  unfold checked
  rw [h.zone]
  dsimp only [Option.getD_none]
  have hyears := h.year
  have hminutes := h.minute
  have hseconds := h.second
  have hmicros := h.micro
  rw [if_neg (by decide), if_neg (by omega), h.onCalendar, if_neg (by decide), if_neg (by omega),
    if_neg (by omega)]

end Questline.Date
