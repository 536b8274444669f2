import Questline.Save.Date

/-! Reading dates in the ISO format: a calendar date or a week date, with or without dashes, and
behind any one character a time of day, with or without colons, and its zone.  Reading goes by the
bytes of the text, here each as the character of its number; a zero byte counts as the end. -/

namespace Questline.Date

/-- The bytes of a text, each as a character. -/
def byteChars (s : String) : List Char := s.toUTF8.toList.map fun b => Char.ofNat b.toNat

/-- Whether nothing more is to be read. -/
def atEnd (cs : List Char) : Bool := cs.headD '\x00' == '\x00'

/-- Exactly as many ASCII digits as asked for, and the rest. -/
def readDigits (count : Nat) (cs : List Char) : Option (Nat × List Char) :=
  let digits := cs.take count
  if digits.length = count ∧ digits.all Char.isDigit then
    some (digits.foldl (fun n c => 10 * n + (c.toNat - 48)) 0, cs.drop count)
  else none

/-- How many characters the date takes: ten in `YYYY-MM-DD` and `YYYY-Www-D`, eight in `YYYYMMDD`,
`YYYY-Www` and `YYYYWwwD`, seven in `YYYYWww`.  A digit two places behind a week with dashes
belongs to a time; behind a week without dashes, the digits up to the first other character are
the time's as far as they are pairs. -/
def dateLength (cs : List Char) : Nat :=
  match cs.drop 4 with
  | '-' :: 'W' :: _ =>
    match cs.drop 8 with
    | '-' :: _ :: c :: _ => if c.isDigit then 8 else 10
    | '-' :: _ => 10
    | _ => 8
  | '-' :: _ => 10
  | 'W' :: _ =>
    let stop := 7 + ((cs.drop 7).takeWhile Char.isDigit).length
    if stop < 9 then stop else if stop % 2 = 0 then 7 else 8
  | _ => 8

/-- Drops a dash where dashes are used. -/
def dropDash (dashed : Bool) (cs : List Char) : Option (List Char) :=
  if dashed then
    match cs with
    | '-' :: rest => some rest
    | _ => none
  else some cs

/-- A week of a year and, if it is given, the day of that week; otherwise its first day. -/
def readWeek (year : Nat) (dashed dayGiven : Bool) (cs : List Char) : Option Date := do
  let (week, rest) ← readDigits 2 cs
  let day ← if dayGiven then (← readDigits 1 (← dropDash dashed rest)).1 else some 1
  ofWeek? year week day

/-- Year, month and day, or year, week and day, out of as many characters. -/
def readDay (length : Nat) (cs : List Char) : Option Date := do
  let (year, rest) ← readDigits 4 cs
  let dashed := rest.head? == some '-'
  match (if dashed then rest.drop 1 else rest) with
  | 'W' :: rest => readWeek year dashed (decide ((if dashed then 8 else 7) < length)) rest
  | rest =>
    let (month, rest) ← readDigits 2 rest
    let (day, _) ← readDigits 2 (← dropDash dashed rest)
    some { year, month, day }

/-- What a clock shows. -/
structure Clock where
  hour : Nat := 0
  minute : Nat := 0
  second : Nat := 0
  micro : Nat := 0

/-- A fraction of a second in millionths: up to six digits, behind which further ones do not
count.  Tells whether nothing stands behind it. -/
def readFraction (cs : List Char) : Option (Nat × Bool) := do
  let count := min 6 cs.length
  let (n, rest) ← readDigits count cs
  some (n * Nat.pow 10 (6 - count), atEnd (rest.dropWhile Char.isDigit))

/-- Hours, then minutes, then seconds, as many as there are, all or none of them set apart by
colons; behind a point or comma a fraction, which behind the seconds needs no mark of its own.
Tells whether nothing stands behind the clock; one character behind it does no harm. -/
def readClock (cs : List Char) : Option (Clock × Bool) := do
  let (hour, rest) ← readDigits 2 cs
  let colons := rest.head? == some ':'
  next { hour } colons rest fun rest => do
    let (minute, rest) ← readDigits 2 rest
    next { hour, minute } colons rest fun rest => do
      let (second, rest) ← readDigits 2 rest
      next { hour, minute, second } colons rest (fraction { hour, minute, second })
where
  fraction (c : Clock) (rest : List Char) : Option (Clock × Bool) :=
    (readFraction rest).map fun (micro, done) => ({ c with micro }, done)
  next (c : Clock) (colons : Bool) (rest : List Char)
      (more : List Char → Option (Clock × Bool)) : Option (Clock × Bool) :=
    match rest with
    | [] | [_] => some (c, atEnd rest)
    | mark :: tail =>
      if colons && mark == ':' then more tail
      else if mark == '.' || mark == ',' then fraction c tail
      else if colons then none
      else more rest

def isZoneMark (c : Char) : Bool := c == '+' || c == '-' || c == 'Z'

/-- The distance from universal time in millionths of a second; one below a second counts as
none. -/
def readZone (cs : List Char) : Option Int :=
  match cs with
  | 'Z' :: rest => if atEnd rest then some 0 else none
  | sign :: rest =>
    match readClock rest with
    | some (c, true) =>
      let seconds := 3600 * c.hour + 60 * c.minute + c.second
      let distance : Int := if seconds = 0 then 0 else seconds * 1000000 + c.micro
      some (if sign == '-' then -distance else distance)
    | _ => none
  | [] => none

/-- The time of day behind a date, and its zone if it has one.  What stands between a fraction and a
zone is passed over. -/
def readTime (d : Date) (cs : List Char) : Option Date := do
  let zone := cs.dropWhile (!isZoneMark ·)
  let (c, done) ← readClock (cs.takeWhile (!isZoneMark ·))
  let zone ← if zone.isEmpty then (if done then some none else none) else (readZone zone).map some
  some { d with hour := c.hour, minute := c.minute, second := c.second, micro := c.micro, zone }

/-- How many bytes the character takes that begins with a byte. -/
def charLength (first : Char) : Nat :=
  let n := first.toNat
  if n < 0x80 then 1 else if n < 0xe0 then 2 else if n < 0xf0 then 3 else 4

/-- Date, separator and time of day; the numbers may be out of range. -/
def readParts (cs : List Char) : Option Date := do
  let d ← readDay (dateLength cs) cs
  match cs.drop (dateLength cs) with
  | [] => some d
  | separator :: rest => readTime d (rest.drop (charLength separator - 1))

/-- Whether there are such a day and such an hour. -/
def isOnCalendar (d : Date) : Bool :=
  1 ≤ d.month && d.month ≤ 12 && 1 ≤ d.day && d.day ≤ daysIn d.year d.month && d.hour < 24

/-- A date whose numbers are all in range; the zone is looked at first. -/
def checked (d : Date) : Except Fault Date :=
  let distance := d.zone.getD 0
  if distance.natAbs ≥ 86400000000 then .error (.refused (.zoneOutOfRange distance))
  else if d.year = 0 ∨ d.year > 9999 then .error (.refused (.yearOutOfRange d.year))
  else if !d.isOnCalendar then .error .unreadable
  else if d.minute > 59 then .error (.refused .minuteOutOfRange)
  else if d.second > 59 then .error (.refused .secondOutOfRange)
  else .ok d

def read (s : String) : Except Fault Date :=
  (readParts (byteChars s)).elim (.error .unreadable) checked

/-- Reads a date from data; only a text can hold one. -/
def ofValue (v : Value) : Except Fault Date :=
  match v with
  | .text s => read s
  | _ => .error .mistyped

end Questline.Date
