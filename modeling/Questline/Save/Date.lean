import Questline.Fault

/-! Dates with a time of day, as save files carry them: their calendar, their order, and how they
are written in the extended ISO format. -/

namespace Questline

structure Date where
  year : Nat
  month : Nat
  day : Nat
  hour : Nat := 0
  minute : Nat := 0
  second : Nat := 0
  micro : Nat := 0
  /-- Millionths of a second by which the clock is ahead of universal time, when the date says
  so. -/
  zone : Option Int := none
  deriving DecidableEq

namespace Date

def isLeap (year : Nat) : Bool := year % 4 = 0 && (year % 100 != 0 || year % 400 = 0)

def daysIn (year month : Nat) : Nat :=
  if month = 2 then (if isLeap year then 29 else 28)
  else if month = 4 ∨ month = 6 ∨ month = 9 ∨ month = 11 then 30 else 31

/-- A number with as many digits as asked for. -/
def padded (width n : Nat) : String :=
  let digits := Nat.toDigits 10 n
  String.ofList (List.replicate (width - digits.length) '0' ++ digits)

/-- A fraction of a second, shown only when there is one. -/
def fractionText (micro : Nat) : String := if micro = 0 then "" else "." ++ padded 6 micro

/-- A zone by sign, hours and minutes; seconds are shown only when there are any. -/
def zoneText (zone : Int) : String :=
  let micro := zone.natAbs % 1000000
  let seconds := zone.natAbs / 1000000
  (if zone < 0 then "-" else "+") ++ padded 2 (seconds / 3600) ++ ":" ++
  padded 2 (seconds / 60 % 60) ++
  (if seconds % 60 = 0 ∧ micro = 0 then "" else ":" ++ padded 2 (seconds % 60)) ++
  fractionText micro

/-- Date and time of day. -/
def write (d : Date) : String :=
  padded 4 d.year ++ "-" ++ padded 2 d.month ++ "-" ++ padded 2 d.day ++ "T" ++
  padded 2 d.hour ++ ":" ++ padded 2 d.minute ++ ":" ++ padded 2 d.second ++
  fractionText d.micro ++ (d.zone.map zoneText).getD ""

/-- Days before a year, counted from the year one. -/
def daysBefore (year : Nat) : Nat :=
  let y := year - 1
  365 * y + y / 4 - y / 100 + y / 400

/-- Days before a month within its year. -/
def daysBeforeMonth (year month : Nat) : Nat :=
  (List.range (month - 1)).foldl (fun days m => days + daysIn year (m + 1)) 0

/-- The date of a day, counted from zero in a year that has it. -/
def ofDay (year day : Nat) : Date :=
  let month := (List.range 12).countP fun m => decide (daysBeforeMonth year (m + 1) ≤ day)
  { year, month, day := day - daysBeforeMonth year month + 1 }

def daysInYear (year : Nat) : Nat := if isLeap year then 366 else 365

/-- The day of the week, counted from zero on Mondays, that a year begins with. -/
def firstWeekday (year : Nat) : Nat := daysBefore year % 7

/-- How many weeks begin in a year, a week being in the year of its Thursday. -/
def weeksIn (year : Nat) : Nat :=
  if firstWeekday year = 3 ∨ (firstWeekday year = 2 ∧ isLeap year) then 53 else 52

/-- The date of a day of a week of a year, all counted from one.  The year zero has weeks, but
their days are in no month. -/
def ofWeek? (year week day : Nat) : Option Date :=
  if 1 ≤ week ∧ week ≤ weeksIn year ∧ 1 ≤ day ∧ day ≤ 7 then
    let first := firstWeekday year
    let ahead := 7 * (week - 1) + (day - 1) + if first ≤ 3 then 0 else 7
    if year = 0 then some { year := 1, month := 0, day := 0 }
    else if ahead < first then some (ofDay (year - 1) (daysInYear (year - 1) + ahead - first))
    else if ahead - first < daysInYear year then some (ofDay year (ahead - first))
    else some (ofDay (year + 1) (ahead - first - daysInYear year))
  else none

/-- Millionths of a second since the year one, on the date's own clock. -/
def stamp (d : Date) : Int :=
  let days := daysBefore d.year + daysBeforeMonth d.year d.month + (d.day - 1)
  let seconds := ((days * 24 + d.hour) * 60 + d.minute) * 60 + d.second
  (seconds * 1000000 + d.micro : Nat)

/-- Whether a date is later; dates with and without a zone cannot be compared. -/
def isAfter (d e : Date) : Except Fault Bool :=
  match d.zone, e.zone with
  | none, none => .ok (e.stamp < d.stamp)
  | some a, some b => .ok (e.stamp - b < d.stamp - a)
  | _, _ => .error .mistyped

/-- The date some seconds later on the same day. -/
def addSeconds (d : Date) (n : Nat) : Date :=
  let total := (d.hour * 60 + d.minute) * 60 + d.second + n
  { d with hour := total / 3600 % 24, minute := total / 60 % 60, second := total % 60 }

end Date

end Questline
