import Questline.History.Entry
import Questline.Value.Order

/-! The story so far: entries with ascending numbers and times that never go back. -/

namespace Questline

structure EventLog where
  entries : List Entry
  deriving Inhabited

namespace EventLog

def empty : EventLog := ⟨[]⟩

/-- Minus infinity while nothing has happened. -/
def lastTimestamp (log : EventLog) : Float :=
  match log.entries.getLast? with
  | some e => e.timestamp
  | none => -(1 / 0)

def nextId (log : EventLog) : Int :=
  match log.entries.getLast? with
  | some e => e.id + 1
  | none => 1

/-- Adds an entry at the end if it comes after all others. -/
def append (log : EventLog) (e : Entry) : Except Fault EventLog :=
  match log.entries.getLast? with
  | none => .ok ⟨[e]⟩
  | some last =>
    if e.id ≤ last.id then .error (.refused (.idNotAfter e.id last.id))
    else if e.timestamp < last.timestamp then
      .error (.refused (.timestampBefore e.timestamp last.timestamp))
    else .ok ⟨log.entries ++ [e]⟩

/-- Whether a number lies beyond a bound, which is another number or, where none is given, the
null value. -/
def isBeyond (bound : Value) (n : Atom) : Except Fault Bool :=
  match bound with
  | .null => .ok true
  | .atom a => (Atom.before? a n).elim (.error .mistyped) .ok
  | _ => .error .mistyped

/-- Whether an entry is later than a time and after a number. -/
def isAfter (since afterId : Value) (e : Entry) : Except Fault Bool := do
  if ← isBeyond since (.float e.timestamp) then isBeyond afterId (.int e.id) else pure false

/-- The entries later than a time and after a number, as far as these are given.  Entries can
share a time, so whoever polls should give the number of the last entry seen. -/
def query (log : EventLog) (since afterId : Value) : Except Fault (List Entry) :=
  log.entries.filterM (isAfter since afterId)

def choices (log : EventLog) : List Entry := log.entries.filter (·.kind = .choice)

def toValue (log : EventLog) : Value := .list (log.entries.map Entry.toValue)

def ofValue (v : Value) : Except Fault EventLog := do
  (← v.elements).foldlM (fun log e => do log.append (← Entry.ofValue e)) empty

end EventLog

end Questline
