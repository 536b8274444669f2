import Questline.Proofs.Floats
import Questline.Proofs.Steps
import Questline.Session.Dispatch

/-! Entries come one after the other: the entry that a session closes is numbered and timed so
that the log takes it. -/

namespace Questline

/-- Of two numbers that are the same neither is less, not even when they are no numbers. -/
theorem not_lt_self (x : Float) : ¬ x < x := by
  cases hx : x.isNaN with
  | false =>
    rw [Decimal.lt_iff_rank hx hx]
    exact lt_irrefl _
  | true =>
    change x.toModel.unpack.isNaN = true at hx
    change ¬ decide (x.toModel.unpack.lt x.toModel.unpack = true) = true
    revert hx
    cases x.toModel.unpack with
    | notANumber => exact fun _ => by decide
    | _ => exact nofun

namespace EventLog

theorem append_next {log : EventLog} {e : Entry} (hid : e.id = log.nextId)
    (htime : ¬ e.timestamp < log.lastTimestamp) : log.append e = .ok ⟨log.entries ++ [e]⟩ := by
  unfold append
  unfold nextId at hid
  unfold lastTimestamp at htime
  cases h : log.entries.getLast? with
  | none => simp_all
  | some last =>
    simp only [h] at *
    rw [if_neg (by omega), if_neg htime]

theorem entries_of_append {log log' : EventLog} {e : Entry} (h : log.append e = .ok log') :
    log'.entries = log.entries ++ [e] := by
  unfold append at h
  split at h
  next hlast =>
    cases h
    simp [List.getLast?_eq_none_iff.1 hlast]
  next =>
    split at h
    · cases h
    · split at h
      · cases h
      · cases h
        rfl

end EventLog

namespace Session

variable {s : Session}

/-- The time of the next entry: what the clock shows, but never before the last entry. -/
def entryTime (s : Session) : Float :=
  if s.clock.read.1 < s.log.lastTimestamp then s.log.lastTimestamp else s.clock.read.1

def entry (s : Session) (p : Pending) : Entry := Step.entryOf p s.log.nextId s.entryTime

theorem not_entryTime_lt (s : Session) : ¬ s.entryTime < s.log.lastTimestamp := by
  unfold entryTime
  split
  · exact not_lt_self _
  · assumption

/-- The log takes the next entry whatever the clock shows. -/
theorem append_entry (s : Session) (p : Pending) :
    s.log.append (s.entry p) = .ok ⟨s.log.entries ++ [s.entry p]⟩ :=
  EventLog.append_next rfl s.not_entryTime_lt

def closed (s : Session) (p : Pending) : Session :=
  { s with
    pending := none
    clock := s.clock.read.2
    log := ⟨s.log.entries ++ [s.entry p]⟩ }

end Session

namespace Step

variable {s : Session} {p : Pending}

theorem commit_eq (h : s.pending = some p) : commit s = .ok (s.entry p) (s.closed p) := by
  have htaken := s.append_entry p
  unfold commit
  simp only [run_get, run_modify, run_set, h]
  unfold Session.entry Session.entryTime at htaken
  rw [htaken]
  rfl

theorem commit_none (h : s.pending = none) : commit s = .error (.refused .noResolution) s := by
  unfold commit
  rw [run_get, h]
  rfl

theorem discard_eq (h : s.pending = some p) (hp : p.hasChanges = false) :
    discard s = .ok () { s with pending := none } := by
  unfold discard
  rw [run_get, h]
  simp only [hp]
  rfl

theorem settle_eq (h : s.pending = some p) : settle s =
    if p.hasChanges then .ok (some (s.entry p)) (s.closed p)
    else .ok none { s with pending := none } := by
  unfold settle
  rw [run_get, h]
  cases hchanges : p.hasChanges with
  | true =>
    simp only [hchanges, if_true]
    change EStateM.map some commit s = _
    rw [EStateM.map, commit_eq h]
  | false =>
    simp only [hchanges]
    rfl

end Step

end Questline
