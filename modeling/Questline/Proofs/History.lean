import Mathlib.Data.List.Chain
import Mathlib.Data.List.ReduceOption
import Questline.Proofs.Clearing
import Questline.Proofs.Floats
import Questline.Proofs.Twins

/-! The log tells what has happened in order and without loss.  Whoever asks now and then for what
has come after the last entry seen gets each entry once, even where entries share a time. -/

namespace Questline

theorem pairwise_concat {α : Type} {R : α → α → Prop}
    (htrans : ∀ a b c, R a b → R b c → R a c) {l : List α} (hl : l.Pairwise R) {a : α}
    (hlast : ∀ b, l.getLast? = some b → R b a) : (l ++ [a]).Pairwise R := by
  have : IsTrans α R := ⟨htrans⟩
  rw [← List.isChain_iff_pairwise, List.isChain_append]
  exact ⟨hl.isChain, .singleton a, fun b hb c hc => by cases hc; exact hlast b hb⟩

namespace EventLog

/-- The numbers of the entries ascend. -/
def Numbered (log : EventLog) : Prop := log.entries.Pairwise fun a b => a.id < b.id

/-- The times of the entries are defined and never go back. -/
structure Timed (log : EventLog) : Prop where
  defined : ∀ e ∈ log.entries, e.timestamp.isNaN = false
  ordered : log.entries.Pairwise fun a b => Decimal.rank a.timestamp ≤ Decimal.rank b.timestamp

variable {log log' : EventLog} {e : Entry}

theorem of_append (h : log.append e = .ok log') : log' = ⟨log.entries ++ [e]⟩ ∧
    ∀ last, log.entries.getLast? = some last → last.id < e.id ∧ ¬ e.timestamp < last.timestamp := by
  refine ⟨by rw [← entries_of_append h], fun last hlast => ?_⟩
  unfold append at h
  simp only [hlast] at h
  split at h
  · cases h
  next hid =>
    split at h
    · cases h
    next htime => exact ⟨by omega, htime⟩

theorem numbered_empty : empty.Numbered := .nil

theorem timed_empty : empty.Timed := ⟨nofun, .nil⟩

theorem Numbered.append (h : log.Numbered) (he : log.append e = .ok log') : log'.Numbered := by
  obtain ⟨rfl, hlast⟩ := of_append he
  exact pairwise_concat (R := fun a b : Entry => a.id < b.id) (fun _ _ _ => Int.lt_trans) h
    fun b hb => (hlast b hb).1

theorem Timed.append (h : log.Timed) (he : log.append e = .ok log')
    (htime : e.timestamp.isNaN = false) : log'.Timed := by
  obtain ⟨rfl, hlast⟩ := of_append he
  refine ⟨fun a ha => ?_,
    pairwise_concat (R := fun a b : Entry => Decimal.rank a.timestamp ≤ Decimal.rank b.timestamp)
      (fun _ _ _ hab hbc => hab.trans hbc) h.ordered fun b hb => ?_⟩
  · rcases List.mem_append.1 ha with ha | ha
    · exact h.defined a ha
    · cases List.mem_singleton.1 ha
      exact htime
  · have hb' := h.defined b (List.mem_of_getLast? hb)
    exact not_lt.1 fun hlt => (hlast b hb).2 ((Decimal.lt_iff_rank htime hb').2 hlt)

theorem Ordered.numbered (h : log.Ordered) : log.Numbered :=
  foldlM_keeps (I := Numbered) (fun _ _ _ h he => h.append he) numbered_empty h

theorem Ordered.timed (h : log.Ordered) (htimes : ∀ e ∈ log.entries, e.timestamp.isNaN = false) :
    log.Timed := by
  refine foldlM_keeps (I := fun log => (∀ e ∈ log.entries, e.timestamp.isNaN = false) → log.Timed)
    (fun before e after hbefore he hafter => ?_) (fun _ => timed_empty) h htimes
  rw [entries_of_append he] at hafter
  exact (hbefore fun a ha => hafter a (List.mem_append_left _ ha)).append he
    (hafter e (List.mem_append_right _ (by simp)))

theorem Timed.isNaN_lastTimestamp (h : log.Timed) : log.lastTimestamp.isNaN = false := by
  unfold lastTimestamp
  cases hlast : log.entries.getLast? with
  | none => decide +kernel
  | some last => exact h.defined last (List.mem_of_getLast? hlast)

end EventLog

/-- What closing an entry keeps lasts if it is about log and clock alone. -/
theorem Session.Lasting.of_closed {cfg : Settings} {H : EventLog → Clock → Prop}
    (hclosed : ∀ (s : Session) (p : Pending), H s.log s.clock →
      H (s.closed p).log (s.closed p).clock) :
    Session.Lasting cfg fun s => H s.log s.clock := by
  refine ⟨fun {_ a s} hs ha => ?_, fun _ _ hs => hs⟩
  rcases Act.run_history cfg ha with ⟨hlog, hclock⟩ | ⟨p, _, _, hrun⟩
  · rwa [hlog, hclock]
  · rw [hrun]
    exact hclosed s p hs

theorem Clock.reading_scripted (next : Float) (later : List Float) (n : Nat) :
    (scripted next later).reading n ∈ next :: later := by
  induction n generalizing next later with
  | zero => cases later <;> exact List.mem_cons_self
  | succ n ih =>
    cases later with
    | nil => exact ih next []
    | cons t later => exact List.mem_cons_of_mem _ (ih t later)

namespace Session

variable {cfg : Settings} {s : Session}

theorem lasting_numbered (cfg : Settings) : Lasting cfg fun s => s.log.Numbered :=
  Lasting.of_closed (H := fun log _ => log.Numbered) fun s p h => h.append (s.append_entry p)

theorem lasting_entries (cfg : Settings) (seen : List Entry) :
    Lasting cfg fun s => seen <+: s.log.entries :=
  Lasting.of_closed (H := fun log _ => seen <+: log.entries) fun _ _ h =>
    h.trans (List.prefix_append _ _)

/-- The log is in order of time, and the clock shows numbers. -/
def Timely (s : Session) : Prop := s.log.Timed ∧ ∀ n, (s.clock.reading n).isNaN = false

theorem Timely.isNaN_entryTime (h : s.Timely) : s.entryTime.isNaN = false := by
  unfold entryTime
  split
  · exact h.1.isNaN_lastTimestamp
  · exact h.2 0

theorem lasting_timely (cfg : Settings) : Lasting cfg Timely :=
  Lasting.of_closed (H := fun log clock => log.Timed ∧ ∀ n, (clock.reading n).isNaN = false)
    fun s p h => ⟨h.1.append (s.append_entry p) (Timely.isNaN_entryTime (s := s) h),
      fun n => h.2 (n + 1)⟩

end Session

namespace Engine

/-- What has come after the last entry seen, if any has been seen. -/
def look (e : Engine) (seen : List Entry) : Except Fault (List Entry) :=
  e.history .null (seen.getLast?.elim .null fun last => .int last.id)

/-- What has been seen in the end by whoever looks from time to time, between the calls of a game
and after them. -/
def watch (cfg : Settings) : Engine → List Entry → List (Option Call) → Except Fault (List Entry)
  | e, seen, [] => return seen ++ (← e.look seen)
  | e, seen, none :: rest => do watch cfg e (seen ++ (← e.look seen)) rest
  | e, seen, some c :: rest => watch cfg (c.after cfg e) seen rest

variable {cfg : Settings} {graphs : List Graph} {e : Engine}

theorem look_eq (h : e.session.log.Numbered) {seen later : List Entry}
    (hlog : e.session.log.entries = seen ++ later) : e.look seen = .ok later := by
  have hquery : e.look seen =
      .ok (e.session.log.entries.filter fun a => seen.getLast?.all (·.id < a.id)) := by
    refine filterM_eq_ok fun a _ => ?_
    cases seen.getLast? <;> rfl
  rw [hquery, hlog, List.filter_append]
  unfold EventLog.Numbered at h
  rw [hlog, List.pairwise_append] at h
  cases seen using List.reverseRecOn with
  | nil => simp
  | append_singleton seen last =>
    obtain ⟨hseen, _, hlater⟩ := h
    have hbefore := (List.pairwise_append.1 hseen).2.2
    rw [List.filter_eq_nil_iff.2, List.filter_eq_self.2, List.nil_append]
    · intro a ha
      simpa using hlater last (by simp) a ha
    · intro a ha
      rcases List.mem_append.1 ha with ha | ha
      · have := hbefore a ha last (by simp)
        simp
        omega
      · cases List.mem_singleton.1 ha
        simp

/-- Nothing is missed and nothing is seen twice while the game is not cleared. -/
theorem watch_eq (h : e.Consistent graphs) (hnumbered : e.session.log.Numbered)
    {seen : List Entry} (hseen : seen <+: e.session.log.entries) {moves : List (Option Call)}
    (hmoves : e.Uncleared cfg moves.reduceOption) :
    e.watch cfg seen moves = .ok (e.afterAll cfg moves.reduceOption).session.log.entries := by
  induction moves generalizing e seen with
  | nil =>
    obtain ⟨later, hlater⟩ := hseen
    rw [watch, look_eq hnumbered hlater.symm, ok_bind, hlater]
    rfl
  | cons move rest ih =>
    cases move with
    | none =>
      obtain ⟨later, hlater⟩ := hseen
      rw [watch, look_eq hnumbered hlater.symm, ok_bind, hlater]
      exact ih h hnumbered List.prefix_rfl hmoves
    | some c =>
      obtain ⟨hc, hrest⟩ := hmoves
      exact ih (h.after c) ((Session.lasting_numbered cfg).after h hnumbered hc)
        ((Session.lasting_entries cfg seen).after h hseen hc) hrest

/-- The times of saves that have been taken up are defined. -/
def SavesDefined (cfg : Settings) (e : Engine) (calls : List Call) : Prop :=
  ∀ before data later saved, calls = before ++ .restore data :: later →
    accept data (e.afterAll cfg before).session = .ok saved →
    ∀ entry ∈ saved.log.entries, entry.timestamp.isNaN = false

end Engine

end Questline
