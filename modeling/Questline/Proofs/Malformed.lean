import Mathlib.Algebra.Group.Int.Defs
import Questline.Proofs.Floats
import Questline.Proofs.Restoration

/-! Data that is no save is refused as malformed.  Nothing else can go wrong in reading it, except
that a number in it can be too large for what it is read as. -/

namespace Questline

/-- A reading that fails on malformed data and, where a condition holds, on numbers that are too
large. -/
def Misreads {α : Type} (P : Prop) (x : Except Fault α) : Prop :=
  ∀ why, x = .error why → why.isMalformed = true ∨ why = .tooLarge ∧ P

namespace Misreads

variable {α β : Type} {P Q : Prop} {x : Except Fault α}

theorem ok (a : α) : Misreads P (.ok a : Except Fault α) := nofun

theorem malformed {why : Fault} (h : why.isMalformed = true) :
    Misreads P (.error why : Except Fault α) := by
  intro _ hwhy
  cases hwhy
  exact .inl h

theorem mono (h : Misreads P x) (hPQ : P → Q) : Misreads Q x :=
  fun why hwhy => (h why hwhy).imp_right (And.imp_right hPQ)

theorem bind {f : α → Except Fault β} (hx : Misreads P x)
    (hf : ∀ a, x = .ok a → Misreads P (f a)) : Misreads P (x >>= f) := by
  intro why h
  rcases bind_eq_error.1 h with h | ⟨a, ha, h⟩
  · exact hx why h
  · exact hf a ha why h

theorem map {f : α → β} (hx : Misreads P x) : Misreads P (x.map f) :=
  fun why h => hx why (map_eq_error.1 h)

theorem elim {a? : Option α} {why : Fault} (h : why.isMalformed = true) :
    Misreads P (a?.elim (.error why) .ok) := by
  cases a? with
  | none => exact malformed h
  | some a => exact ok a

theorem mapM {f : α → Except Fault β} {l : List α} (hf : ∀ a ∈ l, Misreads P (f a)) :
    Misreads P (l.mapM f) := by
  intro why h
  obtain ⟨a, ha, h⟩ := exists_error_of_mapM h
  exact hf a ha why h

theorem foldlM {f : β → α → Except Fault β} {l : List α} {b : β}
    (hf : ∀ a ∈ l, ∀ b, Misreads P (f b a)) : Misreads P (l.foldlM f b) := by
  intro why h
  obtain ⟨a, ha, b, h⟩ := exists_error_of_foldlM h
  exact hf a ha b why h

section Values

variable (v : Value)

theorem readNumeral (s : String) : Misreads P (Value.readNumeral s) := by
  unfold Value.readNumeral
  split
  · exact malformed rfl
  · exact elim rfl

theorem readInt : Misreads (∃ x, v = .float x ∧ x.isInf = true) v.readInt := by
  unfold Value.readInt
  split
  · exact ok _
  · exact ok _
  next x =>
    split
    · exact ok _
    next hnone =>
      rintro _ ⟨⟩
      cases hx : x.isNaN with
      | true => exact .inl rfl
      | false => exact .inr ⟨rfl, x, rfl, Decimal.isInf_of_truncate? hnone hx⟩
  · exact readNumeral _
  · exact readNumeral _
  · exact malformed rfl

theorem readFloat : Misreads (∃ n, v = .int n ∧ Decimal.ofInt? n = none) v.readFloat := by
  unfold Value.readFloat
  split
  · exact ok _
  next n =>
    cases hn : Decimal.ofInt? n with
    | some x => exact ok x
    | none =>
      rintro _ ⟨⟩
      exact .inr ⟨rfl, n, rfl, hn⟩
  · exact ok _
  · exact elim rfl
  · exact elim rfl
  · exact malformed rfl

theorem elements : Misreads P v.elements := by
  unfold Value.elements
  split <;> first | exact ok _ | exact malformed rfl

theorem readAtom : Misreads P v.readAtom := by
  unfold Value.readAtom
  split <;> first | exact ok _ | exact malformed rfl

theorem readFields : Misreads P v.readFields := by
  unfold Value.readFields
  split <;> first | exact ok _ | exact malformed rfl

theorem require (key : String) : Misreads P (v.require key) := by
  unfold Value.require
  split
  · exact elim rfl
  · exact malformed rfl

theorem getD (key : String) (usual : Value) : Misreads P (v.getD key usual) := (readFields v).map

theorem item (i : Nat) : Misreads P (v.item i) := by
  unfold Value.item
  split
  · exact elim rfl
  · exact (elements v).bind fun _ _ => elim rfl

theorem readPair : Misreads P v.readPair := by
  refine (elements v).bind fun items _ => ?_
  split <;> first | exact ok _ | exact malformed rfl

theorem readTable : Misreads P v.readTable := by
  unfold Value.readTable
  split
  · exact ok _
  · refine (elements v).bind fun items _ => .bind (mapM fun item _ => ?_) fun _ _ => ok _
    exact (readPair item).bind fun _ _ => (readAtom _).bind fun _ _ => ok _

theorem readWord (α : Type) [Vocabulary α] : Misreads P (v.readWord α) := by
  unfold Value.readWord
  split <;> first | exact ok _ | exact malformed rfl

end Values

end Misreads

namespace Value

/-- A number in a save is too large for what it is read as. -/
inductive Outsized (data : Value) : Prop
  /-- A reputation or a relationship is infinite. -/
  | score {ledger scores : Value} {fields : Table} {part : String} {k : Atom} {x : Float}
      (hledger : data.require "ledger" = .ok ledger)
      (hpart : part = "reputation" ∨ part = "relationship")
      (hscores : ledger.getD part (.table []) = .ok scores)
      (hfields : scores.readFields = .ok fields) (hmem : (k, .float x) ∈ fields)
      (hx : x.isInf = true) : Outsized data
  /-- The number of an entry is infinite. -/
  | number {log entry : Value} {entries : List Value} {x : Float}
      (hlog : data.require "event_log" = .ok log) (hentries : log.elements = .ok entries)
      (hmem : entry ∈ entries) (hid : entry.require "id" = .ok (.float x))
      (hx : x.isInf = true) : Outsized data
  /-- The time of an entry is an integer beyond every double. -/
  | time {log entry : Value} {entries : List Value} {n : Int}
      (hlog : data.require "event_log" = .ok log) (hentries : log.elements = .ok entries)
      (hmem : entry ∈ entries) (htime : entry.require "timestamp" = .ok (.int n))
      (hn : Decimal.ofInt? n = none) : Outsized data

end Value

namespace Misreads

variable {P : Prop}

theorem readFlags (v : Value) : Misreads P (Ledger.readFlags v) :=
  (elements v).bind fun _ _ => foldlM fun item _ _ => (readAtom item).bind fun _ _ => ok _

theorem readStates (v : Value) : Misreads P (Ledger.readStates v) :=
  (readFields v).bind fun _ _ => foldlM fun p _ _ => (readWord p.2 Lifecycle).bind fun _ _ => ok _

theorem readScores (v : Value) : Misreads
    (∃ fields k x, v.readFields = .ok fields ∧ (k, .float x) ∈ fields ∧ x.isInf = true)
    (Ledger.readScores v) := by
  refine (readFields v).bind fun fields hfields => foldlM fun (k, n) hmem _ => ?_
  refine .bind ((readInt n).mono ?_) fun _ _ => ok _
  rintro ⟨x, rfl, hx⟩
  exact ⟨fields, k, x, hfields, hmem, hx⟩

theorem ledger {data v : Value} (hv : data.require "ledger" = .ok v) :
    Misreads data.Outsized (Ledger.ofValue v) := by
  refine (getD v _ _).bind fun _ _ => (readFlags _).bind fun _ _ => ?_
  refine (getD v _ _).bind fun scores hscores => .bind ((readScores scores).mono ?_) fun _ _ => ?_
  · rintro ⟨fields, k, x, hfields, hmem, hx⟩
    exact .score hv (.inl rfl) hscores hfields hmem hx
  refine (getD v _ _).bind fun _ _ => (readStates _).bind fun _ _ => ?_
  refine (getD v _ _).bind fun scores hscores => .bind ((readScores scores).mono ?_) fun _ _ => ok _
  rintro ⟨fields, k, x, hfields, hmem, hx⟩
  exact .score hv (.inr rfl) hscores hfields hmem hx

theorem entry (v : Value) : Misreads ((∃ x, v.require "id" = .ok (.float x) ∧ x.isInf = true) ∨
    ∃ n, v.require "timestamp" = .ok (.int n) ∧ Decimal.ofInt? n = none) (Entry.ofValue v) := by
  refine (require v _).bind fun id hid => .bind ((readInt id).mono ?_) fun _ _ => ?_
  · rintro ⟨x, rfl, hx⟩
    exact .inl ⟨x, hid, hx⟩
  refine (require v _).bind fun _ _ => (readWord _ EntryKind).bind fun _ _ => ?_
  refine (require v _).bind fun time htime => .bind ((readFloat time).mono ?_) fun _ _ => ?_
  · rintro ⟨n, rfl, hn⟩
    exact .inr ⟨n, htime, hn⟩
  refine (getD v _ _).bind fun _ _ => (getD v _ _).bind fun _ _ => (getD v _ _).bind fun _ _ => ?_
  refine (getD v _ _).bind fun _ _ => (getD v _ _).bind fun _ _ => (elements _).bind fun _ _ => ?_
  refine .bind (mapM fun t _ => ?_) fun _ _ => (getD v _ _).bind fun _ _ => ?_
  · exact (readPair t).bind fun p _ => (readWord p.2 Lifecycle).bind fun _ _ => ok _
  exact (elements _).bind fun _ _ => .bind (mapM fun o _ => readTable o) fun _ _ => ok _

theorem append (log : EventLog) (e : Entry) : Misreads P (log.append e) := by
  unfold EventLog.append
  split
  · exact ok _
  · split
    · exact malformed rfl
    · split
      · exact malformed rfl
      · exact ok _

theorem log {data v : Value} (hv : data.require "event_log" = .ok v) :
    Misreads data.Outsized (EventLog.ofValue v) := by
  refine (elements v).bind fun entries hentries => foldlM fun item hmem log => ?_
  refine .bind ((entry item).mono ?_) fun e _ => append log e
  rintro (⟨x, hid, hx⟩ | ⟨n, htime, hn⟩)
  · exact .number hv hentries hmem hid hx
  · exact .time hv hentries hmem htime hn

theorem readTexts (v : Value) : Misreads P (Saved.readTexts v) :=
  (readFields v).bind fun _ _ => foldlM fun _ _ _ => ok _

theorem readEnding (v : Value) : Misreads P (Saved.readEnding v) := by
  refine (getD v _ _).bind fun ending _ => ?_
  split
  · exact (item ending 0).bind fun _ _ => (item ending 1).bind fun _ _ => ok _
  · exact ok _

/-- Only numbers that are too large can make reading a save fail in an unforeseen way. -/
theorem saved (data : Value) : Misreads data.Outsized (Saved.ofValue data) := by
  refine (require data _).bind fun _ hledger => (ledger hledger).bind fun _ _ => ?_
  refine (require data _).bind fun _ _ => (readStates _).bind fun _ _ => ?_
  refine (require data _).bind fun _ _ => (readTexts _).bind fun _ _ => ?_
  refine (getD data _ _).bind fun _ _ => (elements _).bind fun _ _ => ?_
  refine (require data _).bind fun _ hlog => (log hlog).bind fun _ _ => ?_
  exact (readEnding data).bind fun _ _ => ok _

end Misreads

/-- A save is taken over or it is refused.  Only data in which a number is too large makes restoring
fail in another way, and that changes nothing either. -/
theorem taken_over_or_refused_or_outsized (data : Value) (e : Engine) :
    (∃ e', Engine.restore data e = .ok () e') ∨
    (∃ why, Engine.restore data e = .error (.refused why) e) ∨
    Engine.restore data e = .error (.fault .tooLarge) e ∧ data.Outsized := by
  cases haccept : Engine.accept data e.session with
  | ok saved =>
    exact .inl ⟨_, Engine.restore_of_accept haccept (Engine.ordered_of_accept haccept)⟩
  | error why =>
    rw [Engine.restore_of_refused haccept]
    unfold Engine.accept at haccept
    split at haccept
    next fault hread =>
      rcases Misreads.saved data fault hread with hmalformed | ⟨rfl, houtsized⟩
      · rw [if_pos hmalformed] at haccept
        cases haccept
        exact .inr (.inl ⟨_, rfl⟩)
      · cases haccept
        exact .inr (.inr ⟨rfl, houtsized⟩)
    · split at haccept
      · cases haccept
        exact .inr (.inl ⟨_, rfl⟩)
      · cases haccept

/-- A save with one entry, made at a time that no double comes near. -/
theorem time_beyond_doubles_not_refused :
    let data : Value := .record [("ledger", .record []), ("graph_lifecycle_states", .record []),
      ("active_node_ids", .record []), ("event_log", .list [.record [("id", .int 1),
        ("kind", .text "choice"), ("timestamp", .int (10 ^ 400))]])]
    let e : Engine := { session := .start {} (.ticking 0 1) }
    Engine.restore data e = .error (.fault .tooLarge) e := by
  intro data e
  have tooLarge (x : Except Fault Saved) (h : (match x with
      | .error .tooLarge => true
      | _ => false) = true) : x = .error .tooLarge := by
    split at h
    · rfl
    · cases h
  have hread : Saved.ofValue data = .error .tooLarge := tooLarge _ (by decide +kernel)
  clear_value data
  refine Engine.restore_of_refused ?_
  rw [Engine.accept, hread]
  rfl

end Questline
