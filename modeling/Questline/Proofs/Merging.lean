import Questline.Proofs.Sorting
import Questline.Proofs.Tables
import Questline.Settings.Merge

/-! One table laid over another.  What stands at the end of a path in the joined table can be told
from what stands there in each of the two, and there is a conflict just if some path ends at values
of different kinds. -/

namespace Questline

theorem Assoc.put_of_get? {κ α : Type} [BEq κ] {m : Assoc κ α} {k : κ} {a : α}
    (h : get? m k = some a) : put m k a = m := by
  induction m with
  | nil => cases h
  | cons p rest ih =>
    rw [get?] at h
    rw [put]
    split at h
    next hp =>
      cases h
      rw [if_pos hp]
    next hp => rw [if_neg hp, ih h]

namespace Value

/-- What stands at the end of a path of keys. -/
def at? : List Atom → Value → Option Value
  | [], v => some v
  | k :: path, .table fields => (Assoc.get? fields k).bind (at? path)
  | _ :: _, .atom _ | _ :: _, .list _ => none

def isTable : Value → Bool
  | .table _ => true
  | .atom _ | .list _ => false

/-- In every table of tables each key stands but once, and no other key passes for it. -/
inductive Keyed : Value → Prop
  | atom (a : Atom) : Keyed (.atom a)
  | list (items : List Value) : Keyed (.list items)
  | table {fields : Table} : (Assoc.keys fields).Nodup → (∀ k ∈ Assoc.keys fields, Assoc.Exact k) →
      (∀ p ∈ fields, Keyed p.2) → Keyed (.table fields)

/-- A path as it is told in a message. -/
def names (path : List Atom) : List String := path.map fun k => (Value.atom k).plain

/-- A path ends at an old value and at a new one of another kind; two tables are of one kind. -/
def Clash (old new : Value) (path : List Atom) : Prop :=
  ∃ v w, old.at? path = some v ∧ new.at? path = some w ∧ v.sameKind w = false

end Value

namespace Table

open Value (at?)

/-- What a table is that has been joined from two others, path by path. -/
structure Joins (a b c : Table) : Prop where
  replaced : ∀ path w, at? path (.table b) = some w → w.isTable = false →
    at? path (.table c) = some w
  kept : ∀ path, at? path (.table b) = none → at? path (.table c) = at? path (.table a)
  tables : ∀ path, (∃ u ∈ at? path (.table c), u.isTable = true) ↔
    (∃ v ∈ at? path (.table a), v.isTable = true) ∨ ∃ w ∈ at? path (.table b), w.isTable = true
  kinds : ∀ path v, at? path (.table a) = some v →
    ∃ w, at? path (.table c) = some w ∧ v.sameKind w = true

end Table

namespace Value

variable {v w new : Value} {old : Option Value} {path : List Atom} {place : List String}

/-- Nothing stands behind a value that is no table. -/
theorem at?_of_leaf (h : v.isTable = false) (hpath : path ≠ []) : v.at? path = none := by
  cases path with
  | nil => exact absurd rfl hpath
  | cons k path => cases v <;> first | rfl | cases h

/-- Tables of named fields are keyed, as long as no name stands twice. -/
theorem Keyed.record {fields : List (String × Value)} (hdistinct : (fields.map Prod.fst).Nodup)
    (h : ∀ p ∈ fields, Keyed p.2) : Keyed (.record fields) := by
  have hkeys : Assoc.keys (fields.map fun p => (Atom.text p.1, p.2)) =
      (fields.map Prod.fst).map Atom.text := by simp [Assoc.keys]
  refine .table (hkeys ▸ hdistinct.map fun _ _ => Atom.text.inj) ?_ ?_
  · intro k hk
    obtain ⟨name, _, rfl⟩ := List.mem_map.1 (hkeys ▸ hk)
    exact Atom.exact_text name
  · intro p hp
    obtain ⟨field, hfield, rfl⟩ := List.mem_map.1 hp
    exact h field hfield

theorem isTable_iff : v.isTable = true ↔ ∃ fields, v = .table fields := by
  cases v <;> simp [isTable]

theorem sameKind_self (v : Value) : v.sameKind v = true := by
  cases v with
  | atom a => cases a <;> rfl
  | list | table => rfl

theorem isTable_of_sameKind (h : v.sameKind w = true) : v.isTable = w.isTable := by
  cases v with
  | atom a => cases a <;> cases w <;> first | rfl | cases h
  | list | table => cases w <;> first | rfl | cases h

/-- A value that is no table is laid over one of its own kind, or over nothing. -/
theorem layOver_leaf (h : new.isTable = false) :
    layOver place old new =
      if old.all (·.sameKind new) then (new, none) else (old.getD new, some place) := by
  cases new with
  | table => cases h
  | atom | list => cases old <;> rfl

theorem of_layOver_leaf (hleaf : new.isTable = false) (h : (layOver place old new).2 = none) :
    (∀ v ∈ old, v.sameKind new = true) ∧ (layOver place old new).1 = new := by
  rw [layOver_leaf hleaf] at h ⊢
  split at h
  next hkind =>
    rw [if_pos hkind]
    exact ⟨(Option.all_eq_true ..).1 hkind, rfl⟩
  next => cases h

theorem layOver_none (place : List String) (new : Value) :
    layOver place none new = (new, none) := by
  cases new <;> rfl

theorem layOver_tables (place : List String) (inner top : Table) :
    layOver place (some (.table inner)) (.table top) =
      (.table (Table.layOver place inner top).1, (Table.layOver place inner top).2) := rfl

theorem layOver_table_leaf (h : v.isTable = false) (top : Table) :
    layOver place (some v) (.table top) = (v, some place) := by
  cases v with
  | table => cases h
  | atom | list => rfl

/-- Without a conflict a table is laid over a table, if over anything. -/
theorem of_layOver_table {top : Table} (h : (layOver place (some v) (.table top)).2 = none) :
    ∃ inner, v = .table inner ∧ (Table.layOver place inner top).2 = none := by
  cases hv : v.isTable with
  | false =>
    rw [layOver_table_leaf hv] at h
    cases h
  | true =>
    obtain ⟨inner, rfl⟩ := isTable_iff.1 hv
    exact ⟨inner, rfl, h⟩

/-- Without a conflict an old value keeps its kind. -/
theorem sameKind_of_layOver (h : (layOver place (some v) new).2 = none) :
    v.sameKind new = true ∧ v.sameKind (layOver place (some v) new).1 = true := by
  cases hnew : new.isTable with
  | false =>
    obtain ⟨hkind, hjoined⟩ := of_layOver_leaf hnew h
    rw [hjoined]
    exact ⟨hkind v rfl, hkind v rfl⟩
  | true =>
    obtain ⟨top, rfl⟩ := isTable_iff.1 hnew
    obtain ⟨inner, rfl, _⟩ := of_layOver_table h
    exact ⟨rfl, rfl⟩

theorem isTable_layOver (h : (layOver place old new).2 = none) :
    (∀ v ∈ old, v.isTable = new.isTable) ∧ (layOver place old new).1.isTable = new.isTable := by
  cases old with
  | none => exact ⟨nofun, by rw [layOver_none]⟩
  | some v =>
    obtain ⟨hkind, hjoined⟩ := sameKind_of_layOver h
    refine ⟨fun u hu => ?_, (isTable_of_sameKind hjoined).symm.trans (isTable_of_sameKind hkind)⟩
    cases hu
    exact isTable_of_sameKind hkind

end Value

namespace Table

variable {a fields : Table} {k : Atom} {v : Value} {place : List String}

theorem get?_put (a : Table) (j : Atom) (v : Value) (hk : Assoc.Exact k) :
    Assoc.get? (Assoc.put a k v) j = if j = k then some v else Assoc.get? a j := by
  by_cases hjk : j = k
  · subst hjk
    rw [Assoc.get?_put v hk hk]
  · have hne : (k == j) = false := by rw [Atom.beq_comm, hk.beq_of_ne hjk]
    rw [if_neg hjk]
    induction a with
    | nil => simp [Assoc.put, Assoc.get?, hne]
    | cons p rest ih =>
      by_cases hp : p.1 = k
      · simp [Assoc.put, Assoc.get?, hp, hk.beq_self, hne]
      · simp [Assoc.put, Assoc.get?, hk.beq_of_ne hp, ih]

theorem mem_of_get? (hexact : ∀ k ∈ Assoc.keys fields, Assoc.Exact k)
    (h : Assoc.get? fields k = some v) : (k, v) ∈ fields := by
  induction fields with
  | nil => cases h
  | cons p rest ih =>
    rw [Assoc.keys_cons, List.forall_mem_cons] at hexact
    rw [Assoc.get?] at h
    split at h
    next hp =>
      cases h
      rw [Atom.beq_comm] at hp
      rw [(hexact.1 k).1 hp]
      exact List.mem_cons_self
    next => exact List.mem_cons_of_mem _ (ih hexact.2 h)

/-- The path to a field. -/
def toField (place : List String) (k : Atom) : List String := place ++ [(Value.atom k).plain]

/-- A field laid over whatever a table has under its key. -/
def layField (place : List String) (a : Table) (p : Atom × Value) : Value × Option (List String) :=
  Value.layOver (toField place p.1) (Assoc.get? a p.1) p.2

theorem layOver_cons (place : List String) (a : Table) (p : Atom × Value) (rest : Table) :
    layOver place a (p :: rest) =
      match (layField place a p).2 with
      | some clash => (Assoc.put a p.1 (layField place a p).1, some clash)
      | none => layOver place (Assoc.put a p.1 (layField place a p).1) rest := rfl

/-- Putting a field changes nothing about the fields under other keys. -/
theorem layField_put {p : Atom × Value} {rest : Table} (v : Value) (hk : Assoc.Exact p.1)
    (hnew : p.1 ∉ Assoc.keys rest) :
    ∀ q ∈ rest, layField place (Assoc.put a p.1 v) q = layField place a q := by
  intro q hq
  have hne : q.1 ≠ p.1 := fun he => hnew (he ▸ List.mem_map_of_mem hq)
  rw [layField, get?_put _ _ _ hk, if_neg hne, layField]

section Fields

variable (hdistinct : (Assoc.keys fields).Nodup)
  (hexact : ∀ k ∈ Assoc.keys fields, Assoc.Exact k)
include hdistinct hexact

theorem layOver_eq_none : (layOver place a fields).2 = none ↔
    ∀ p ∈ fields, (layField place a p).2 = none := by
  induction fields generalizing a with
  | nil => exact ⟨fun _ => nofun, fun _ => rfl⟩
  | cons p rest ih =>
    rw [Assoc.keys_cons, List.nodup_cons] at hdistinct
    rw [Assoc.keys_cons, List.forall_mem_cons] at hexact
    rw [layOver_cons, List.forall_mem_cons]
    split
    next clash hclash => simp [hclash]
    next hnone =>
      rw [ih hdistinct.2 hexact.2, hnone, eq_self, true_and]
      exact forall₂_congr fun q hq => by rw [layField_put _ hexact.1 hdistinct.1 q hq]

theorem exists_of_layOver {clash : List String} (h : (layOver place a fields).2 = some clash) :
    ∃ p ∈ fields, (layField place a p).2 = some clash := by
  induction fields generalizing a with
  | nil => cases h
  | cons p rest ih =>
    rw [Assoc.keys_cons, List.nodup_cons] at hdistinct
    rw [Assoc.keys_cons, List.forall_mem_cons] at hexact
    rw [layOver_cons] at h
    split at h
    next hclash => exact ⟨p, List.mem_cons_self, hclash.trans h⟩
    next =>
      obtain ⟨q, hq, hclash⟩ := ih hdistinct.2 hexact.2 h
      rw [layField_put _ hexact.1 hdistinct.1 q hq] at hclash
      exact ⟨q, List.mem_cons_of_mem _ hq, hclash⟩

/-- Under each key the joined table has the field laid over the old value, or the old value where
there is no such field. -/
theorem get?_layOver (h : (layOver place a fields).2 = none) (k : Atom) :
    Assoc.get? (layOver place a fields).1 k =
      match Assoc.get? fields k with
      | some v => some (layField place a (k, v)).1
      | none => Assoc.get? a k := by
  induction fields generalizing a with
  | nil => rfl
  | cons p rest ih =>
    rw [Assoc.keys_cons, List.nodup_cons] at hdistinct
    rw [Assoc.keys_cons, List.forall_mem_cons] at hexact
    rw [layOver_cons] at h ⊢
    split at h
    next => cases h
    next hnone =>
      rw [ih hdistinct.2 hexact.2 h, get?_put _ _ _ hexact.1]
      by_cases hk : k = p.1
      · subst hk
        have hrest : Assoc.get? rest p.1 = none :=
          (Assoc.get?_eq_none_iff hexact.1).2 hdistinct.1
        simp [hrest, Assoc.get?, hexact.1.beq_self]
      · have hne : (p.1 == k) = false := by rw [Atom.beq_comm, hexact.1.beq_of_ne hk]
        rw [Assoc.get?, hne, if_neg hk, if_neg Bool.false_ne_true]
        cases hget : Assoc.get? rest k with
        | none => rfl
        | some v =>
          dsimp only
          rw [layField_put _ hexact.1 hdistinct.1 (k, v) (mem_of_get? hexact.2 hget)]

end Fields

/-- What has been laid over once stays when it is laid over again. -/
theorem layOver_of_laid {c : Table} (h : ∀ p ∈ fields, ∃ v, Assoc.get? c p.1 = some v ∧ ∀ place,
      Value.layOver place (some v) p.2 = (v, none)) :
    layOver place c fields = (c, none) := by
  induction fields with
  | nil => rfl
  | cons p rest ih =>
    rw [List.forall_mem_cons] at h
    obtain ⟨⟨v, hget, hlaid⟩, hrest⟩ := h
    have hfield : layField place c p = (v, none) := by rw [layField, hget, hlaid]
    have hput : Assoc.put c p.1 v = c := Assoc.put_of_get? hget
    rw [layOver_cons, hfield]
    dsimp only
    rw [hput]
    exact ih hrest

end Table

namespace Value

variable {v w new : Value} {old : Option Value} {path : List Atom} {place : List String}

theorem clash_here (hkind : v.sameKind new = false) :
    ∃ path, Clash v new path ∧ place = place ++ names path :=
  ⟨[], ⟨v, new, rfl, rfl, hkind⟩, (List.append_nil _).symm⟩

/-- A conflict is told where a path ends at two values of different kinds. -/
theorem Keyed.clash_of_layOver {clash : List String} (hnew : Keyed new)
    (h : (layOver place (some v) new).2 = some clash) :
    ∃ path, Clash v new path ∧ clash = place ++ names path := by
  induction hnew generalizing v place with
  | atom | list =>
    rw [layOver_leaf rfl, Option.all_some] at h
    split at h
    next => cases h
    next hkind =>
      cases h
      exact clash_here (Bool.eq_false_iff.2 hkind)
  | @table fields hdistinct hexact _ ih =>
    cases hv : v.isTable with
    | false =>
      rw [layOver_table_leaf hv] at h
      cases h
      refine clash_here (Bool.eq_false_iff.2 fun hkind => ?_)
      cases hv.symm.trans (isTable_of_sameKind hkind)
    | true =>
      obtain ⟨inner, rfl⟩ := isTable_iff.1 hv
      rw [layOver_tables] at h
      obtain ⟨⟨k, u⟩, hp, hclash⟩ := Table.exists_of_layOver hdistinct hexact h
      have hk := hexact k (Assoc.mem_keys_of_mem hp)
      unfold Table.layField at hclash
      cases hget : Assoc.get? inner k with
      | none =>
        rw [hget, layOver_none] at hclash
        cases hclash
      | some v =>
        rw [hget] at hclash
        obtain ⟨path, ⟨v', w, hv', hw, hkind⟩, rfl⟩ := ih _ hp hclash
        refine ⟨k :: path, ⟨v', w, ?_, ?_, hkind⟩, by simp [Table.toField, names]⟩
        · rwa [at?, hget]
        · exact Option.bind_eq_some_iff.2 ⟨u, Assoc.get?_of_mem hk hdistinct hp, hw⟩

/-- At the end of a path to a new value the joined table has that value laid over the old one. -/
theorem Keyed.at?_layOver (hnew : Keyed new) (h : (layOver place old new).2 = none)
    (hw : new.at? path = some w) :
    ∃ place', (layOver place' (old.bind (at? path)) w).2 = none ∧
      (layOver place old new).1.at? path = some (layOver place' (old.bind (at? path)) w).1 := by
  induction path generalizing old new place with
  | nil =>
    cases hw
    exact ⟨place, by simpa [at?] using h, by simp [at?]⟩
  | cons k path ih =>
    cases hnew with
    | atom | list => cases hw
    | @table fields hdistinct hexact hfields =>
      obtain ⟨u, hget, hw⟩ := Option.bind_eq_some_iff.1 hw
      have hmem := Table.mem_of_get? hexact hget
      cases old with
      | none =>
        rw [layOver_none]
        refine ⟨place, by rw [Option.bind_none, layOver_none], ?_⟩
        rw [Option.bind_none, layOver_none]
        exact Option.bind_eq_some_iff.2 ⟨u, hget, hw⟩
      | some v =>
        obtain ⟨inner, rfl, h⟩ := of_layOver_table h
        have hlaid := (Table.layOver_eq_none hdistinct hexact).1 h _ hmem
        obtain ⟨place', hnone, hat⟩ := ih (hfields _ hmem) hlaid hw
        refine ⟨place', hnone, ?_⟩
        rw [layOver_tables, at?, Table.get?_layOver hdistinct hexact h, hget]
        exact hat

/-- Where there is nothing new, the joined table has what there was. -/
theorem Keyed.at?_layOver_of_none (hnew : Keyed new) (h : (layOver place old new).2 = none)
    (hnone : new.at? path = none) :
    (layOver place old new).1.at? path = old.bind (at? path) := by
  induction path generalizing old new place with
  | nil => cases hnone
  | cons k path ih =>
    cases hnew with
    | atom | list =>
      -- the new value stands where a table would have to be, and the old one is none either
      obtain ⟨hkind, hjoined⟩ := of_layOver_leaf rfl h
      rw [hjoined, hnone]
      cases old with
      | none => rfl
      | some v =>
        exact (at?_of_leaf (isTable_of_sameKind (hkind v rfl)) (List.cons_ne_nil _ _)).symm
    | @table fields hdistinct hexact hfields =>
      cases old with
      | none => rwa [layOver_none]
      | some v =>
        obtain ⟨inner, rfl, h⟩ := of_layOver_table h
        rw [layOver_tables, at?, Table.get?_layOver hdistinct hexact h]
        cases hget : Assoc.get? fields k with
        | none => rfl
        | some u =>
          have hmem := Table.mem_of_get? hexact hget
          have hlaid := (Table.layOver_eq_none hdistinct hexact).1 h _ hmem
          rw [at?, hget, Option.bind_some] at hnone
          exact ih (hfields _ hmem) hlaid hnone

/-- Without a conflict no path ends at two values of different kinds. -/
theorem Keyed.not_clash (hnew : Keyed new) (h : (layOver place (some v) new).2 = none)
    (path : List Atom) : ¬ Clash v new path := by
  rintro ⟨u, w, hu, hw, hkind⟩
  obtain ⟨place', hlaid, _⟩ := hnew.at?_layOver h hw
  rw [Option.bind_some, hu] at hlaid
  rw [(sameKind_of_layOver hlaid).1] at hkind
  cases hkind

/-- What has been joined is not changed by laying the same over it again. -/
theorem Keyed.layOver_again (hnew : Keyed new) (h : (layOver place old new).2 = none)
    (place' : List String) :
    layOver place' (some (layOver place old new).1) new = ((layOver place old new).1, none) := by
  induction hnew generalizing old place place' with
  | atom | list =>
    rw [(of_layOver_leaf rfl h).2, layOver_leaf rfl, Option.all_some, sameKind_self, if_pos rfl]
  | @table fields hdistinct hexact _ ih =>
    have hget {p : Atom × Value} (hp : p ∈ fields) : Assoc.get? fields p.1 = some p.2 :=
      Assoc.get?_of_mem (hexact _ (Assoc.mem_keys_of_mem hp)) hdistinct hp
    -- the joined table holds each field laid over something, and so the field changes nothing
    have hagain {c : Table} (hc : ∀ p ∈ fields, ∃ place old,
        (layOver place old p.2).2 = none ∧ Assoc.get? c p.1 = some (layOver place old p.2).1) :
        layOver place' (some (.table c)) (.table fields) = (.table c, none) := by
      rw [layOver_tables, Table.layOver_of_laid]
      intro p hp
      obtain ⟨place, old, hnone, hjoined⟩ := hc p hp
      exact ⟨_, hjoined, fun place' => ih p hp hnone place'⟩
    cases old with
    | none =>
      rw [layOver_none]
      exact hagain fun p hp => ⟨[], none, by rw [layOver_none], by rw [layOver_none, hget hp]⟩
    | some v =>
      obtain ⟨inner, rfl, h⟩ := of_layOver_table h
      rw [layOver_tables]
      refine hagain fun p hp => ⟨_, _, (Table.layOver_eq_none hdistinct hexact).1 h p hp, ?_⟩
      rw [Table.get?_layOver hdistinct hexact h, hget hp]
      rfl

end Value

namespace Table

open Value (at?)

/-- Without a conflict two tables are joined path by path. -/
theorem Joins.of_merge {a b c : Table} (hb : Value.Keyed (.table b)) (h : merge a b = (c, none)) :
    Joins a b c := by
  have hnone : (Value.layOver [] (some (.table a)) (.table b)).2 = none := congrArg Prod.snd h
  have hc : (Value.layOver [] (some (.table a)) (.table b)).1 = .table c := by
    rw [Value.layOver_tables]
    exact congrArg (fun r => Value.table r.1) (show Table.layOver [] a b = (c, none) from h)
  constructor
  case replaced =>
    intro path w hw hleaf
    obtain ⟨place, hlaid, hjoined⟩ := hb.at?_layOver hnone hw
    rwa [hc, (Value.of_layOver_leaf hleaf hlaid).2] at hjoined
  case kept => exact fun path hnew => hc ▸ hb.at?_layOver_of_none hnone hnew
  case tables =>
    intro path
    cases hw : at? path (.table b) with
    | some w =>
      obtain ⟨place, hlaid, hjoined⟩ := hb.at?_layOver hnone hw
      obtain ⟨hold, htable⟩ := Value.isTable_layOver hlaid
      rw [hc] at hjoined
      simp only [hjoined, Option.mem_some_iff, exists_eq_left', htable]
      exact ⟨.inr, fun h => h.elim (fun ⟨v, hv, ht⟩ => hold v hv ▸ ht) id⟩
    | none =>
      have hkept := hb.at?_layOver_of_none hnone hw
      rw [hc, Option.bind_some] at hkept
      simp [hkept]
  case kinds =>
    intro path v hv
    cases hw : at? path (.table b) with
    | some w =>
      obtain ⟨place, hlaid, hjoined⟩ := hb.at?_layOver hnone hw
      rw [hc] at hjoined
      rw [Option.bind_some, hv] at hlaid hjoined
      exact ⟨_, hjoined, (Value.sameKind_of_layOver hlaid).2⟩
    | none =>
      have hkept := hb.at?_layOver_of_none hnone hw
      rw [hc] at hkept
      exact ⟨v, hkept.trans hv, Value.sameKind_self v⟩

section Clash

variable {a b : Table} (hb : Value.Keyed (.table b))
include hb

/-- Joining is stopped at the end of a path to values of different kinds. -/
theorem clash_of_merge {place : List String} (h : (merge a b).2 = some place) :
    ∃ path, Value.Clash (.table a) (.table b) path ∧ place = Value.names path :=
  hb.clash_of_layOver (v := .table a) h

theorem merge_eq_none :
    (merge a b).2 = none ↔ ¬ ∃ path, Value.Clash (.table a) (.table b) path := by
  constructor
  · rintro hnone ⟨path, hclash⟩
    have hlaid : (Value.layOver [] (some (.table a)) (.table b)).2 = none := hnone
    exact hb.not_clash hlaid path hclash
  · intro hclash
    by_contra hsome
    obtain ⟨place, hplace⟩ := Option.ne_none_iff_exists'.1 hsome
    exact hclash ((clash_of_merge hb hplace).imp fun _ => And.left)

theorem merge_again {c : Table} (h : merge a b = (c, none)) : merge c b = (c, none) := by
  have hlaid : layOver [] a b = (c, none) := h
  have hnone : (Value.layOver [] (some (.table a)) (.table b)).2 = none := by
    rw [Value.layOver_tables, hlaid]
  have hagain := hb.layOver_again hnone []
  simp only [Value.layOver_tables, hlaid, Prod.mk.injEq, Value.table.injEq] at hagain
  exact Prod.ext hagain.1 hagain.2

end Clash

end Table

/-- Laying one table over another stops just if there is a path that ends at values of different
kinds, and tells such a path.  Otherwise the two are joined, the new values before the old ones, and
to lay the same over what was joined changes nothing. -/
theorem tables_clash_or_join {a b : Table} (hb : Value.Keyed (.table b)) :
    ((∃ place, (Table.merge a b).2 = some place) ↔
      ∃ path, Value.Clash (.table a) (.table b) path) ∧
    (∀ place, (Table.merge a b).2 = some place →
      ∃ path, Value.Clash (.table a) (.table b) path ∧ place = Value.names path) ∧
    ∀ c, Table.merge a b = (c, none) → Table.Joins a b c ∧ Table.merge c b = (c, none) := by
  refine ⟨?_, fun _ => Table.clash_of_merge hb, fun c h => ⟨.of_merge hb h, Table.merge_again hb h⟩⟩
  rw [← Option.ne_none_iff_exists', Ne, Table.merge_eq_none hb, not_not]

/-- A number is replaced inside a table, another one is kept, and a third one is new. -/
theorem tables_clash_or_join_nested :
    let a : Table := [(.text "x", .int 1),
      (.text "nested", .table [(.text "y", .int 2), (.text "z", .int 3)])]
    let b : Table := [(.text "nested", .table [(.text "y", .int 5)]), (.text "w", .int 4)]
    let c : Table := [(.text "x", .int 1),
      (.text "nested", .table [(.text "y", .int 5), (.text "z", .int 3)]), (.text "w", .int 4)]
    Value.Keyed (.table b) ∧ Table.merge a b = (c, none) ∧ Table.Joins a b c ∧
      Table.merge c b = (c, none) := by
  intro a b c
  have hb : Value.Keyed (.record [("nested", .record [("y", .int 5)]), ("w", .int 4)]) := by
    refine .record (by decide) ?_
    rw [List.forall_mem_cons, List.forall_mem_singleton]
    refine ⟨.record (by decide) ?_, .atom _⟩
    rw [List.forall_mem_singleton]
    exact .atom _
  have hmerge : Table.merge a b = (c, none) := by rfl
  exact ⟨hb, hmerge, (tables_clash_or_join hb).2.2 c hmerge⟩

end Questline
