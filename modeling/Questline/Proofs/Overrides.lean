import Questline.CommandLine
import Questline.Proofs.Acceptance
import Questline.Proofs.Merging

/-! Authored settings that are turned down.  The check trips over couplings and titles that are no
tables, and over factions that are lists or tables; all else that is wrong with settings is told as
a problem or a conflict.  Settings that are turned down leave those before them in use. -/

namespace Questline

/-- A check goes through unless its data is misshapen, and else trips over the kind of a value. -/
structure Trips {α : Type} (P : Prop) (x : Except Fault α) : Prop where
  ok : ∀ a, x = .ok a → ¬ P
  error : ∀ why, x = .error why → P ∧ (why = .mistyped ∨ why = .noSuchMember)

namespace Trips

variable {α β : Type} {P Q : Prop} {x : Except Fault α}

theorem pure (a : α) : Trips False (.ok a : Except Fault α) := ⟨fun _ _ => id, nofun⟩

theorem of_error {why : Fault} (hP : P) (h : why = .mistyped ∨ why = .noSuchMember) :
    Trips P (.error why : Except Fault α) :=
  ⟨nofun, fun _ he => ⟨hP, Except.error.inj he ▸ h⟩⟩

theorem congr (h : Trips P x) (hPQ : P ↔ Q) : Trips Q x :=
  ⟨fun a ha hQ => h.ok a ha (hPQ.2 hQ), fun why he => (h.error why he).imp_left hPQ.1⟩

theorem bind {f : α → Except Fault β} (hx : Trips P x) (hf : ∀ a, Trips Q (f a)) :
    Trips (P ∨ Q) (x >>= f) := by
  constructor
  · rintro b hb (hP | hQ)
    · obtain ⟨a, ha, _⟩ := bind_eq_ok.1 hb
      exact hx.ok a ha hP
    · obtain ⟨a, _, hb⟩ := bind_eq_ok.1 hb
      exact (hf a).ok b hb hQ
  · intro why he
    rcases bind_eq_error.1 he with he | ⟨a, _, he⟩
    · exact (hx.error why he).imp_left .inl
    · exact ((hf a).error why he).imp_left .inr

/-- What never trips makes no difference at the end. -/
theorem followed {f : α → Except Fault β} (hx : Trips P x) (hf : ∀ a, Trips False (f a)) :
    Trips P (x >>= f) :=
  (hx.bind hf).congr (or_iff_left id)

theorem mapM {p : α → Prop} {f : α → Except Fault β} (h : ∀ a, Trips (p a) (f a)) (l : List α) :
    Trips (∃ a ∈ l, p a) (l.mapM f) := by
  constructor
  · rintro bs hbs ⟨a, ha, hp⟩
    obtain ⟨b, _, hb⟩ := (mem_of_mapM hbs).1 a ha
    exact (h a).ok b hb hp
  · intro why he
    obtain ⟨a, ha, he⟩ := exists_error_of_mapM he
    exact ((h a).error why he).imp_left fun hp => ⟨a, ha, hp⟩

end Trips

/-- A coupling is no table, or has a list or a table for a faction. -/
inductive Coupling.Misshapen : Value → Prop
  | item {v : Value} : v.isTable = false → Misshapen v
  | first {fields : Table} : (∀ a, fields.field "a" ≠ .atom a) → Misshapen (.table fields)
  | second {fields : Table} : (∀ a, fields.field "b" ≠ .atom a) → Misshapen (.table fields)

namespace Settings

/-- A coupling is misshapen, or a title is no table. -/
def Misshapen (tree : Table) : Prop :=
  (∃ item ∈ listAt (sectionAt tree "reputation") "COUPLING", Coupling.Misshapen item) ∨
    ∃ item ∈ listAt (sectionAt tree "reputation") "TITLES", item.isTable = false

/-- The path to a field of a section. -/
def fieldPath (part name : String) : List Atom := [.text part, .text name]

/-- Whatever stands in the sections of the built-in settings stands in a tree too, and is of the
same kind. -/
def Laid (tree : Table) : Prop :=
  ∀ part name v, (Value.table builtInTree).at? (fieldPath part name) = some v →
    (Value.table tree).require part = .ok (.table (sectionAt tree part)) ∧
      ∃ w, (Value.table (sectionAt tree part)).require name = .ok w ∧ v.sameKind w = true

section Check

theorem trips_readFields (v : Value) : Trips (v.isTable = false) v.readFields := by
  cases v with
  | table fields => exact (Trips.pure fields).congr (by simp [Value.isTable])
  | atom | list => exact .of_error rfl (.inr rfl)

theorem trips_readAtom (v : Value) : Trips (∀ a, v ≠ .atom a) v.readAtom := by
  cases v with
  | atom a => exact (Trips.pure a).congr (by simp)
  | list | table => exact .of_error nofun (.inl rfl)

theorem trips_checkFaction (v : Value) : Trips (∀ a, v ≠ .atom a) (checkFaction v) :=
  (trips_readAtom v).followed fun a => by cases a <;> exact .pure _

theorem trips_checkCoupling (item : Value) :
    Trips (Coupling.Misshapen item) (checkCoupling item) := by
  cases item with
  | atom | list => exact .of_error (.item rfl) (.inr rfl)
  | table fields =>
    let a := Table.field fields "a"
    let b := Table.field fields "b"
    refine Trips.congr ((trips_checkFaction a).bind fun _ => (trips_checkFaction b).bind fun _ =>
      (trips_readAtom a).bind fun _ => (trips_readAtom b).followed fun _ => .pure _) ⟨?_, ?_⟩
    · rintro (ha | hb | ha | hb)
      · exact .first ha
      · exact .second hb
      · exact .first ha
      · exact .second hb
    · rintro (hitem | ha | hb)
      · cases hitem
      · exact .inl ha
      · exact .inr (.inl hb)

theorem trips_checkTitles (items : List Value) :
    Trips (∃ item ∈ items, item.isTable = false) (checkTitles (.list items)) := by
  refine (Trips.mapM (fun t => (trips_readFields t).followed fun _ => .pure _) items).followed
    fun thresholds => ?_
  split <;> exact .pure _

theorem trips_checkLevels (low high : Int) (fields : Table) :
    Trips False (checkLevels low high (.table fields)) := .pure _

variable {tree : Table} (h : Laid tree)
include h

theorem Laid.require_list (name : String) {items : List Value}
    (hv : (Value.table builtInTree).at? (fieldPath "reputation" name) = some (.list items)) :
    (Value.table (sectionAt tree "reputation")).require name =
      .ok (.list (listAt (sectionAt tree "reputation") name)) := by
  obtain ⟨_, w, hname, hkind⟩ := h _ _ _ hv
  cases w with
  | atom | table => cases hkind
  | list items =>
    obtain ⟨_, ⟨⟩, hfield⟩ := Value.of_require hname
    rw [hname, listAt, Table.field, hfield, Option.getD_some]

theorem Laid.trips_checkReputation :
    Trips (Misshapen tree) (checkReputation (.table (sectionAt tree "reputation"))) := by
  obtain ⟨_, min, hmin, _⟩ := h "reputation" "MIN" _ rfl
  obtain ⟨_, max, hmax, _⟩ := h "reputation" "MAX" _ rfl
  have hcouplings := h.require_list "COUPLING" rfl
  have htitles := h.require_list "TITLES" rfl
  unfold checkReputation
  rw [hmin, ok_bind, hmax, ok_bind, hcouplings, ok_bind, htitles]
  exact (Trips.mapM trips_checkCoupling _).bind fun _ =>
    (trips_checkTitles _).followed fun _ => .pure _

theorem Laid.trips_checkRelationship :
    Trips False (checkRelationship (.table (sectionAt tree "relationship"))) := by
  obtain ⟨_, min, hmin, _⟩ := h "relationship" "MIN" _ rfl
  obtain ⟨_, max, hmax, _⟩ := h "relationship" "MAX" _ rfl
  obtain ⟨_, initial, hinitial, _⟩ := h "relationship" "INITIAL" _ rfl
  obtain ⟨_, levels, hlevels, hkind⟩ := h "relationship" "LEVELS" _ rfl
  obtain ⟨fields, rfl⟩ := Value.isTable_iff.1 (Value.isTable_of_sameKind hkind).symm
  unfold checkRelationship
  rw [hmin, ok_bind, hmax, ok_bind]
  split
  next => exact .pure _
  next low high _ =>
    rw [hinitial, ok_bind, hlevels, ok_bind]
    exact (trips_checkLevels low high fields).followed fun _ => .pure _

theorem Laid.trips_checkContent :
    Trips False (checkContent (.table (sectionAt tree "content"))) := by
  obtain ⟨_, main, hmain, _⟩ := h "content" "MAIN_QUEST" _ rfl
  obtain ⟨_, files, hfiles, _⟩ := h "content" "FILES" _ rfl
  unfold checkContent
  rw [hmain, ok_bind, hfiles]
  split <;> exact .pure _

/-- Where all stands that it asks for, the check trips just over what is misshapen. -/
theorem Laid.trips_check : Trips (Misshapen tree) (check tree) := by
  unfold check
  rw [(h "reputation" "MIN" _ rfl).1, ok_bind, (h "relationship" "MIN" _ rfl).1,
    (h "content" "FILES" _ rfl).1]
  exact h.trips_checkReputation.followed fun _ => h.trips_checkRelationship.followed fun _ =>
    h.trips_checkContent.followed fun _ => .pure _

end Check

section Paths

theorem of_fieldPath {tree : Table} {part name : String} {v : Value}
    (h : (Value.table tree).at? (fieldPath part name) = some v) :
    (Value.table tree).require part = .ok (.table (sectionAt tree part)) ∧
      (Value.table (sectionAt tree part)).require name = .ok v := by
  obtain ⟨w, hpart, h⟩ := Option.bind_eq_some_iff.1 h
  cases w with
  | atom | list => cases h
  | table fields =>
    obtain ⟨_, hname, ⟨⟩⟩ := Option.bind_eq_some_iff.1 h
    have hfield : tree.field? part = some (.table fields) := hpart
    have hsection : sectionAt tree part = fields := by simp [sectionAt, Table.field, hfield]
    have hname : Table.field? fields name = some v := hname
    rw [hsection, Value.require, hfield, Value.require, hname]
    exact ⟨rfl, rfl⟩

/-- A list is read where a list stands at the end of the path. -/
theorem listAt_eq (tree : Table) (part name : String) :
    listAt (sectionAt tree part) name =
      match (Value.table tree).at? (fieldPath part name) with
      | some (.list items) => items
      | _ => [] := by
  have hpath : (Value.table tree).at? (fieldPath part name) =
      (tree.field? part).bind fun v => v.at? [.text name] := rfl
  rw [hpath, sectionAt, Table.field]
  cases tree.field? part with
  | none => rfl
  | some v =>
    cases v with
    | atom | list => rfl
    | table fields =>
      have hname : (Value.table fields).at? [.text name] = Table.field? fields name :=
        Option.bind_fun_some _
      rw [Option.bind_some, hname, Option.getD_some]
      dsimp only
      rw [listAt, Table.field]
      cases Table.field? fields name with
      | none => rfl
      | some w => cases w <;> rfl

variable {override tree : Table} (hkeyed : Value.Keyed (.table override))
  (h : Table.merge builtInTree override = (tree, none))
include hkeyed h

theorem Laid.of_merge : Laid tree := by
  intro part name v hv
  obtain ⟨w, hw, hkind⟩ := (Table.Joins.of_merge hkeyed h).kinds _ v hv
  obtain ⟨hpart, hname⟩ := of_fieldPath hw
  exact ⟨hpart, w, hname, hkind⟩

/-- A list of settings is the authored one, or the built-in one where none is authored. -/
theorem listAt_of_merge {name : String} {items : List Value}
    (hv : (Value.table builtInTree).at? (fieldPath "reputation" name) = some (.list items)) :
    listAt (sectionAt tree "reputation") name = listAt (sectionAt override "reputation") name ∨
      listAt (sectionAt override "reputation") name = [] ∧
        listAt (sectionAt tree "reputation") name =
          listAt (sectionAt builtInTree "reputation") name := by
  have hjoins := Table.Joins.of_merge hkeyed h
  have hclash := (Table.merge_eq_none hkeyed).1 (congrArg Prod.snd h)
  simp only [listAt_eq]
  cases hw : (Value.table override).at? (fieldPath "reputation" name) with
  | none => exact .inr ⟨rfl, by rw [hjoins.kept _ hw]⟩
  | some w =>
    have hkind : (Value.list items).sameKind w = true := by
      by_contra hno
      exact hclash ⟨_, _, _, hv, hw, Bool.eq_false_iff.2 hno⟩
    cases w with
    | atom | table => cases hkind
    | list => exact .inl (by rw [hjoins.replaced _ _ hw rfl])

omit hkeyed h in
theorem sound_builtIn : ¬ Misshapen builtInTree := by
  have hkeyed : Value.Keyed (.record []) := .record List.nodup_nil nofun
  have hmerge : Table.merge builtInTree [] = (builtInTree, none) := rfl
  exact (Laid.of_merge hkeyed hmerge).trips_check.ok [] check_builtIn

theorem misshapen_of_merge : Misshapen tree ↔ Misshapen override := by
  have hlist {name : String} {items : List Value} {P : Value → Prop}
      (hv : (Value.table builtInTree).at? (fieldPath "reputation" name) = some (.list items))
      (hsound : ¬ ∃ item ∈ listAt (sectionAt builtInTree "reputation") name, P item) :
      (∃ item ∈ listAt (sectionAt tree "reputation") name, P item) ↔
        ∃ item ∈ listAt (sectionAt override "reputation") name, P item := by
    rcases listAt_of_merge hkeyed h hv with htree | ⟨hnone, htree⟩
    · rw [htree]
    · rw [htree, hnone]
      exact iff_of_false hsound nofun
  obtain ⟨hcouplings, htitles⟩ := not_or.1 sound_builtIn
  exact or_congr (hlist rfl hcouplings) (hlist rfl htitles)

end Paths

/-- Loading settings fails only where the check does, on what has been joined without a conflict. -/
theorem load_eq_fault {override : Table} {why : Fault} :
    load override = .error (.fault why) ↔
      ∃ tree, Table.merge builtInTree override = (tree, none) ∧ check tree = .error why := by
  unfold load
  constructor
  · intro h
    split at h
    next => cases h
    next tree hmerge =>
      refine ⟨tree, hmerge, ?_⟩
      split at h
      next hcheck =>
        cases h
        exact hcheck
      next => cases h
      next => cases h
  · rintro ⟨tree, hmerge, hcheck⟩
    rw [hmerge]
    dsimp only
    rw [hcheck]

end Settings

namespace CommandLine

/-- A run comes to load these settings: its arguments name a file that reads as them. -/
def Asks (arguments : List String) (files : Files) (override : Table) : Prop :=
  ∃ o path text, Options.read? arguments = some o ∧ o.help = false ∧
    o.logLevel.bind checkLogLevel = .ok () ∧ given? o.config = some path ∧
      textOf files path = .ok text ∧ Toml.read text = .ok override

/-- Where the settings of a file are turned down, the run ends and those before stay in use. -/
theorem prepare_of_rejected {override : Table} {why : Settings.Rejection}
    (h : Settings.load override = .error why) {arguments : List String} {files : Files}
    (hasks : Asks arguments files override) (base : Settings) (saver : Saver) (clock : Clock)
    (input : List String) :
    ∃ stop, prepare base arguments saver clock files input = (base, ⟨files, .inl stop⟩) ∧
      (stop = exitWith why.message ∨ ∃ fault, why = .fault fault ∧ stop = .fault fault) := by
  obtain ⟨o, path, text, hoptions, hhelp, hlevel, hpath, htext, htoml⟩ := hasks
  have hsettings : settingsFrom base files o.config = .error (exitWith why.message) ∨
      ∃ fault, why = .fault fault ∧ settingsFrom base files o.config = .error (.fault fault) := by
    unfold settingsFrom
    rw [hpath]
    dsimp only
    rw [htext]
    dsimp only
    rw [htoml]
    dsimp only
    rw [h]
    cases why with
    | conflict | bad => exact .inl rfl
    | fault fault =>
      dsimp only
      split
      next => exact .inl rfl
      next => exact .inr ⟨fault, rfl, rfl⟩
  have hended (stop : Stop) (hstop : settingsFrom base files o.config = .error stop) :
      prepare base arguments saver clock files input = (base, ⟨files, .inl stop⟩) := by
    unfold prepare
    rw [hoptions]
    dsimp only
    rw [hhelp, hlevel, hstop]
    rfl
  rcases hsettings with hstop | ⟨fault, hfault, hstop⟩
  · exact ⟨_, hended _ hstop, .inl rfl⟩
  · exact ⟨_, hended _ hstop, .inr ⟨fault, hfault, rfl⟩⟩

end CommandLine

/-- Authored settings are taken over, or turned down for a conflict or for the problems that the
check finds, unless a coupling or a title is misshapen: the check trips over those, and over nothing
else.  Settings that are turned down in a run leave those before them in use. -/
theorem turned_down_unless_misshapen {override : Table} (hkeyed : Value.Keyed (.table override)) :
    ((∃ why, Settings.load override = .error (.fault why)) ↔
      (¬ ∃ path, Value.Clash (.table Settings.builtInTree) (.table override) path) ∧
        Settings.Misshapen override) ∧
    (∀ why, Settings.load override = .error (.fault why) →
      why = .mistyped ∨ why = .noSuchMember) ∧
    ∀ why, Settings.load override = .error why → ∀ base arguments saver clock files input,
      CommandLine.Asks arguments files override →
      ∃ stop, CommandLine.prepare base arguments saver clock files input =
          (base, ⟨files, .inl stop⟩) ∧
        (stop = CommandLine.exitWith why.message ∨
          ∃ fault, why = .fault fault ∧ stop = .fault fault) := by
  have htrips {tree : Table} (hmerge : Table.merge Settings.builtInTree override = (tree, none)) :
      Trips (Settings.Misshapen override) (Settings.check tree) :=
    (Settings.Laid.of_merge hkeyed hmerge).trips_check.congr
      (Settings.misshapen_of_merge hkeyed hmerge)
  refine ⟨⟨?_, ?_⟩, fun why h => ?_, fun why h base _ saver clock _ input hasks =>
    CommandLine.prepare_of_rejected h hasks base saver clock input⟩
  · rintro ⟨why, h⟩
    obtain ⟨tree, hmerge, hcheck⟩ := Settings.load_eq_fault.1 h
    exact ⟨(Table.merge_eq_none hkeyed).1 (congrArg Prod.snd hmerge),
      ((htrips hmerge).error why hcheck).1⟩
  · rintro ⟨hclash, hbad⟩
    have hmerge : Table.merge Settings.builtInTree override = (_, none) :=
      Prod.ext rfl ((Table.merge_eq_none hkeyed).2 hclash)
    cases hcheck : Settings.check (Table.merge Settings.builtInTree override).1 with
    | error why => exact ⟨why, Settings.load_eq_fault.2 ⟨_, hmerge, hcheck⟩⟩
    | ok problems => exact absurd hbad ((htrips hmerge).ok problems hcheck)
  · obtain ⟨tree, hmerge, hcheck⟩ := Settings.load_eq_fault.1 h
    exact ((htrips hmerge).error why hcheck).2

/-- A coupling that divides by zero is a problem that is told. -/
theorem turned_down_unless_misshapen_divisor :
    let override : Table := [(.text "reputation", .record [("COUPLING", .list [
      .record [("a", "Alliance"), ("b", "Syndicate"), ("divisor", .int 0)]])])]
    Value.Keyed (.table override) ∧
      Settings.load override = .error (.bad [.badDivisor (.int 0) "Alliance" "Syndicate"]) ∧
        ¬ Settings.Misshapen override := by
  intro override
  have hkeyed : Value.Keyed (.record [("reputation", .record [("COUPLING", .list [
      .record [("a", "Alliance"), ("b", "Syndicate"), ("divisor", .int 0)]])])]) := by
    refine .record (List.nodup_singleton _) ?_
    rw [List.forall_mem_singleton]
    refine .record (List.nodup_singleton _) ?_
    rw [List.forall_mem_singleton]
    exact .list _
  have hload : Settings.load override =
      .error (.bad [.badDivisor (.int 0) "Alliance" "Syndicate"]) := by rfl
  refine ⟨hkeyed, hload, fun hbad => ?_⟩
  have hclash := (Table.merge_eq_none hkeyed (a := Settings.builtInTree)).1 rfl
  obtain ⟨_, hfault⟩ := (turned_down_unless_misshapen hkeyed).1.2 ⟨hclash, hbad⟩
  cases hload.symm.trans hfault

/-- The check trips over a coupling that is a number, a faction that is a list, and a title that is
a text. -/
theorem misshapen_settings_trip :
    let override (name : String) (item : Value) : Table :=
      [(.text "reputation", .record [(name, .list [item])])]
    Settings.load (override "COUPLING" (.int 1)) = .error (.fault .noSuchMember) ∧
    Settings.load (override "COUPLING" (.record [("a", .list []), ("b", "Alliance"),
      ("divisor", .int 1)])) = .error (.fault .mistyped) ∧
    Settings.load (override "TITLES" "Hero") = .error (.fault .noSuchMember) ∧
    Fault.isRefusal .noSuchMember = false ∧ Fault.isRefusal .mistyped = false :=
  ⟨by rfl, by rfl, by rfl, rfl, rfl⟩

end Questline
