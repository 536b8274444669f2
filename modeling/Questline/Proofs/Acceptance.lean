import Mathlib.Data.List.Forall2
import Questline.Proofs.Results
import Questline.Proofs.Tables
import Questline.Settings.Check

/-! Settings that authored ones have led to.  The check says once what holds of their tree: what
stands under each name, and of which kind it is. -/

namespace Questline

/-- Settings that authored ones have led to. -/
def Settings.Accepted (cfg : Settings) : Prop :=
  ∃ override tree, Settings.load override = .ok tree ∧ cfg = .ofTree tree

/-- A score lies within bounds. -/
def Bounds.Holds (b : Bounds) (n : Int) : Prop := b.min ≤ n ∧ n ≤ b.max

instance (b : Bounds) (n : Int) : Decidable (b.Holds n) := inferInstanceAs (Decidable (_ ∧ _))

/-- Two known factions are coupled, and not one with itself. -/
structure Coupling.Sound (c : Coupling) : Prop where
  first : Faction.isWord c.a = true
  second : Faction.isWord c.b = true
  distinct : c.a ≠ c.b
  divides : 0 < c.divisor

/-- A coupling as it stands in a list. -/
def Coupling.IsListed (c : Coupling) (item : Value) : Prop :=
  ∃ fields : Table, item = .table fields ∧ fields.field? "a" = some (.text c.a) ∧
    fields.field? "b" = some (.text c.b) ∧ fields.field? "divisor" = some (.int c.divisor)

/-- A title as it stands in a list. -/
def Title.IsListed (t : Title) (item : Value) : Prop :=
  ∃ fields : Table, item = .table fields ∧ fields.field? "threshold" = some (.int t.threshold) ∧
    fields.field? "title" = t.wording

/-- What the settings are taken from stands in the tree, and is what it is taken for. -/
structure Settings.Checked (tree : Table) : Prop where
  reputation : (Value.table tree).require "reputation" = .ok (.table (sectionAt tree "reputation"))
  relationship :
    (Value.table tree).require "relationship" = .ok (.table (sectionAt tree "relationship"))
  ordered : (ofTree tree).reputation.min < (ofTree tree).reputation.max ∧
    (ofTree tree).relationship.min < (ofTree tree).relationship.max
  couplings : ∃ given items,
    (Value.table (sectionAt tree "reputation")).require "COUPLING" = .ok given ∧
      given.elements = .ok items ∧
      List.Forall₂ (fun item c => c.Sound ∧ c.IsListed item) items (ofTree tree).couplings
  titles : ∃ items, items ≠ [] ∧
    (Value.table (sectionAt tree "reputation")).require "TITLES" = .ok (.list items) ∧
      List.Forall₂ (fun item t => t.IsListed item) items (ofTree tree).titles
  levels : ∃ fields, fields ≠ [] ∧
    (Value.table (sectionAt tree "relationship")).require "LEVELS" = .ok (.table fields) ∧
      List.Forall₂ (fun field level => (∀ name, field.1 = .text name → level.1 = name) ∧
        field.2 = .int level.2 ∧ (ofTree tree).relationship.Holds level.2)
        fields (ofTree tree).levels

namespace Value

variable {v w : Value}

theorem of_require {key : String} (h : v.require key = .ok w) :
    ∃ fields : Table, v = .table fields ∧ fields.field? key = some w := by
  unfold require at h
  split at h
  next fields =>
    refine ⟨fields, rfl, ?_⟩
    cases hfield : Table.field? fields key with
    | none =>
      rw [hfield] at h
      cases h
    | some u =>
      rw [hfield] at h
      cases h
      rfl
  next => cases h

theorem of_int? {n : Int} (h : v.int? = some n) : v = .int n := by
  unfold int? at h
  split at h
  next m => rw [Option.some.inj h]
  next => cases h

/-- What is no list has no tables among its elements. -/
theorem of_elements {items : List Value} {fields : Table} (h : v.elements = .ok items)
    (hmem : .table fields ∈ items) : v = .list items := by
  cases v with
  | list =>
    cases h
    rfl
  | table =>
    cases h
    simp at hmem
  | atom a =>
    cases a <;> cases h <;> simp at hmem

end Value

theorem Table.field?_of_field {fields : Table} {name : String} {v : Value}
    (h : fields.field name = v) (hsome : v ≠ .null) : fields.field? name = some v := by
  unfold field at h
  cases hfield : fields.field? name with
  | none => exact absurd (hfield ▸ h).symm hsome
  | some w => rw [← h, hfield, Option.getD_some]

namespace Settings

/-- A list is read as a list, and so is what has no elements. -/
theorem listAt_of_elements {fields : Table} {name : String} {v : Value} {items : List Value}
    (hv : fields.field? name = some v) (hitems : v.elements = .ok items)
    (h : ∀ item ∈ items, ∃ inner : Table, item = .table inner) : listAt fields name = items := by
  rw [listAt, Table.field, hv, Option.getD_some]
  cases items with
  | nil =>
    split
    next =>
      cases hitems
      rfl
    next => rfl
  | cons item rest =>
    obtain ⟨inner, rfl⟩ := h item List.mem_cons_self
    rw [Value.of_elements hitems List.mem_cons_self]

/-- Where nothing but tables stands in a list, what is made of each stands in its place. -/
theorem forall₂_tablesOf {β : Type} {R : Value → β → Prop} {f : Table → β} {items : List Value}
    (h : ∀ item ∈ items, ∃ fields, item = .table fields ∧ R item (f fields)) :
    List.Forall₂ R items ((tablesOf items).map f) := by
  induction items with
  | nil => exact .nil
  | cons item rest ih =>
    rw [List.forall_mem_cons] at h
    obtain ⟨⟨fields, rfl, hfields⟩, hrest⟩ := h
    exact .cons hfields (ih hrest)

theorem of_boundsOf? {min max : Value} {low high : Int} (h : boundsOf? min max = some (low, high)) :
    min = .int low ∧ max = .int high ∧ low < high := by
  unfold boundsOf? at h
  split at h
  next hmin hmax =>
    split at h <;> cases h
    next hlt => exact ⟨Value.of_int? hmin, Value.of_int? hmax, hlt⟩
  next => cases h

theorem text_of_checkFaction {v : Value} (h : checkFaction v = .ok []) :
    ∃ s, v = .text s ∧ Faction.isWord s = true := by
  obtain ⟨a, ha, h⟩ := bind_eq_ok.1 h
  cases v with
  | table | list => cases ha
  | atom a =>
    cases ha
    cases a with
    | text s =>
      refine ⟨s, rfl, ?_⟩
      by_contra hs
      simp only [hs] at h
      cases h
    | _ => cases h

theorem of_checkCoupling {item : Value} (h : checkCoupling item = .ok []) :
    ∃ c : Coupling, c.Sound ∧ c.IsListed item := by
  obtain ⟨fields, hfields, h⟩ := bind_eq_ok.1 h
  obtain ⟨first, hfirst, h⟩ := bind_eq_ok.1 h
  obtain ⟨second, hsecond, h⟩ := bind_eq_ok.1 h
  obtain ⟨a, ha, h⟩ := bind_eq_ok.1 h
  obtain ⟨b, hb, h⟩ := bind_eq_ok.1 h
  obtain ⟨hfactions, hdivides⟩ := List.append_eq_nil_iff.1 (Except.ok.inj h)
  obtain ⟨hfactions, hself⟩ := List.append_eq_nil_iff.1 hfactions
  obtain ⟨rfl, rfl⟩ := List.append_eq_nil_iff.1 hfactions
  obtain ⟨s, hs, hsword⟩ := text_of_checkFaction hfirst
  obtain ⟨t, ht, htword⟩ := text_of_checkFaction hsecond
  rw [hs] at ha
  rw [ht] at hb
  cases ha
  cases hb
  have hdistinct : s ≠ t := by
    rintro rfl
    simp [Atom.beq_text] at hself
  obtain ⟨n, hn, hpositive⟩ : ∃ n, fields.field "divisor" = .int n ∧ 0 < n := by
    split at hdivides
    next n hn => exact ⟨n, Value.of_int? hn, by simpa using hdivides⟩
    next => cases hdivides
  cases item with
  | atom | list => cases hfields
  | table =>
    cases hfields
    exact ⟨⟨s, t, n⟩, ⟨hsword, htword, hdistinct, hpositive⟩, fields,
      rfl, Table.field?_of_field hs nofun, Table.field?_of_field ht nofun,
      Table.field?_of_field hn nofun⟩

theorem of_integers? {items : List Value} {numbers : List Int}
    (h : integers? items = some numbers) : ∀ v ∈ items, ∃ n, v = .int n := by
  unfold integers? at h
  induction items generalizing numbers with
  | nil => exact nofun
  | cons v rest ih =>
    rw [List.mapM_cons] at h
    obtain ⟨n, hn, h⟩ := Option.bind_eq_some_iff.1 h
    obtain ⟨others, hothers, _⟩ := Option.bind_eq_some_iff.1 h
    exact List.forall_mem_cons.2 ⟨⟨n, Value.of_int? hn⟩, ih hothers⟩

theorem of_checkTitles {titles : Value} (h : checkTitles titles = .ok []) :
    ∃ items, titles = .list items ∧ items ≠ [] ∧ ∀ item ∈ items, ∃ t : Title, t.IsListed item := by
  obtain ⟨items, hitems, h⟩ := bind_eq_ok.1 h
  obtain ⟨thresholds, hthresholds, h⟩ := bind_eq_ok.1 h
  obtain ⟨numbers, hnumbers, hfull⟩ :
      ∃ numbers, integers? thresholds = some numbers ∧ numbers ≠ [] := by
    split at h
    next hsome => exact ⟨_, hsome, List.cons_ne_nil _ _⟩
    next => cases h
  have hlisted : ∀ item ∈ items, ∃ t : Title, t.IsListed item := by
    intro item hitem
    obtain ⟨threshold, hmem, hthreshold⟩ := (mem_of_mapM hthresholds).1 item hitem
    obtain ⟨n, hn⟩ := of_integers? hnumbers threshold hmem
    obtain ⟨fields, hfields, hfield⟩ := bind_eq_ok.1 hthreshold
    cases item with
    | atom | list => cases hfields
    | table =>
      cases hfields
      have hfield := (Except.ok.inj hfield).trans hn
      exact ⟨⟨n, fields.field? "title"⟩, fields, rfl, Table.field?_of_field hfield nofun, rfl⟩
  have hsome : items ≠ [] := by
    rintro rfl
    cases hthresholds
    exact hfull (Option.some.inj hnumbers).symm
  obtain ⟨item, hitem⟩ := List.exists_mem_of_ne_nil items hsome
  obtain ⟨_, fields, rfl, -⟩ := hlisted item hitem
  exact ⟨items, Value.of_elements hitems hitem, hsome, hlisted⟩

theorem of_checkLevels {low high : Int} {levels : Value}
    (h : checkLevels low high levels = .ok []) : ∃ fields : Table, levels = .table fields ∧
      fields ≠ [] ∧ ∀ p ∈ fields, ∃ n, p.2 = .int n ∧ low ≤ n ∧ n ≤ high := by
  obtain ⟨fields, hfields, h⟩ := bind_eq_ok.1 h
  obtain ⟨hempty, houtside⟩ := List.append_eq_nil_iff.1 (Except.ok.inj h)
  cases levels with
  | atom | list => cases hfields
  | table =>
    cases hfields
    refine ⟨fields, rfl, ?_, ?_⟩
    · rintro rfl
      cases hempty
    · rintro ⟨level, bound⟩ hlevel
      have hwithin := (List.filterMap_eq_nil_iff.1 houtside) _ hlevel
      dsimp only at hwithin
      split at hwithin
      next h =>
        unfold isWithin at h
        split at h
        next n hn => exact ⟨n, Value.of_int? hn, by simpa using h⟩
        next => cases h
      next => cases hwithin

theorem of_checkReputation {v : Value} (h : checkReputation v = .ok []) :
    ∃ fields : Table, v = .table fields ∧
      (∃ low high, fields.field? "MIN" = some (.int low) ∧ fields.field? "MAX" = some (.int high) ∧
        low < high) ∧
      (∃ given items, fields.field? "COUPLING" = some given ∧ given.elements = .ok items ∧
        ∀ item ∈ items, checkCoupling item = .ok []) ∧
      ∃ titles, fields.field? "TITLES" = some titles ∧ checkTitles titles = .ok [] := by
  obtain ⟨min, hmin, h⟩ := bind_eq_ok.1 h
  obtain ⟨max, hmax, h⟩ := bind_eq_ok.1 h
  obtain ⟨given, hgiven, h⟩ := bind_eq_ok.1 h
  obtain ⟨items, hitems, h⟩ := bind_eq_ok.1 h
  obtain ⟨problems, hproblems, h⟩ := bind_eq_ok.1 h
  obtain ⟨titles, htitles, h⟩ := bind_eq_ok.1 h
  obtain ⟨found, hfound, h⟩ := bind_eq_ok.1 h
  obtain ⟨hnone, rfl⟩ := List.append_eq_nil_iff.1 (Except.ok.inj h)
  obtain ⟨hbounds, hcouplings⟩ := List.append_eq_nil_iff.1 hnone
  rw [List.flatten_eq_nil_iff] at hcouplings
  obtain ⟨fields, rfl, hlow⟩ := Value.of_require hmin
  obtain ⟨_, ⟨⟩, hhigh⟩ := Value.of_require hmax
  obtain ⟨_, ⟨⟩, hcoupling⟩ := Value.of_require hgiven
  obtain ⟨_, ⟨⟩, hlist⟩ := Value.of_require htitles
  refine ⟨fields, rfl, ?_, ⟨given, items, hcoupling, hitems, fun item hitem => ?_⟩,
    titles, hlist, hfound⟩
  · split at hbounds
    next hsome =>
      obtain ⟨⟨low, high⟩, hsome⟩ := Option.isSome_iff_exists.1 hsome
      obtain ⟨rfl, rfl, hlt⟩ := of_boundsOf? hsome
      exact ⟨low, high, hlow, hhigh, hlt⟩
    next => cases hbounds
  · obtain ⟨found, hmem, hchecked⟩ := (mem_of_mapM hproblems).1 item hitem
    rwa [hcouplings found hmem] at hchecked

theorem of_checkRelationship {v : Value} (h : checkRelationship v = .ok []) :
    ∃ fields : Table, v = .table fields ∧ ∃ low high, fields.field? "MIN" = some (.int low) ∧
      fields.field? "MAX" = some (.int high) ∧ low < high ∧
        ∃ levels, fields.field? "LEVELS" = some levels ∧ checkLevels low high levels = .ok [] := by
  obtain ⟨min, hmin, h⟩ := bind_eq_ok.1 h
  obtain ⟨max, hmax, h⟩ := bind_eq_ok.1 h
  obtain ⟨fields, rfl, hlow⟩ := Value.of_require hmin
  obtain ⟨_, ⟨⟩, hhigh⟩ := Value.of_require hmax
  dsimp only at h
  split at h
  next => cases h
  next low high hbounds =>
    obtain ⟨_, _, h⟩ := bind_eq_ok.1 h
    obtain ⟨levels, hlevels, h⟩ := bind_eq_ok.1 h
    obtain ⟨found, hfound, h⟩ := bind_eq_ok.1 h
    obtain ⟨_, rfl⟩ := List.append_eq_nil_iff.1 (Except.ok.inj h)
    obtain ⟨_, ⟨⟩, htable⟩ := Value.of_require hlevels
    obtain ⟨rfl, rfl, hlt⟩ := of_boundsOf? hbounds
    exact ⟨fields, rfl, low, high, hlow, hhigh, hlt, levels, htable, hfound⟩

theorem of_check {tree : Table} (h : check tree = .ok []) :
    (∃ v, tree.field? "reputation" = some v ∧ checkReputation v = .ok []) ∧
      ∃ v, tree.field? "relationship" = some v ∧ checkRelationship v = .ok [] := by
  obtain ⟨reputation, hreputation, h⟩ := bind_eq_ok.1 h
  obtain ⟨found, hfound, h⟩ := bind_eq_ok.1 h
  obtain ⟨relationship, hrelationship, h⟩ := bind_eq_ok.1 h
  obtain ⟨found', hfound', h⟩ := bind_eq_ok.1 h
  obtain ⟨_, _, h⟩ := bind_eq_ok.1 h
  obtain ⟨_, _, h⟩ := bind_eq_ok.1 h
  obtain ⟨hnone, _⟩ := List.append_eq_nil_iff.1 (Except.ok.inj h)
  obtain ⟨rfl, rfl⟩ := List.append_eq_nil_iff.1 hnone
  obtain ⟨_, ⟨⟩, hfield⟩ := Value.of_require hreputation
  obtain ⟨_, ⟨⟩, hfield'⟩ := Value.of_require hrelationship
  exact ⟨⟨reputation, hfield, hfound⟩, relationship, hfield', hfound'⟩

/-- The built-in settings pass the check. -/
theorem check_builtIn : check builtInTree = .ok [] := by rfl

theorem check_of_load {override tree : Table} (h : load override = .ok tree) :
    check tree = .ok [] := by
  unfold load at h
  split at h
  next => cases h
  next =>
    split at h
    next => cases h
    next hcheck =>
      cases h
      exact hcheck
    next => cases h

section Lists

variable {fields : Table} {items : List Value}

theorem listed_couplings {given : Value} (hgiven : fields.field? "COUPLING" = some given)
    (hitems : given.elements = .ok items) (h : ∀ item ∈ items, checkCoupling item = .ok []) :
    List.Forall₂ (fun item (c : Coupling) => c.Sound ∧ c.IsListed item) items
      ((tablesOf (listAt fields "COUPLING")).map fun c =>
        ⟨textAt c "a", textAt c "b", intAt c "divisor"⟩) := by
  have hlist : listAt fields "COUPLING" = items := by
    refine listAt_of_elements hgiven hitems fun item hitem => ?_
    obtain ⟨_, _, inner, rfl, _⟩ := of_checkCoupling (h item hitem)
    exact ⟨inner, rfl⟩
  rw [hlist]
  refine forall₂_tablesOf fun item hitem => ?_
  obtain ⟨c, hsound, inner, rfl, ha, hb, hdivisor⟩ := of_checkCoupling (h item hitem)
  have hc : c = ⟨textAt inner "a", textAt inner "b", intAt inner "divisor"⟩ := by
    simp [textAt, intAt, Table.field, ha, hb, hdivisor, Value.text?, Value.int?]
  exact ⟨inner, rfl, hc ▸ hsound, inner, rfl, hc ▸ ha, hc ▸ hb, hc ▸ hdivisor⟩

theorem listed_titles (hlist : fields.field? "TITLES" = some (.list items))
    (h : ∀ item ∈ items, ∃ t : Title, t.IsListed item) :
    List.Forall₂ (fun item (t : Title) => t.IsListed item) items
      ((tablesOf (listAt fields "TITLES")).map fun t =>
        ⟨intAt t "threshold", t.field? "title"⟩) := by
  rw [listAt, Table.field, hlist, Option.getD_some]
  refine forall₂_tablesOf fun item hitem => ?_
  obtain ⟨t, inner, rfl, hthreshold, _⟩ := h item hitem
  refine ⟨inner, rfl, inner, rfl, ?_, rfl⟩
  simp [intAt, Table.field, hthreshold, Value.int?]

end Lists

theorem Checked.of_check {tree : Table} (h : check tree = .ok []) : Checked tree := by
  obtain ⟨⟨_, hreputation, h⟩, _, hrelationship, h'⟩ := Settings.of_check h
  obtain ⟨fields, rfl, ⟨low, high, hmin, hmax, hlt⟩, ⟨given, items, hgiven, hitems, hcouplings⟩,
    _, htitles, hchecked⟩ := of_checkReputation h
  obtain ⟨titles, rfl, hsome, hlisted⟩ := of_checkTitles hchecked
  obtain ⟨fields', rfl, low', high', hmin', hmax', hlt', _, hlevels, hchecked⟩ :=
    of_checkRelationship h'
  obtain ⟨levels, rfl, hsome', hwithin⟩ := of_checkLevels hchecked
  have hsection : sectionAt tree "reputation" = fields := by
    simp [sectionAt, Table.field, hreputation]
  have hsection' : sectionAt tree "relationship" = fields' := by
    simp [sectionAt, Table.field, hrelationship]
  have hbounds : (ofTree tree).reputation = ⟨low, high⟩ := by
    simp [ofTree, hsection, intAt, Table.field, hmin, hmax, Value.int?]
  have hbounds' : (ofTree tree).relationship = ⟨low', high'⟩ := by
    simp [ofTree, hsection', intAt, Table.field, hmin', hmax', Value.int?]
  have hlevelsOf : (ofTree tree).levels =
      levels.map fun p => ((Value.atom p.1).text?.getD "", p.2.int?.getD 0) := by
    simp [ofTree, sectionAt, Table.field, hrelationship, hlevels]
  constructor
  case reputation => rw [Value.require, hreputation, hsection, Option.elim_some]
  case relationship => rw [Value.require, hrelationship, hsection', Option.elim_some]
  case ordered => exact ⟨by rwa [hbounds], by rwa [hbounds']⟩
  case couplings =>
    refine ⟨given, items, by rw [hsection, Value.require, hgiven, Option.elim_some], hitems, ?_⟩
    exact listed_couplings (hsection ▸ hgiven) hitems hcouplings
  case titles =>
    refine ⟨titles, hsome, by rw [hsection, Value.require, htitles, Option.elim_some], ?_⟩
    exact listed_titles (hsection ▸ htitles) hlisted
  case levels =>
    refine ⟨levels, hsome', by rw [hsection', Value.require, hlevels, Option.elim_some], ?_⟩
    rw [hlevelsOf, List.forall₂_map_right_iff, List.forall₂_same]
    intro p hp
    obtain ⟨n, hn, hrange⟩ := hwithin p hp
    rw [hn, hbounds']
    refine ⟨fun name hname => ?_, rfl, hrange⟩
    rw [hname]
    rfl

/-- Settings that pass the check have titles and levels. -/
theorem Checked.scaled {tree : Table} (h : Checked tree) :
    (ofTree tree).titles ≠ [] ∧ (ofTree tree).levels ≠ [] := by
  obtain ⟨_, htitles, _, hlisted⟩ := h.titles
  obtain ⟨_, hlevels, _, hlisted'⟩ := h.levels
  constructor
  · intro hnone
    rw [hnone, List.forall₂_nil_right_iff] at hlisted
    exact htitles hlisted
  · intro hnone
    rw [hnone, List.forall₂_nil_right_iff] at hlisted'
    exact hlevels hlisted'

namespace Accepted

variable {cfg : Settings} (h : cfg.Accepted)
include h

theorem checked : ∃ tree, Checked tree ∧ cfg = .ofTree tree := by
  obtain ⟨override, tree, hload, rfl⟩ := h
  exact ⟨tree, .of_check (check_of_load hload), rfl⟩

/-- Settings that pass the check couple known factions only. -/
theorem coupled : ∀ c ∈ cfg.couplings, c.Sound := by
  obtain ⟨tree, hchecked, rfl⟩ := h.checked
  obtain ⟨_, _, _, _, hlisted⟩ := hchecked.couplings
  intro c hc
  obtain ⟨_, _, hsound, _⟩ := exists_of_forall₂ hlisted hc
  exact hsound

theorem scaled : cfg.titles ≠ [] ∧ cfg.levels ≠ [] := by
  obtain ⟨tree, hchecked, rfl⟩ := h.checked
  exact hchecked.scaled

/-- Settings that pass the check have bounds in order. -/
theorem ordered :
    cfg.reputation.min < cfg.reputation.max ∧ cfg.relationship.min < cfg.relationship.max := by
  obtain ⟨tree, hchecked, rfl⟩ := h.checked
  exact hchecked.ordered

/-- The levels of settings that pass the check lie within the bounds. -/
theorem levels_within : ∀ level ∈ cfg.levels, cfg.relationship.Holds level.2 := by
  obtain ⟨tree, hchecked, rfl⟩ := h.checked
  obtain ⟨_, _, _, hlisted⟩ := hchecked.levels
  intro level hlevel
  obtain ⟨_, _, _, _, hwithin⟩ := exists_of_forall₂ hlisted hlevel
  exact hwithin

end Accepted

end Settings

end Questline
