import Mathlib.Data.List.Induction
import Mathlib.Order.Bounds.Basic
import Questline.Proofs.Steps
import Questline.Proofs.Wording
import Questline.Requirement.Reading

/-! The two scales.  Both are read by a scan that keeps the last name whose number is reached; the
scan of the levels runs over them in ascending order, while a level that is named is searched in the
order of the settings.  The two agree about every number. -/

namespace Questline

/-- The last member of a list that has a property, and its place. -/
def LastWith {α : Type} (p : α → Prop) (l : List α) (i : Nat) (a : α) : Prop :=
  l[i]? = some a ∧ p a ∧ ∀ j b, i < j → l[j]? = some b → ¬ p b

section Scan

variable {α β : Type} {p : α → Prop} {l : List α} {a b : α} {i j : Nat}

theorem LastWith.le {q : α → Prop} (h : LastWith p l i a) (h' : LastWith q l j b)
    (hpq : ∀ c, p c → q c) : i ≤ j := by
  by_contra hlt
  exact h'.2.2 i a (Nat.lt_of_not_le hlt) h.1 (hpq a h.2.1)

theorem LastWith.snoc (h : p a) (l : List α) : LastWith p (l ++ [a]) l.length a := by
  refine ⟨List.getElem?_concat_length, h, fun j b hj hb => ?_⟩
  rw [List.getElem?_eq_none (by simpa using Nat.succ_le_of_lt hj)] at hb
  cases hb

theorem LastWith.append (h : LastWith p l i a) (hb : ¬ p b) : LastWith p (l ++ [b]) i a := by
  obtain ⟨hget, ha, hlast⟩ := h
  obtain ⟨hi, _⟩ := List.getElem?_eq_some_iff.1 hget
  refine ⟨(List.getElem?_append_left hi).trans hget, ha, fun j c hj hc => ?_⟩
  rcases Nat.lt_or_ge j l.length with hin | hout
  · exact hlast j c hj ((List.getElem?_append_left hin).symm.trans hc)
  · rw [List.getElem?_append_right hout] at hc
    cases List.mem_singleton.1 (List.mem_of_getElem? hc)
    exact hb

/-- A scan ends with what the last member says that counts, or with what it began with. -/
theorem foldl_scan [DecidablePred p] (f : α → β) (l : List α) (b : β) :
    (∃ i a, LastWith p l i a ∧ l.foldl (fun b a => if p a then f a else b) b = f a) ∨
      (∀ a ∈ l, ¬ p a) ∧ l.foldl (fun b a => if p a then f a else b) b = b := by
  induction l using List.reverseRecOn with
  | nil => exact .inr ⟨nofun, rfl⟩
  | append_singleton l a ih =>
    rw [List.foldl_append, List.foldl_cons, List.foldl_nil]
    by_cases ha : p a
    · exact .inl ⟨l.length, a, .snoc ha l, if_pos ha⟩
    · rw [if_neg ha]
      rcases ih with ⟨i, c, hlast, hfold⟩ | ⟨hnone, hfold⟩
      · exact .inl ⟨i, c, hlast.append ha, hfold⟩
      · exact .inr ⟨List.forall_mem_append.2 ⟨hnone, List.forall_mem_singleton.2 ha⟩, hfold⟩

end Scan

namespace Scale

/-- The title that counts for a reputation, and its place: the last one whose threshold is reached,
or the first one where none is. -/
def Chosen (titles : List Title) (value : Int) (i : Nat) (t : Title) : Prop :=
  LastWith (fun t => t.threshold ≤ value) titles i t ∨
    i = 0 ∧ titles[0]? = some t ∧ ∀ u ∈ titles, value < u.threshold

section Titles

variable {cfg : Settings} {titles : List Title} {v w : Int}

/-- Where all titles are worded, the scan cannot fail. -/
theorem foldlM_wordingOf_eq (h : ∀ t ∈ titles, t.wording.isSome = true) (title : Value) :
    titles.foldlM (fun title t => if t.threshold ≤ v then wordingOf t else pure title) title =
      .ok (titles.foldl (fun title t => if t.threshold ≤ v then t.wording.getD .null else title)
        title) := by
  induction titles generalizing title with
  | nil => rfl
  | cons t rest ih =>
    rw [List.forall_mem_cons] at h
    obtain ⟨wording, hwording⟩ := Option.isSome_iff_exists.1 h.1
    rw [List.foldlM_cons, List.foldl_cons]
    split
    · rw [wordingOf, hwording]
      exact ih h.2 wording
    · exact ih h.2 title

/-- A reputation has the title that counts for it. -/
theorem exists_chosen (hsome : cfg.titles ≠ []) (htitled : cfg.Titled) (v : Int) :
    ∃ i t title, Chosen cfg.titles v i t ∧ t.wording = some title ∧
      reputationTitle cfg v = .ok title := by
  unfold reputationTitle
  split
  next hnone => exact absurd hnone hsome
  next first rest hcons =>
    have hworded {t : Title} (ht : t ∈ cfg.titles) : t.wording = some (t.wording.getD .null) := by
      obtain ⟨wording, h⟩ := Option.isSome_iff_exists.1 (htitled t ht)
      rw [h, Option.getD_some]
    have hfirst : first ∈ cfg.titles := hcons ▸ List.mem_cons_self
    rw [wordingOf, hworded hfirst, Option.elim_some, ok_bind, foldlM_wordingOf_eq htitled]
    rcases foldl_scan (p := fun t => t.threshold ≤ v) (fun t : Title => t.wording.getD .null)
      cfg.titles (first.wording.getD .null) with ⟨i, t, hlast, hfold⟩ | ⟨hnone, hfold⟩
    · exact ⟨i, t, _, .inl hlast, hworded (List.mem_of_getElem? hlast.1), by rw [hfold]⟩
    · refine ⟨0, first, _, .inr ⟨rfl, by rw [hcons]; rfl, fun u hu => ?_⟩, hworded hfirst,
        by rw [hfold]⟩
      exact Int.not_le.1 (hnone u hu)

/-- A higher reputation has no earlier title. -/
theorem Chosen.mono {i j : Nat} {t u : Title} (hvw : v ≤ w) (h : Chosen titles v i t)
    (h' : Chosen titles w j u) : i ≤ j := by
  rcases h with h | ⟨rfl, _⟩
  · rcases h' with h' | ⟨_, _, hnone⟩
    · exact h.le h' fun c hc => hc.trans hvw
    · have := hnone t (List.mem_of_getElem? h.1)
      have := h.2.1
      omega
  · exact Nat.zero_le j

end Titles

section Levels

variable {cfg : Settings} {level : String × Int} {levels : List (String × Int)}

theorem perm_insertLevel (level : String × Int) (levels : List (String × Int)) :
    (insertLevel level levels).Perm (level :: levels) := by
  induction levels with
  | nil => exact .refl _
  | cons l rest ih =>
    rw [insertLevel]
    split
    · exact .refl _
    · exact (ih.cons l).trans (.swap level l rest)

theorem insertLevel_ascending (h : levels.Pairwise (·.2 ≤ ·.2)) :
    (insertLevel level levels).Pairwise (·.2 ≤ ·.2) := by
  induction levels with
  | nil => exact List.pairwise_singleton _ _
  | cons l rest ih =>
    rw [insertLevel]
    obtain ⟨hl, hrest⟩ := List.pairwise_cons.1 h
    split
    next hlt =>
      refine List.pairwise_cons.2 ⟨List.forall_mem_cons.2 ⟨hlt.le, fun k hk => ?_⟩, h⟩
      exact hlt.le.trans (hl k hk)
    next hge =>
      refine List.pairwise_cons.2 ⟨fun k hk => ?_, ih hrest⟩
      rcases List.mem_cons.1 ((perm_insertLevel level rest).mem_iff.1 hk) with rfl | hk
      · exact Int.not_lt.1 hge
      · exact hl k hk

/-- The sorted levels are those of the settings, in ascending order. -/
theorem sortedLevels_spec (cfg : Settings) :
    (sortedLevels cfg).Perm cfg.levels ∧ (sortedLevels cfg).Pairwise (·.2 ≤ ·.2) := by
  unfold sortedLevels
  induction cfg.levels using List.reverseRecOn with
  | nil => exact ⟨.refl _, .nil⟩
  | append_singleton levels level ih =>
    rw [List.foldl_append, List.foldl_cons, List.foldl_nil]
    refine ⟨(perm_insertLevel level _).trans ?_, insertLevel_ascending ih.2⟩
    exact (ih.1.cons level).trans (List.perm_append_singleton ..).symm

/-- A relationship that reaches some level has the level of the greatest bound that it reaches. -/
theorem relationshipLevel_greatest {v : Int} (hreached : ∃ l ∈ cfg.levels, l.2 ≤ v) :
    ∃ level ∈ cfg.levels, relationshipLevel cfg v = .ok level.1 ∧
      IsGreatest {bound | bound ≤ v ∧ ∃ l ∈ cfg.levels, l.2 = bound} level.2 := by
  obtain ⟨hperm, hascending⟩ := sortedLevels_spec cfg
  obtain ⟨l, hl, hlv⟩ := hreached
  unfold relationshipLevel
  split
  next hnone =>
    rw [hnone] at hperm
    rw [← hperm.nil_eq] at hl
    cases hl
  next first rest hcons =>
    rw [← hcons]
    rcases foldl_scan (p := fun l : String × Int => l.2 ≤ v) Prod.fst (sortedLevels cfg) first.1
      with ⟨i, level, hlast, hfold⟩ | ⟨hnone, _⟩
    · have hmem : level ∈ cfg.levels := hperm.mem_iff.1 (List.mem_of_getElem? hlast.1)
      refine ⟨level, hmem, congrArg Except.ok hfold, ⟨hlast.2.1, level, hmem, rfl⟩, ?_⟩
      rintro bound ⟨hbound, k, hk, rfl⟩
      obtain ⟨j, hj, rfl⟩ := List.getElem_of_mem (hperm.mem_iff.2 hk)
      obtain ⟨hi, rfl⟩ := List.getElem?_eq_some_iff.1 hlast.1
      have hle : j ≤ i := by
        by_contra hlt
        exact hlast.2.2 j _ (Nat.lt_of_not_le hlt) (List.getElem?_eq_getElem hj) hbound
      rcases hle.eq_or_lt with rfl | hlt
      · exact le_rfl
      · exact List.pairwise_iff_getElem.1 hascending j i hj hi hlt
    · exact absurd hlv (hnone l (hperm.mem_iff.2 hl))

/-- A level is found by any spelling of its name that has its small letters. -/
theorem relationshipThreshold_eq (hnames : (cfg.levels.map fun l => Text.lower l.1).Nodup)
    (hlevel : level ∈ cfg.levels) {s : String} (hs : Text.lower s = Text.lower level.1) :
    relationshipThreshold cfg s = .ok level.2 := by
  have hfind : cfg.levels.find? (fun l => Text.lower l.1 == Text.lower s) = some level := by
    rw [hs]
    exact find?_of_distinct hnames hlevel
  unfold relationshipThreshold
  rw [hfind]

end Levels

end Scale

namespace Requirement

/-- A relationship is asked for by the name of a level, to be reached or surpassed. -/
structure ByLevel (fields : Table) (companion level : String) : Prop where
  kind : ∃ s, fields.field? "kind" = some (.text s) ∧
    Vocabulary.ofSpelling? s = some RequirementKind.relationship
  subject : fields.field? RequirementKind.relationship.subjectField = some (.text companion)
  named : companion ≠ ""
  comparator : ∀ v, fields.field? "comparator" = some v → Comparator.read v = .ok .atLeast
  value : fields.field? "value" = some (.text level)

/-- A requirement by level asks for the bound of that level. -/
theorem ByLevel.read_eq {cfg : Settings} {fields : Table} {companion level : String} {bound : Int}
    (h : ByLevel fields companion level)
    (hbound : Scale.relationshipThreshold cfg level = .ok bound) :
    read cfg (.table fields) =
      .ok ⟨.relationship, companion, .atLeast, some (.number bound)⟩ := by
  obtain ⟨s, hkind, hspelling⟩ := h.kind
  have hread : (Value.text s).readSpelling RequirementKind = .ok .relationship := by
    rw [Value.readSpelling, hspelling, Option.elim_some]
  have hsubject : nonEmptyText? (fields.field RequirementKind.relationship.subjectField) =
      some companion := by
    rw [Table.field, h.subject, Option.getD_some, nonEmptyText?, if_neg h.named]
  have hvalue : fields.field "value" = .text level := by
    rw [Table.field, h.value, Option.getD_some]
  have hlevel : readLevel cfg .relationship companion (.text level) = .ok bound := hbound
  have hcomparator : (fields.field? "comparator").mapM Comparator.read = .ok none ∨
      (fields.field? "comparator").mapM Comparator.read = .ok (some .atLeast) := by
    cases hgiven : fields.field? "comparator" with
    | none => exact .inl rfl
    | some v => exact .inr (by rw [Option.mapM_some, h.comparator v hgiven]; rfl)
  change readFields cfg fields = _
  unfold readFields
  rw [hkind, Option.elim_some, ok_bind, hread, ok_bind, hsubject, Option.elim_some, ok_bind]
  rcases hcomparator with hcomparator | hcomparator
  · rw [hcomparator, hvalue, hlevel]
    rfl
  · rw [hcomparator, hvalue, hlevel]
    rfl

/-- A relationship is compared without asking anybody. -/
theorem evaluate_relationship (subject : String) (bound : Int) (ledger : Ledger) (host : Host) :
    (⟨.relationship, subject, .atLeast, some (.number bound)⟩ : Requirement).evaluate ledger host =
      .ok (decide (bound ≤ ledger.relationshipWith subject)) host := rfl

end Requirement

/-- In settings that pass the check every reputation has the last title whose threshold it reaches,
or the first one, and no earlier title than a lower reputation.  A relationship that reaches some
level has the level of the greatest bound that it reaches, which is found again by its name; and a
requirement by the name of a level is met just if that level lies no higher. -/
theorem scales_agree {tree : Table} (h : Settings.check tree = .ok [])
    (htitled : (Settings.ofTree tree).Titled)
    (hnames : ((Settings.ofTree tree).levels.map fun l => Text.lower l.1).Nodup) :
    let cfg := Settings.ofTree tree
    (∀ v, ∃ i t title, Scale.Chosen cfg.titles v i t ∧ t.wording = some title ∧
      Scale.reputationTitle cfg v = .ok title) ∧
    (∀ v w i j t u, v ≤ w → Scale.Chosen cfg.titles v i t → Scale.Chosen cfg.titles w j u → i ≤ j) ∧
    ∀ v, (∃ l ∈ cfg.levels, l.2 ≤ v) →
      ∃ level ∈ cfg.levels, Scale.relationshipLevel cfg v = .ok level.1 ∧
        Scale.relationshipThreshold cfg level.1 = .ok level.2 ∧
        IsGreatest {bound | bound ≤ v ∧ ∃ l ∈ cfg.levels, l.2 = bound} level.2 ∧
        ∀ l ∈ cfg.levels, ∀ fields companion s, Text.lower s = Text.lower l.1 →
          Requirement.ByLevel fields companion s →
          ∃ r, Requirement.read cfg (.table fields) = .ok r ∧ ∀ ledger host,
            ledger.relationshipWith companion = v →
              r.evaluate ledger host = .ok (decide (l.2 ≤ level.2)) host := by
  intro cfg
  refine ⟨Scale.exists_chosen (Settings.Checked.of_check h).scaled.1 htitled,
    fun v w i j t u hvw ht hu => ht.mono hvw hu, fun v hreached => ?_⟩
  obtain ⟨level, hlevel, hname, hgreatest⟩ := Scale.relationshipLevel_greatest hreached
  refine ⟨level, hlevel, hname, Scale.relationshipThreshold_eq hnames hlevel rfl, hgreatest,
    fun l hl fields companion s hs hasks => ?_⟩
  refine ⟨_, hasks.read_eq (Scale.relationshipThreshold_eq hnames hl hs), fun ledger host hv => ?_⟩
  have hbound : l.2 ≤ v ↔ l.2 ≤ level.2 :=
    ⟨fun hle => hgreatest.2 ⟨hle, l, hl, rfl⟩, fun hle => hle.trans hgreatest.1.1⟩
  rw [Requirement.evaluate_relationship, hv, decide_eq_decide.2 hbound]

/-- On the built-in scales somebody at seventy is a friend, and so more than cooperative, but not
devoted. -/
theorem scales_agree_builtIn :
    let cfg := Settings.builtIn
    let fields (level : String) : Table := [(.text "kind", "relationship"),
      (.text "companion", "vera"), (.text "value", .text level)]
    Settings.check Settings.builtInTree = .ok [] ∧ cfg.Titled ∧
      (cfg.levels.map fun l => Text.lower l.1).Nodup ∧
      Scale.relationshipLevel cfg 70 = .ok "Friendly" ∧
      (∃ r, Requirement.read cfg (.table (fields "COOPERATIVE")) = .ok r ∧ ∀ ledger host,
        ledger.relationshipWith "vera" = 70 → r.evaluate ledger host = .ok true host) ∧
      ∃ r, Requirement.read cfg (.table (fields "devoted")) = .ok r ∧ ∀ ledger host,
        ledger.relationshipWith "vera" = 70 → r.evaluate ledger host = .ok false host := by
  intro cfg fields
  have hnames : (cfg.levels.map fun l => Text.lower l.1).Nodup := by decide +kernel
  have hasks (level : String) : Requirement.ByLevel (fields level) "vera" level :=
    ⟨⟨"relationship", rfl, by decide +kernel⟩, rfl, by decide, nofun, rfl⟩
  have hfriendly : Scale.relationshipLevel cfg 70 = .ok "Friendly" := by rfl
  have hseventy : Scale.relationshipThreshold cfg "Friendly" = .ok 70 := by rfl
  obtain ⟨level, _, hname, hbound, _, hmet⟩ :=
    (scales_agree Settings.check_builtIn Settings.titled_builtIn hnames).2.2 70
      ⟨("Friendly", 70), by decide +kernel, le_rfl⟩
  obtain rfl : level = ("Friendly", 70) := by
    have hfirst : level.1 = "Friendly" := Except.ok.inj (hname.symm.trans hfriendly)
    rw [hfirst] at hbound
    exact Prod.ext hfirst (Except.ok.inj (hbound.symm.trans hseventy))
  refine ⟨Settings.check_builtIn, Settings.titled_builtIn, hnames, hfriendly, ?_, ?_⟩
  · exact hmet ("Cooperative", 40) (by decide +kernel) _ _ _ (by decide +kernel) (hasks _)
  · exact hmet ("Devoted", 90) (by decide +kernel) _ _ _ (by decide +kernel) (hasks _)

end Questline
