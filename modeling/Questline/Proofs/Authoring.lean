import Questline.Outcome.Reading
import Questline.Proofs.Results
import Questline.Proofs.Tables
import Questline.Requirement.Reading

/-! What has been read from an authored form can be written down and read again. -/

namespace Questline

theorem Value.of_text? {v : Value} {s : String} (h : v.text? = some s) : v = .text s := by
  unfold text? at h
  split at h <;> cases h
  rfl

theorem Faction.word_injective : Function.Injective Faction.word := by
  intro f g
  cases f <;> cases g <;> decide

theorem Faction.exists_word {s : String} (h : Faction.isWord s = true) :
    ∃ f : Faction, f.word = s := by
  simp only [isWord, words, List.contains_iff_mem, List.mem_cons, List.not_mem_nil, or_false] at h
  rcases h with rfl | rfl | rfl | rfl | rfl | rfl
  exacts [⟨.alliance, rfl⟩, ⟨.independent, rfl⟩, ⟨.mystics, rfl⟩, ⟨.settlers, rfl⟩,
    ⟨.syndicate, rfl⟩, ⟨.voidEntity, rfl⟩]

theorem Faction.isWord_word (f : Faction) : Faction.isWord f.word = true := by
  cases f <;> decide

theorem OutcomeKind.ofSpelling?_word (kind : OutcomeKind) :
    (Vocabulary.ofSpelling? kind.word : Option OutcomeKind) = some kind := by
  cases kind <;> decide +kernel

theorem RequirementKind.ofSpelling?_word (kind : RequirementKind) :
    (Vocabulary.ofSpelling? kind.word : Option RequirementKind) = some kind := by
  cases kind <;> decide +kernel

theorem Comparator.read_word (c : Comparator) : Comparator.read (.text c.word) = .ok c := by
  cases c <;> rfl

namespace Outcome

section Fields

variable (o : Outcome)

theorem toTable_kind : Table.field? o.toTable "kind" = some (.text o.kind.word) := rfl

theorem toTable_target {field : String} (h : o.kind.targetField? = some field) :
    Table.field? o.toTable field = some (.ofText? o.target) := by
  have hne : field ≠ "kind" := by
    rintro rfl
    revert h
    cases o.kind <;> decide
  simp [Table.field?, toTable, h, Assoc.get?, Atom.beq_text, hne.symm]

theorem toTable_amount {field : String} {usual : Option Int}
    (h : o.kind.amountField? = some (field, usual)) :
    Table.field? o.toTable field = some (.int o.amount) := by
  revert h
  cases hk : o.kind <;> intro h <;> cases h <;>
    simp [Table.field?, toTable, hk, OutcomeKind.targetField?, OutcomeKind.amountField?,
      Assoc.get?, Atom.beq_text]

theorem toTable_fail (h : o.kind = .triggerEnding) :
    Table.field? o.toTable "fail" = some (.bool o.fail) := by
  simp [Table.field?, toTable, h, OutcomeKind.targetField?, OutcomeKind.amountField?,
    Assoc.get?, Atom.beq_text]

theorem toTable_id : Table.field? o.toTable "id" = if o.id.isTrue then some o.id else none := by
  cases hk : o.kind <;> cases hid : o.id.isTrue <;>
    simp [Table.field?, toTable, hk, hid, OutcomeKind.targetField?, OutcomeKind.amountField?,
      Assoc.get?, Atom.beq_text]

theorem toTable_value : Table.field? o.toTable "value" = none := by
  cases hk : o.kind <;> cases hid : o.id.isTrue <;>
    simp [Table.field?, toTable, hk, hid, OutcomeKind.targetField?, OutcomeKind.amountField?,
      Assoc.get?, Atom.beq_text]

theorem mem_fieldsOf {k : Atom} (h : k ∈ Assoc.keys o.toTable) :
    ∃ field ∈ fieldsOf o.kind, k = .text field := by
  simp only [Assoc.keys, toTable, List.map_append, List.mem_append] at h
  simp only [fieldsOf, List.mem_append]
  rcases h with (((hkind | htarget) | hamount) | hfail) | hid
  · exact ⟨"kind", by simp, by simpa using hkind⟩
  · cases hfield : o.kind.targetField? with
    | none => simp [hfield] at htarget
    | some field => exact ⟨field, by simp, by simpa [hfield] using htarget⟩
  · cases hfield : o.kind.amountField? with
    | none => simp [hfield] at hamount
    | some p => exact ⟨p.1, by simp, by simpa [hfield] using hamount⟩
  · split at hfail
    next hkind => exact ⟨"fail", by simp [hkind], by simpa using hfail⟩
    next => simp at hfail
  · split at hid
    next => exact ⟨"id", by simp, by simpa using hid⟩
    next => simp at hid

end Fields

/-- An outcome that has just the parts of its kind. -/
structure Regular (o : Outcome) : Prop where
  target : ∀ field, o.kind.targetField? = some field → ∃ s, s ≠ "" ∧ o.target = some s
  untargeted : o.kind.targetField? = none → o.target = none
  faction : o.kind = .reputationDelta → o.target.any Faction.isWord = true
  unmeasured : o.kind.amountField? = none → o.amount = 0
  positive : o.kind.needsPositive = true → 0 < o.amount
  lasting : o.kind ≠ .triggerEnding → o.fail = false
  named : o.id = .text "" ∨ o.id.isTrue = true

namespace Regular

variable {o : Outcome} (h : o.Regular)
include h

theorem readTarget_toTable : readTarget o.kind o.toTable = .ok o.target := by
  unfold readTarget
  cases hfield : o.kind.targetField? with
  | none => rw [h.untargeted hfield]
  | some field =>
    obtain ⟨s, hs, htarget⟩ := h.target field hfield
    simp [Table.field, toTable_target o hfield, htarget, Value.ofText?, hs]

theorem readAmount_toTable : readAmount o.kind o.toTable = .ok o.amount := by
  unfold readAmount
  cases hfield : o.kind.amountField? with
  | none => rw [h.unmeasured hfield]
  | some p =>
    have hpositive : ¬ (o.kind.needsPositive = true ∧ o.amount ≤ 0) := by
      rintro ⟨hneeds, hle⟩
      exact absurd (h.positive hneeds) (by omega)
    simp [toTable_amount o hfield, hpositive]

theorem readFail_toTable : readFail o.kind o.toTable = .ok o.fail := by
  unfold readFail
  split
  next hkind => rw [toTable_fail o hkind]
  next hkind => rw [h.lasting hkind]

end Regular

theorem checkFlagValue_toTable (o : Outcome) : checkFlagValue o.kind o.toTable = .ok () := by
  unfold checkFlagValue
  split
  · rw [toTable_value]
  · rfl

theorem checkFields_toTable (o : Outcome) : checkFields o.kind o.toTable = .ok () := by
  have hnone : (o.toTable.map Prod.fst).filter
      (fun k => !((fieldsOf o.kind).map Atom.text).contains k) = [] := by
    rw [List.filter_eq_nil_iff]
    intro k hk
    obtain ⟨field, hfield, rfl⟩ := mem_fieldsOf o hk
    have hmem : ((fieldsOf o.kind).map Atom.text).contains (.text field) = true := by
      rw [List.contains_iff_exists_mem_beq]
      exact ⟨_, List.mem_map_of_mem hfield, (Atom.exact_text field).beq_self⟩
    simp [hmem]
  unfold checkFields
  rw [hnone]

/-- A regular outcome is read from its data as it was. -/
theorem Regular.read_toTable {o : Outcome} (h : o.Regular) :
    read (.table o.toTable) none = .ok o := by
  have hid : (Option.getD (none : Option Value) ((Table.field? o.toTable "id").getD (.text ""))) =
      o.id := by
    rw [toTable_id]
    rcases h.named with hid | hid
    · simp [hid, Value.isTrue, Atom.isTrue]
    · simp [hid]
  have hfaction : ¬ (o.kind = .reputationDelta ∧ (!o.target.any Faction.isWord) = true) := by
    rintro ⟨hkind, hno⟩
    simp [h.faction hkind] at hno
  unfold read readFields
  simp only [toTable_kind, Option.elim_some, ok_bind, Value.readSpelling,
    OutcomeKind.ofSpelling?_word, h.readTarget_toTable, h.readAmount_toTable, h.readFail_toTable,
    checkFlagValue_toTable, checkFields_toTable, if_neg hfaction, hid]
  rfl

/-- An outcome that has the target and the amount that its kind needs, whatever else it has. -/
structure Readable (o : Outcome) : Prop where
  target : ∀ field, o.kind.targetField? = some field → ∃ s, s ≠ "" ∧ o.target = some s
  faction : o.kind = .reputationDelta → o.target.any Faction.isWord = true
  positive : o.kind.needsPositive = true → 0 < o.amount

theorem Regular.readable {o : Outcome} (h : o.Regular) : o.Readable :=
  ⟨h.target, h.faction, h.positive⟩

/-- What the data of an outcome tells of it. -/
def told (o : Outcome) : Outcome where
  kind := o.kind
  target := if o.kind.targetField?.isSome then o.target else none
  amount := if o.kind.amountField?.isSome then o.amount else 0
  fail := o.kind = .triggerEnding && o.fail
  id := if o.id.isTrue then o.id else .text ""

theorem toTable_told (o : Outcome) : o.told.toTable = o.toTable := by
  have hempty : (Value.text "").isTrue = false := rfl
  have hid : o.told.id = if o.id.isTrue then o.id else .text "" := rfl
  unfold toTable
  rw [hid]
  cases htrue : o.id.isTrue <;> cases hkind : o.kind <;>
    simp [told, hkind, hempty, htrue, OutcomeKind.targetField?, OutcomeKind.amountField?]

theorem Readable.regular_told {o : Outcome} (h : o.Readable) : o.told.Regular where
  target field hfield := by
    obtain ⟨s, hs, htarget⟩ := h.target field hfield
    exact ⟨s, hs, by simpa [told, show o.kind.targetField? = some field from hfield] using htarget⟩
  untargeted hnone := by simp [told, show o.kind.targetField? = none from hnone]
  faction hkind := by
    simpa [told, show o.kind = .reputationDelta from hkind, OutcomeKind.targetField?]
      using h.faction hkind
  unmeasured hnone := by simp [told, show o.kind.amountField? = none from hnone]
  positive hneeds := by
    have hmeasured : o.kind.amountField?.isSome = true := by
      revert hneeds
      change o.kind.needsPositive = true → _
      cases o.kind <;> simp [OutcomeKind.needsPositive, OutcomeKind.amountField?]
    simpa [told, hmeasured] using h.positive hneeds
  lasting hkind := by simp [told, show o.kind ≠ .triggerEnding from hkind]
  named := by
    cases hid : o.id.isTrue <;> simp [told, hid]

theorem Readable.read_toTable {o : Outcome} (h : o.Readable) :
    read (.table o.toTable) none = .ok o.told :=
  toTable_told o ▸ h.regular_told.read_toTable

section Read

variable {kind : OutcomeKind} {fields : Table}

theorem of_readTarget {target : Option String} (h : readTarget kind fields = .ok target) :
    (∀ field, kind.targetField? = some field → ∃ s, s ≠ "" ∧ target = some s) ∧
      (kind.targetField? = none → target = none) := by
  unfold readTarget at h
  cases hfield : kind.targetField? with
  | none =>
    rw [hfield] at h
    cases h
    exact ⟨nofun, fun _ => rfl⟩
  | some field =>
    simp only [hfield] at h
    refine ⟨fun _ _ => ?_, nofun⟩
    split at h
    next s _ =>
      split at h
      · cases h
      next hs =>
        cases h
        exact ⟨s, hs, rfl⟩
    next => cases h

theorem of_readAmount {amount : Int} (h : readAmount kind fields = .ok amount) :
    (kind.amountField? = none → amount = 0) ∧ (kind.needsPositive = true → 0 < amount) := by
  have husual (field : String) (n : Int) (hfield : kind.amountField? = some (field, some n)) :
      0 < n := by
    cases kind <;> cases hfield <;> decide
  have hmeasured : kind.needsPositive = true → kind.amountField? ≠ none := by
    cases kind <;> simp [OutcomeKind.needsPositive, OutcomeKind.amountField?]
  unfold readAmount at h
  cases hfield : kind.amountField? with
  | none =>
    rw [hfield] at h
    cases h
    exact ⟨fun _ => rfl, fun hneeds => absurd hfield (hmeasured hneeds)⟩
  | some p =>
    obtain ⟨field, usual⟩ := p
    simp only [hfield] at h
    refine ⟨nofun, fun hneeds => ?_⟩
    split at h
    next n _ _ =>
      split at h
      · cases h
      next hn =>
        cases h
        by_contra hle
        exact hn ⟨hneeds, by omega⟩
    next n _ =>
      cases h
      exact husual field amount hfield
    next => cases h

/-- The parts of an outcome that has been read. -/
theorem of_read {v : Value} {id : Option Value} {o : Outcome} (h : read v id = .ok o) :
    ∃ fields, v = .table fields ∧ readTarget o.kind fields = .ok o.target ∧
      (o.kind = .reputationDelta → o.target.any Faction.isWord = true) ∧
      readAmount o.kind fields = .ok o.amount ∧ readFail o.kind fields = .ok o.fail ∧
      o.id = id.getD ((Table.field? fields "id").getD (.text "")) := by
  unfold read at h
  split at h
  case h_2 => cases h
  case h_1 fields =>
  unfold readFields at h
  obtain ⟨kindField, _, h⟩ := bind_eq_ok.1 h
  obtain ⟨kind, _, h⟩ := bind_eq_ok.1 h
  obtain ⟨target, htarget, h⟩ := bind_eq_ok.1 h
  split at h
  · cases h
  next hfaction =>
    obtain ⟨amount, hamount, h⟩ := bind_eq_ok.1 h
    obtain ⟨fail, hfail, h⟩ := bind_eq_ok.1 h
    obtain ⟨_, _, h⟩ := bind_eq_ok.1 h
    obtain ⟨_, _, h⟩ := bind_eq_ok.1 h
    cases h
    refine ⟨fields, rfl, htarget, fun hkind => ?_, hamount, hfail, rfl⟩
    by_contra hno
    exact hfaction ⟨hkind, by simpa using hno⟩

/-- What is read as the target of an outcome, if there is one to be read, is its target. -/
theorem target_of_readTarget {o : Outcome} {target : Option String} {field : String}
    (hfield : o.kind.targetField? = some field)
    (h : readTarget o.kind o.toTable = .ok target) : target = o.target := by
  unfold readTarget at h
  simp only [hfield, Table.field, toTable_target o hfield, Option.getD_some] at h
  cases htarget : o.target with
  | none =>
    rw [htarget] at h
    cases h
  | some s =>
    rw [htarget] at h
    simp only [Value.ofText?] at h
    split at h <;> cases h
    rfl

theorem readable_of_read_toTable {o p : Outcome} (h : read (.table o.toTable) none = .ok p) :
    o.Readable := by
  unfold read readFields at h
  simp only [toTable_kind, Option.elim_some, ok_bind, Value.readSpelling,
    OutcomeKind.ofSpelling?_word] at h
  obtain ⟨target, htarget, h⟩ := bind_eq_ok.1 h
  split at h
  · cases h
  next hfaction =>
    obtain ⟨amount, hamount, -⟩ := bind_eq_ok.1 h
    refine ⟨fun field hfield => ?_, fun hkind => ?_, fun hneeds => ?_⟩
    · rw [← target_of_readTarget hfield htarget]
      exact (of_readTarget htarget).1 field hfield
    · have hfield : o.kind.targetField? = some "faction" := by rw [hkind]; rfl
      rw [target_of_readTarget hfield htarget] at hfaction
      simpa [hkind] using hfaction
    · have hpositive := (of_readAmount hamount).2 hneeds
      cases hfield : o.kind.amountField? with
      | none => exact absurd ((of_readAmount hamount).1 hfield) (by omega)
      | some p =>
        unfold readAmount at hamount
        simp only [hfield, toTable_amount o hfield] at hamount
        split at hamount <;> cases hamount
        exact hpositive

theorem id_of_read {v id : Value} {o : Outcome} (h : read v (some id) = .ok o) : o.id = id := by
  obtain ⟨_, _, _, _, _, _, hid⟩ := of_read h
  exact hid

/-- Whatever has been read and goes by a text is regular. -/
theorem regular_of_read_text {v : Value} {id : Option Value} {o : Outcome} {name : String}
    (h : read v id = .ok o) (hname : o.id = .text name) : o.Regular := by
  obtain ⟨fields, _, htarget, hfaction, hamount, hfail, _⟩ := of_read h
  refine ⟨(of_readTarget htarget).1, (of_readTarget htarget).2, hfaction,
    (of_readAmount hamount).1, (of_readAmount hamount).2, fun hkind => ?_, ?_⟩
  · rw [readFail, if_neg hkind] at hfail
    exact (Except.ok.inj hfail).symm
  · rw [hname]
    by_cases hempty : name = ""
    · exact .inl (by rw [hempty])
    · exact .inr (by simp [Value.isTrue, Atom.isTrue, hempty])

theorem regular_of_read {v : Value} {name : String} {o : Outcome}
    (h : read v (some (.text name)) = .ok o) : o.Regular :=
  regular_of_read_text h (id_of_read h)

end Read

end Outcome

namespace Requirement

/-- A requirement of a least number says which. -/
def Judgeable (r : Requirement) : Prop := r.comparator = .atLeast → r.value.isSome = true

theorem Judgeable.compare {r : Requirement} (h : r.Judgeable) (f : Fact) :
    ∃ b, r.compare f = .ok b := by
  unfold Requirement.compare
  split
  next hc =>
    obtain ⟨v, hv⟩ := Option.isSome_iff_exists.1 (h hc)
    exact ⟨_, by rw [hv, Option.elim_some]⟩
  all_goals exact ⟨_, rfl⟩

/-- A requirement whose comparator suits its kind, and which compares with a value just if its kind
is about numbers. -/
structure Formed (r : Requirement) : Prop where
  comparator : r.comparator.isNumeric = r.kind.isNumeric
  value : r.value.isSome = r.kind.isNumeric

theorem Formed.judgeable {r : Requirement} (h : r.Formed) : r.Judgeable := by
  intro hc
  rw [h.value, ← h.comparator, hc]
  rfl

theorem formed_atLocation (location : String) : (atLocation location).Formed := ⟨rfl, rfl⟩

theorem of_suitable {kind : RequirementKind} {c : Option Comparator} {suited : Comparator}
    (h : suitable kind c = .ok suited) : suited.isNumeric = kind.isNumeric := by
  unfold suitable at h
  split at h
  · cases h
    unfold defaultComparator
    cases hkind : kind.isNumeric <;> rfl
  · split at h <;> cases h
    assumption

/-- A requirement that has just the parts of its kind. -/
structure Regular (r : Requirement) : Prop extends Formed r where
  subject : r.subject ≠ ""
  faction : r.kind = .factionLevel → Faction.isWord r.subject = true
  measured : ∀ fact, r.value = some fact → ∃ n, fact = .number n

section Fields

variable (r : Requirement)

theorem toTable_kind : Table.field? r.toTable "kind" = some (.text r.kind.word) := rfl

theorem toTable_subject : Table.field r.toTable r.kind.subjectField = .text r.subject := by
  cases hk : r.kind <;>
    simp [Table.field, Table.field?, toTable, hk, RequirementKind.subjectField, Assoc.get?,
      Atom.beq_text]

theorem toTable_comparator :
    Table.field? r.toTable "comparator" = some (.text r.comparator.word) := by
  cases hk : r.kind <;>
    simp [Table.field?, toTable, hk, RequirementKind.subjectField, Assoc.get?, Atom.beq_text]

theorem toTable_value :
    Table.field? r.toTable "value" = r.value.map fun fact => .atom fact.toAtom := by
  cases hk : r.kind <;> cases hv : r.value <;>
    simp [Table.field?, toTable, hk, hv, RequirementKind.subjectField, Assoc.get?, Atom.beq_text]

end Fields

namespace Regular

variable {r : Requirement} (h : r.Regular)
include h

theorem value_eq (hkind : r.kind.isNumeric = true) : ∃ n, r.value = some (.number n) := by
  obtain ⟨fact, hfact⟩ := Option.isSome_iff_exists.1 (h.value.trans hkind)
  obtain ⟨n, rfl⟩ := h.measured fact hfact
  exact ⟨n, hfact⟩

theorem value_none (hkind : r.kind.isNumeric = false) : r.value = none := by
  simpa [hkind] using h.value

theorem suitable_comparator : suitable r.kind (some r.comparator) = .ok r.comparator := by
  rw [suitable, if_pos h.comparator]

/-- A regular requirement is read from its data as it was. -/
theorem read_toTable (cfg : Settings) : read cfg (.table r.toTable) = .ok r := by
  have hfaction : ¬ (r.kind = .factionLevel ∧ (!Faction.isWord r.subject) = true) := by
    rintro ⟨hkind, hno⟩
    simp [h.faction hkind] at hno
  have hsubject : nonEmptyText? (.text r.subject) = some r.subject := if_neg h.subject
  have hcomparator : Option.mapM Comparator.read (some (.text r.comparator.word)) =
      .ok (some r.comparator) := by
    rw [Option.mapM_some, Comparator.read_word]
    rfl
  unfold read readFields
  simp only [toTable_kind, toTable_subject, toTable_comparator, Option.elim_some, ok_bind,
    Value.readSpelling, RequirementKind.ofSpelling?_word, hsubject, if_neg hfaction, hcomparator]
  cases hkind : r.kind.isNumeric with
  | true =>
    obtain ⟨n, hn⟩ := h.value_eq hkind
    have hlevel : readLevel cfg r.kind r.subject (Table.field r.toTable "value") = .ok n := by
      rw [Table.field, toTable_value, hn]
      rfl
    rw [if_pos rfl, hlevel, ok_bind, h.suitable_comparator, ok_bind, ← hn]
    rfl
  | false =>
    rw [if_neg Bool.false_ne_true, toTable_value, h.value_none hkind, Option.map_none,
      readNegation, ok_bind, h.suitable_comparator, ok_bind, ← h.value_none hkind]
    rfl

end Regular

theorem of_nonEmptyText? {v : Value} {s : String} (h : nonEmptyText? v = some s) :
    v = .text s ∧ s ≠ "" := by
  unfold nonEmptyText? at h
  split at h
  · split at h
    · cases h
    next hs =>
      cases h
      exact ⟨rfl, hs⟩
  · cases h

/-- The parts of a requirement that has been read. -/
theorem of_read {cfg : Settings} {v : Value} {r : Requirement} (h : read cfg v = .ok r) :
    ∃ fields comparator, v = .table fields ∧ r.subject ≠ "" ∧
      (r.kind = .factionLevel → Faction.isWord r.subject = true) ∧
      (r.kind.isNumeric = true → ∃ level,
        readLevel cfg r.kind r.subject (Table.field fields "value") = .ok level ∧
        suitable r.kind comparator = .ok r.comparator ∧ r.value = some (.number level)) ∧
      (r.kind.isNumeric = false → ∃ negated,
        readNegation r.kind r.subject (Table.field? fields "value") comparator = .ok negated ∧
        suitable r.kind negated = .ok r.comparator ∧ r.value = none) := by
  unfold read at h
  split at h
  case h_2 => cases h
  case h_1 fields =>
  unfold readFields at h
  obtain ⟨_, _, h⟩ := bind_eq_ok.1 h
  obtain ⟨kind, _, h⟩ := bind_eq_ok.1 h
  obtain ⟨subject, hsubject, h⟩ := bind_eq_ok.1 h
  have hnonempty : subject ≠ "" := by
    cases hread : nonEmptyText? (Table.field fields kind.subjectField) with
    | none =>
      rw [hread] at hsubject
      cases hsubject
    | some s =>
      rw [hread] at hsubject
      cases hsubject
      exact (of_nonEmptyText? hread).2
  by_cases hunknown : kind = .factionLevel ∧ (!Faction.isWord subject) = true
  · rw [if_pos hunknown] at h
    cases h
  have hfaction : kind = .factionLevel → Faction.isWord subject = true := fun hkind => by
    simpa [hkind] using hunknown
  rw [if_neg hunknown] at h
  obtain ⟨comparator, _, h⟩ := bind_eq_ok.1 h
  split at h
  next hkind =>
    obtain ⟨level, hlevel, h⟩ := bind_eq_ok.1 h
    obtain ⟨suited, hsuited, h⟩ := bind_eq_ok.1 h
    cases h
    exact ⟨fields, comparator, rfl, hnonempty, hfaction, fun _ => ⟨level, hlevel, hsuited, rfl⟩,
      fun hno => absurd hkind (by simp [hno])⟩
  next hkind =>
    obtain ⟨negated, hnegated, h⟩ := bind_eq_ok.1 h
    obtain ⟨suited, hsuited, h⟩ := bind_eq_ok.1 h
    cases h
    exact ⟨fields, comparator, rfl, hnonempty, hfaction, fun hnumeric => absurd hnumeric hkind,
      fun _ => ⟨negated, hnegated, hsuited, rfl⟩⟩

theorem regular_of_read {cfg : Settings} {v : Value} {r : Requirement}
    (h : read cfg v = .ok r) : r.Regular := by
  obtain ⟨fields, comparator, _, hnonempty, hfaction, hnumeric, hnegated⟩ := of_read h
  cases hkind : r.kind.isNumeric with
  | true =>
    obtain ⟨level, _, hsuited, hvalue⟩ := hnumeric hkind
    refine ⟨⟨of_suitable hsuited, by rw [hvalue, hkind]; rfl⟩, hnonempty, hfaction, ?_⟩
    rw [hvalue]
    exact fun fact hfact => ⟨level, (Option.some.inj hfact).symm⟩
  | false =>
    obtain ⟨negated, _, hsuited, hvalue⟩ := hnegated hkind
    refine ⟨⟨of_suitable hsuited, by rw [hvalue, hkind]; rfl⟩, hnonempty, hfaction, ?_⟩
    rw [hvalue]
    exact nofun

end Requirement

end Questline
