import Questline.Proofs.Promotion
import Questline.Proofs.Scores

/-! Outcomes and requirements as data.  Whatever form one has been read from, it has just the parts
of its kind, and what is written of it is read as the same again. -/

namespace Questline

theorem exists_of_toOption {ε α β : Type} {x : Except ε α} {f : α → β} {b : β}
    (h : (x.map f).toOption = some b) : ∃ a, x = .ok a ∧ f a = b := by
  cases x with
  | error why => cases h
  | ok a => exact ⟨a, rfl, Option.some.inj h⟩

theorem Value.field?_of_getD {fields : Table} {key : String} {default v : Value}
    (h : (Value.table fields).getD key default = .ok v) (hne : v ≠ default) :
    Table.field? fields key = some v := by
  have hv : (Table.field? fields key).getD default = v := Except.ok.inj h
  cases hfield : Table.field? fields key with
  | none =>
    rw [hfield] at hv
    exact absurd hv.symm hne
  | some w =>
    rw [hfield] at hv
    exact congrArg some hv

namespace Outcome.Regular

variable {o : Outcome} (h : o.Regular)
include h

theorem targeted_iff :
    o.kind.targetField?.isSome = true ↔ ∃ target, target ≠ "" ∧ o.target = some target := by
  refine ⟨fun hsome => ?_, fun ⟨target, _, htarget⟩ => ?_⟩
  · obtain ⟨field, hfield⟩ := Option.isSome_iff_exists.1 hsome
    exact h.target field hfield
  · by_contra hnone
    rw [h.untargeted (by simpa using hnone)] at htarget
    cases htarget

theorem exists_faction (hkind : o.kind = .reputationDelta) :
    ∃ f : Faction, o.target = some f.word := by
  have hfaction := h.faction hkind
  rw [Option.any_eq_true] at hfaction
  obtain ⟨s, hs, hword⟩ := hfaction
  obtain ⟨f, rfl⟩ := Faction.exists_word hword
  exact ⟨f, hs⟩

end Outcome.Regular

/-- Whatever form an outcome has been read from, under a given name or its own, it has just the
parts of its kind.  Its data is read as the same outcome, which has the same data. -/
theorem outcome_reread {v : Value} {given : Option String} {o : Outcome}
    (hown : ∀ id, v.getD "id" (.text "") = .ok id → ∃ name, id = .text name)
    (h : Outcome.read v (given.map .text) = .ok o) :
    (∃ p, Outcome.read (.table o.toTable) none = .ok p ∧ p = o ∧ p.toTable = o.toTable) ∧
      (o.kind.targetField?.isSome = true ↔ ∃ target, target ≠ "" ∧ o.target = some target) ∧
      (o.kind.targetField?.isSome = false → o.target = none) ∧
      (o.kind = .reputationDelta → ∃ f : Faction, o.target = some f.word) ∧
      (o.kind ∈ [.grantExperience, .giveItem, .removeItem] → 0 < o.amount) ∧
      (o.kind.amountField? = none → o.amount = 0) ∧
      (o.fail = true → o.kind = .triggerEnding) := by
  obtain ⟨name, hname⟩ : ∃ name, o.id = .text name := by
    obtain ⟨fields, rfl, _, _, _, _, hid⟩ := Outcome.of_read h
    cases given with
    | some name => exact ⟨name, hid⟩
    | none => exact hid ▸ hown _ rfl
  have hregular := Outcome.regular_of_read_text h hname
  refine ⟨⟨o, hregular.read_toTable, rfl, rfl⟩, hregular.targeted_iff,
    fun hnone => hregular.untargeted (by simpa using hnone), hregular.exists_faction,
    fun hkind => hregular.positive ?_, hregular.unmeasured, fun hfail => ?_⟩
  · simp only [List.mem_cons, List.not_mem_nil, or_false] at hkind
    rcases hkind with hkind | hkind | hkind <;> rw [hkind] <;> rfl
  · by_contra hkind
    rw [hregular.lasting hkind] at hfail
    cases hfail

/-- A gift spelled in camel case that leaves its quantity out, and a flag that is said to be
true. -/
theorem outcome_reread_spellings :
    let gift : Value := .record [("kind", "GiveItem"), ("item", "potion")]
    let oath : Value := .record [("kind", "SET_FLAG"), ("flag", "sworn"), ("value", .bool true),
      ("id", "oath")]
    ∃ o p, Outcome.read gift (some (.text "reward")) = .ok o ∧ 0 < o.amount ∧
      (∃ q, Outcome.read (.table o.toTable) none = .ok q ∧ q = o ∧ q.toTable = o.toTable) ∧
      Outcome.read oath none = .ok p ∧ p.amount = 0 ∧
      ∃ q, Outcome.read (.table p.toTable) none = .ok q ∧ q = p ∧ q.toTable = p.toTable := by
  intro gift oath
  obtain ⟨o, hgift, hkind⟩ := @exists_of_toOption _ _ _ (Outcome.read gift (some (.text "reward")))
    Outcome.kind .giveItem (by decide +kernel)
  obtain ⟨p, hoath, hkind'⟩ := @exists_of_toOption _ _ _ (Outcome.read oath none)
    Outcome.kind .setFlag (by decide +kernel)
  have hunnamed : ∀ id, gift.getD "id" (.text "") = .ok id → ∃ name, id = .text name := by
    rintro _ ⟨⟩
    exact ⟨_, rfl⟩
  have hnamed : ∀ id, oath.getD "id" (.text "") = .ok id → ∃ name, id = .text name := by
    rintro _ ⟨⟩
    exact ⟨_, rfl⟩
  obtain ⟨hagain, _, _, _, hpositive, _⟩ := @outcome_reread gift (some "reward") o hunnamed hgift
  obtain ⟨hagain', _, _, _, _, hzero, _⟩ := @outcome_reread oath none p hnamed hoath
  exact ⟨o, p, hgift, hpositive (by simp [hkind]), hagain, hoath,
    hzero (by rw [hkind']; rfl), hagain'⟩

namespace Requirement

/-- Where the host answers, a requirement that can be judged is. -/
theorem Judgeable.evaluate_eq {r : Requirement} (h : r.Judgeable) (ledger : Ledger) {host : Host}
    (hanswers : host.Answering) :
    ∃ host', r.evaluate ledger host = .ok (r.holds ledger host) host' := by
  obtain ⟨met, hmet⟩ := h.compare (r.fact ledger host)
  have hends := r.ends_evaluate ledger host
  unfold Ends at hends
  cases hrun : r.evaluate ledger host with
  | ok b host' =>
    rw [hrun] at hends
    exact ⟨host', by rw [holds, hends.2]⟩
  | error why host' =>
    rw [hrun] at hends
    cases hmet.symm.trans (hends hanswers)

variable {cfg : Settings} {kind : RequirementKind} {subject : String}

/-- A text stands for a number just if it names a level. -/
theorem of_readLevel_text {name : String} {n : Int}
    (h : readLevel cfg kind subject (.text name) = .ok n) : kind = .relationship ∧
      ∃ level ∈ cfg.levels, Text.lower level.1 = Text.lower name ∧ level.2 = n := by
  unfold readLevel at h
  split at h
  next hint => cases hint
  next _ hname =>
    cases hname
    unfold Scale.relationshipThreshold at h
    split at h
    next bound hfound =>
      cases h
      exact ⟨rfl, _, List.mem_of_find?_eq_some hfound, by simpa using List.find?_some hfound, rfl⟩
    next => cases h
  next => cases h

theorem readLevel_false (n : Int) : readLevel cfg kind subject (.bool false) ≠ .ok n := by
  unfold readLevel
  split <;> simp_all

variable {v : Value} {r : Requirement}

/-- The name of a level stands for its bound. -/
theorem level_of_read (h : read cfg v = .ok r) {name : String}
    (hname : v.getD "value" .null = .ok (.text name)) : r.kind = .relationship ∧
      ∃ level ∈ cfg.levels, Text.lower level.1 = Text.lower name ∧
        r.value = some (.number level.2) := by
  obtain ⟨fields, comparator, rfl, _, _, hnumeric, hnegated⟩ := of_read h
  have hfield := Value.field?_of_getD hname nofun
  cases hkind : r.kind.isNumeric with
  | true =>
    obtain ⟨n, hlevel, _, hvalue⟩ := hnumeric hkind
    rw [Table.field, hfield] at hlevel
    obtain ⟨hrelationship, level, hmem, hlower, rfl⟩ := of_readLevel_text hlevel
    exact ⟨hrelationship, level, hmem, hlower, hvalue⟩
  | false =>
    obtain ⟨_, hnegated, _⟩ := hnegated hkind
    rw [hfield] at hnegated
    cases hnegated

/-- The value `false` asks for the opposite of a fact. -/
theorem fails_of_read (h : read cfg v = .ok r)
    (hfalse : v.getD "value" .null = .ok (.bool false)) : r.comparator = .fails := by
  obtain ⟨fields, comparator, rfl, _, _, hnumeric, hnegated⟩ := of_read h
  have hfield := Value.field?_of_getD hfalse nofun
  cases hkind : r.kind.isNumeric with
  | true =>
    obtain ⟨n, hlevel, _⟩ := hnumeric hkind
    rw [Table.field, hfield] at hlevel
    exact absurd hlevel (readLevel_false n)
  | false =>
    obtain ⟨_, hnegated, hsuited, _⟩ := hnegated hkind
    rw [hfield] at hnegated
    cases comparator with
    | some => cases hnegated
    | none =>
      cases hnegated
      rw [suitable] at hsuited
      split at hsuited
      next => exact (Except.ok.inj hsuited).symm
      next => cases hsuited

/-- A requirement has a number and compares it, or has none and asks for a fact. -/
theorem Regular.parts (h : r.Regular) :
    r.kind.isNumeric = true ∧ (∃ n, r.value = some (.number n)) ∧
        (r.comparator = .atLeast ∨ r.comparator = .equal) ∨
      r.kind.isNumeric = false ∧ r.value = none ∧
        (r.comparator = .holds ∨ r.comparator = .fails) := by
  have hsuits := h.comparator
  cases hkind : r.kind.isNumeric with
  | true =>
    refine .inl ⟨rfl, h.value_eq hkind, ?_⟩
    rw [hkind] at hsuits
    cases hc : r.comparator <;> simp_all [Comparator.isNumeric]
  | false =>
    refine .inr ⟨rfl, h.value_none hkind, ?_⟩
    rw [hkind] at hsuits
    cases hc : r.comparator <;> simp_all [Comparator.isNumeric]

end Requirement

/-- Whatever form a requirement has been read from, it is about something, and either compares a
number or asks for a fact, so it can be judged wherever the host answers.  Its data is read as the
same requirement.  The name of a level stands for its bound, and the value `false` for the
opposite. -/
theorem requirement_reread {cfg : Settings} (hcfg : cfg.Accepted) {v : Value} {r : Requirement}
    (h : Requirement.read cfg v = .ok r) :
    r.subject ≠ "" ∧ (r.kind = .factionLevel → ∃ f : Faction, r.subject = f.word) ∧
      (r.kind.isNumeric = true ∧ (∃ n, r.value = some (.number n)) ∧
          (r.comparator = .atLeast ∨ r.comparator = .equal) ∨
        r.kind.isNumeric = false ∧ r.value = none ∧
          (r.comparator = .holds ∨ r.comparator = .fails)) ∧
      (∀ fact, ∃ met, r.compare fact = .ok met) ∧
      (∀ (ledger : Ledger) (host : Host), host.Answering →
        ∃ host', r.evaluate ledger host = .ok (r.holds ledger host) host') ∧
      Requirement.read cfg (.table r.toTable) = .ok r ∧
      (∀ name, v.getD "value" .null = .ok (.text name) → r.kind = .relationship ∧
        ∃ level ∈ cfg.levels, Text.lower level.1 = Text.lower name ∧
          r.value = some (.number level.2) ∧ cfg.relationship.Holds level.2) ∧
      (v.getD "value" .null = .ok (.bool false) → r.comparator = .fails ∧ r.value = none) := by
  have hregular := Requirement.regular_of_read h
  refine ⟨hregular.subject, fun hkind => ?faction, hregular.parts, hregular.judgeable.compare,
    fun ledger host => hregular.judgeable.evaluate_eq ledger, hregular.read_toTable cfg,
    fun name hname => ?level, fun hfalse => ?opposite⟩
  case faction =>
    obtain ⟨f, hf⟩ := Faction.exists_word (hregular.faction hkind)
    exact ⟨f, hf.symm⟩
  case level =>
    obtain ⟨hkind, level, hlevel, hlower, hvalue⟩ := Requirement.level_of_read h hname
    exact ⟨hkind, level, hlevel, hlower, hvalue, hcfg.levels_within level hlevel⟩
  case opposite =>
    have hfails := Requirement.fails_of_read h hfalse
    refine ⟨hfails, ?_⟩
    rcases hregular.parts with ⟨_, _, hcomparator⟩ | ⟨_, hnone, _⟩
    · simp [hfails] at hcomparator
    · exact hnone

/-- A companion whose trust is asked for by the name of a level, and an oath that must not have been
sworn. -/
theorem requirement_reread_level :
    let trust : Value := .record [("kind", "Relationship"), ("companion", "mira"),
      ("value", "FRIENDLY")]
    let unsworn : Value := .record [("kind", "flag"), ("flag", "sworn"), ("value", .bool false)]
    Settings.builtIn.Accepted ∧
      ∃ r s, Requirement.read .builtIn trust = .ok r ∧ r.value = some (.number 70) ∧
        Requirement.read .builtIn (.table r.toTable) = .ok r ∧
        Requirement.read .builtIn unsworn = .ok s ∧ s.comparator = .fails ∧ s.value = none ∧
        Requirement.read .builtIn (.table s.toTable) = .ok s := by
  intro trust unsworn
  have haccepted := Settings.accepted_builtIn
  obtain ⟨r, htrust, hvalue⟩ := @exists_of_toOption _ _ _ (Requirement.read .builtIn trust)
    Requirement.value (some (.number 70)) (by decide +kernel)
  obtain ⟨s, hunsworn, _⟩ := @exists_of_toOption _ _ _ (Requirement.read .builtIn unsworn)
    Requirement.kind .flag (by decide +kernel)
  obtain ⟨_, _, _, _, _, hagain, _⟩ := requirement_reread haccepted htrust
  obtain ⟨_, _, _, _, _, hagain', _, hopposite⟩ := requirement_reread haccepted hunsworn
  obtain ⟨hfails, hnone⟩ := hopposite rfl
  exact ⟨haccepted, r, s, htrust, hvalue, hagain, hunsworn, hfails, hnone, hagain'⟩

end Questline
