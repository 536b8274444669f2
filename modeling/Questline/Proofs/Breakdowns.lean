import Questline.Proofs.Entries

/-! Which authored data is not just refused.  A refusal is noted, or told to whoever asked; any
other fault breaks the reading off.  With data that is made of tables of named fields, only two
slips do so: a kind that is no text, and a comparator that is no text. -/

namespace Questline

/-- Data made of tables of named fields, of lists, and of plain atoms. -/
inductive Value.Plain : Value → Prop
  | null : Plain .null
  | bool (b : Bool) : Plain (.bool b)
  | int (n : Int) : Plain (.int n)
  | float (x : Float) : Plain (.float x)
  | text (s : String) : Plain (.text s)
  | list {items : List Value} : (∀ v ∈ items, Plain v) → Plain (.list items)
  | table {fields : Table} : Atom.Texts (Assoc.keys fields) → (∀ p ∈ fields, Plain p.2) →
      Plain (.table fields)

/-- Some table in an authored list has a property. -/
def Value.Lists (bad : Table → Prop) (v : Value) : Prop :=
  ∃ fields, .table fields ∈ v.items?.getD [] ∧ bad fields

/-- The kind of an outcome is no text. -/
def Outcome.IllTyped (fields : Table) : Prop :=
  ∃ v, fields.field? "kind" = some v ∧ v.text? = none

/-- The kind of a requirement is no text, or its comparator is none while its kind and its subject
are sound. -/
inductive Requirement.IllTyped (fields : Table) : Prop
  | kind {v : Value} : fields.field? "kind" = some v → v.text? = none → IllTyped fields
  | comparator {s subject : String} {kind : RequirementKind} {v : Value} :
      fields.field? "kind" = some (.text s) → Vocabulary.ofSpelling? s = some kind →
      nonEmptyText? (fields.field kind.subjectField) = some subject →
      (kind = .factionLevel → Faction.isWord subject = true) →
      fields.field? "comparator" = some v → v.text? = none → IllTyped fields

inductive Choice.IllTyped (fields : Table) : Prop
  | requirement : (fields.field "requirements").Lists Requirement.IllTyped → IllTyped fields
  | outcome : (fields.field "outcomes").Lists Outcome.IllTyped → IllTyped fields

inductive Node.IllTyped (fields : Table) : Prop
  | choice : (fields.field "choices").Lists Choice.IllTyped → IllTyped fields
  | entry : (fields.field "entry_outcomes").Lists Outcome.IllTyped → IllTyped fields

/-- Somewhere in a graph stands an ill-typed requirement or outcome. -/
inductive Graph.IllTyped (fields : Table) : Prop
  | node : (fields.field "nodes").Lists Node.IllTyped → IllTyped fields
  | requirement : (fields.field "requirements").Lists Requirement.IllTyped → IllTyped fields
  | completion : (fields.field "completion_outcomes").Lists Outcome.IllTyped → IllTyped fields
  | failure : (fields.field "failure_outcomes").Lists Outcome.IllTyped → IllTyped fields

namespace Value.Plain

variable {v : Value} {fields : Table}

theorem item (h : v.Plain) : ∀ item ∈ v.items?.getD [], item.Plain := by
  cases h with
  | list hitems => exact hitems
  | _ => exact nofun

theorem names (h : (Value.table fields).Plain) : Atom.Texts (Assoc.keys fields) := by
  cases h
  assumption

theorem field (h : (Value.table fields).Plain) (name : String) : (fields.field name).Plain := by
  cases h with
  | table _ hfields =>
    unfold Table.field Table.field?
    cases hget : Assoc.get? fields (.text name) with
    | none => exact .null
    | some v => exact hfields _ (Assoc.mem_of_get? (Atom.exact_text name) hget)

theorem record {fields : List (String × Value)} (h : ∀ p ∈ fields, p.2.Plain) :
    (Value.record fields).Plain := by
  refine .table (fun k hk => ?_) fun p hp => ?_
  · simp only [Assoc.keys, List.map_map, List.mem_map, Function.comp_apply] at hk
    obtain ⟨q, _, rfl⟩ := hk
    exact ⟨q.1, rfl⟩
  · obtain ⟨q, hq, rfl⟩ := List.mem_map.1 hp
    exact h q hq

end Value.Plain

/-- A reading is broken off by a fault that is no refusal. -/
def BrokenOff {α : Type} (x : Except Fault α) : Prop :=
  ∃ why, x = .error why ∧ why.isRefusal = false

theorem OnlyRefused.not_brokenOff {α : Type} {x : Except Fault α} (h : OnlyRefused x) :
    ¬ BrokenOff x := by
  rintro ⟨why, hx, hno⟩
  exact Bool.false_ne_true (hno.symm.trans (h why hx))

section BrokenOff

variable {α β : Type}

theorem brokenOff_bind {x : Except Fault α} {f : α → Except Fault β} :
    BrokenOff (x >>= f) ↔ BrokenOff x ∨ ∃ a, x = .ok a ∧ BrokenOff (f a) := by
  unfold BrokenOff
  simp only [bind_eq_error]
  constructor
  · rintro ⟨why, hx | ⟨a, ha, hf⟩, hno⟩
    · exact .inl ⟨why, hx, hno⟩
    · exact .inr ⟨a, ha, why, hf, hno⟩
  · rintro (⟨why, hx, hno⟩ | ⟨a, ha, why, hf, hno⟩)
    · exact ⟨why, .inl hx, hno⟩
    · exact ⟨why, .inr ⟨a, ha, hf⟩, hno⟩

theorem OnlyRefused.elim (found : Option α) (why : Refusal) :
    OnlyRefused (found.elim (.error (.refused why)) .ok) := by
  cases found with
  | none => exact refused why
  | some a => exact ok a

theorem elim_eq_ok {found : Option α} {why : Fault} {a : α} :
    (found.elim (.error why) .ok : Except Fault α) = .ok a ↔ found = some a := by
  cases found <;> simp

theorem Value.readSpelling_eq_ok [Vocabulary α] {v : Value} {a : α} :
    v.readSpelling α = .ok a ↔ ∃ s, v = .text s ∧ Vocabulary.ofSpelling? s = some a := by
  unfold readSpelling
  split
  next s =>
    rw [elim_eq_ok]
    exact ⟨fun h => ⟨s, rfl, h⟩, fun ⟨_, he, h⟩ => by cases he; exact h⟩
  next hno => exact ⟨nofun, fun ⟨s, he, _⟩ => absurd he (hno s)⟩

theorem Value.readSpelling_brokenOff [Vocabulary α] {v : Value} :
    BrokenOff (v.readSpelling α) ↔ v.text? = none := by
  cases htext : v.text? with
  | none =>
    unfold readSpelling
    split
    next => cases htext
    next => exact ⟨fun _ => rfl, fun _ => ⟨_, rfl, rfl⟩⟩
  | some s =>
    cases of_text? htext
    exact ⟨fun h => absurd h (OnlyRefused.readSpelling s).not_brokenOff,
      fun h => absurd h (Option.some_ne_none s)⟩

end BrokenOff

namespace Requirement

theorem readComparator_brokenOff {given : Option Value} :
    BrokenOff (given.mapM Comparator.read) ↔ ∃ v, given = some v ∧ v.text? = none := by
  cases given with
  | none =>
    constructor
    · rintro ⟨_, h, _⟩
      cases h
    · rintro ⟨_, h, _⟩
      cases h
  | some v =>
    have hread : BrokenOff (Comparator.read v) ↔ v.text? = none := by
      cases htext : v.text? with
      | none =>
        unfold Comparator.read
        split
        next => cases htext
        next => exact ⟨fun _ => rfl, fun _ => ⟨_, rfl, rfl⟩⟩
      | some s =>
        cases Value.of_text? htext
        refine ⟨fun h => absurd h (OnlyRefused.not_brokenOff ?_),
          fun h => absurd h (Option.some_ne_none s)⟩
        unfold Comparator.read
        dsimp only
        split
        · exact .ok _
        · exact .refused _
    simp only [Option.some.injEq, exists_eq_left', ← hread]
    change (∃ why, (Comparator.read v).map some = .error why ∧ _) ↔ _
    simp only [map_eq_error]
    rfl

variable {cfg : Settings} {fields : Table}

theorem onlyRefused_readLevel (kind : RequirementKind) (subject : String) (raw : Value) :
    OnlyRefused (readLevel cfg kind subject raw) := by
  unfold readLevel
  split
  · exact .ok _
  · unfold Scale.relationshipThreshold
    split
    · exact .ok _
    · exact .refused _
  · exact .refused _

theorem onlyRefused_readNegation (kind : RequirementKind) (subject : String) (v : Option Value)
    (c : Option Comparator) : OnlyRefused (readNegation kind subject v c) := by
  unfold readNegation
  split
  all_goals first | exact .ok _ | exact .refused _

theorem onlyRefused_suitable (kind : RequirementKind) (c : Option Comparator) :
    OnlyRefused (suitable kind c) := by
  unfold suitable
  split
  · exact .ok _
  · split
    · exact .ok _
    · exact .refused _

theorem readFields_brokenOff : BrokenOff (readFields cfg fields) ↔ IllTyped fields := by
  unfold readFields
  rw [brokenOff_bind]
  constructor
  · rintro (h | ⟨v, hv, h⟩)
    · exact absurd h (OnlyRefused.elim _ _).not_brokenOff
    rw [elim_eq_ok] at hv
    rw [brokenOff_bind, Value.readSpelling_brokenOff] at h
    obtain htext | ⟨kind, hkind, h⟩ := h
    · exact .kind hv htext
    obtain ⟨s, rfl, hspelling⟩ := Value.readSpelling_eq_ok.1 hkind
    rw [brokenOff_bind] at h
    obtain h | ⟨subject, hsubject, h⟩ := h
    · exact absurd h (OnlyRefused.elim _ _).not_brokenOff
    rw [elim_eq_ok] at hsubject
    dsimp only at h
    split at h
    · exact absurd h (OnlyRefused.refused _).not_brokenOff
    next hfaction =>
      rw [brokenOff_bind, readComparator_brokenOff] at h
      obtain ⟨v, hcomparator, htext⟩ | ⟨c, _, h⟩ := h
      · refine .comparator hv hspelling hsubject (fun he => ?_) hcomparator htext
        simpa [he] using hfaction
      · refine absurd h (OnlyRefused.not_brokenOff ?_)
        split
        · exact (onlyRefused_readLevel _ _ _).bind fun _ =>
            (onlyRefused_suitable _ _).bind fun _ => .ok _
        · exact (onlyRefused_readNegation _ _ _ _).bind fun _ =>
            (onlyRefused_suitable _ _).bind fun _ => .ok _
  · intro h
    cases h with
    | kind hv htext =>
      refine .inr ⟨_, elim_eq_ok.2 hv, ?_⟩
      rw [brokenOff_bind]
      exact .inl (Value.readSpelling_brokenOff.2 htext)
    | comparator hv hspelling hsubject hfaction hcomparator htext =>
      refine .inr ⟨_, elim_eq_ok.2 hv, ?_⟩
      rw [brokenOff_bind]
      refine .inr ⟨_, Value.readSpelling_eq_ok.2 ⟨_, rfl, hspelling⟩, ?_⟩
      rw [brokenOff_bind]
      refine .inr ⟨_, elim_eq_ok.2 hsubject, ?_⟩
      dsimp only
      rw [if_neg (fun h => by simp [hfaction h.1] at h), brokenOff_bind]
      exact .inl (readComparator_brokenOff.2 ⟨_, hcomparator, htext⟩)

end Requirement

namespace Requirement

theorem read_brokenOff {cfg : Settings} {v : Value} :
    BrokenOff (read cfg v) ↔ ∃ fields, v = .table fields ∧ IllTyped fields := by
  cases v with
  | table fields =>
    change BrokenOff (readFields cfg fields) ↔ _
    rw [readFields_brokenOff]
    exact ⟨fun h => ⟨fields, rfl, h⟩, fun ⟨_, he, h⟩ => by cases he; exact h⟩
  | _ => exact ⟨fun h => absurd h (OnlyRefused.refused _).not_brokenOff, nofun⟩

end Requirement

namespace Outcome

theorem readFields_brokenOff {fields : Table} (hfields : Atom.Texts (Assoc.keys fields))
    (id : Option Value) : BrokenOff (readFields fields id) ↔ IllTyped fields := by
  constructor
  · intro h
    cases hkind : fields.field? "kind" with
    | none =>
      unfold readFields at h
      rw [hkind] at h
      exact absurd h (OnlyRefused.refused _).not_brokenOff
    | some v =>
      refine ⟨v, hkind, ?_⟩
      cases htext : v.text? with
      | none => rfl
      | some s =>
        cases Value.of_text? htext
        exact absurd h (OnlyRefused.readFields hfields hkind id).not_brokenOff
  · rintro ⟨v, hkind, htext⟩
    unfold readFields
    rw [hkind, Option.elim_some, ok_bind, brokenOff_bind]
    exact .inl (Value.readSpelling_brokenOff.2 htext)

theorem read_brokenOff {v : Value} (hv : v.Plain) {id : Option Value} :
    BrokenOff (read v id) ↔ ∃ fields, v = .table fields ∧ IllTyped fields := by
  cases v with
  | table fields =>
    change BrokenOff (readFields fields id) ↔ _
    rw [readFields_brokenOff hv.names]
    exact ⟨fun h => ⟨fields, rfl, h⟩, fun ⟨_, he, h⟩ => by cases he; exact h⟩
  | _ => exact ⟨fun h => absurd h (OnlyRefused.refused _).not_brokenOff, nofun⟩

end Outcome

/-- Reading that notes problems breaks down just under a condition, whatever has been noted. -/
def Breaks {α : Type} (x : Noting α) (B : Prop) : Prop :=
  ∀ noted, (∃ why, x.run noted = .error why) ↔ B

namespace Breaks

variable {α β : Type} {x : Noting α} {B C : Prop}

theorem congr (hx : Breaks x B) (h : B ↔ C) : Breaks x C := fun noted => (hx noted).trans h

theorem pure (a : α) : Breaks (pure a) False := fun _ => ⟨fun ⟨_, h⟩ => (nomatch h), False.elim⟩

theorem note (p : Problem) : Breaks (Noting.note p) False :=
  fun _ => ⟨fun ⟨_, h⟩ => (nomatch h), False.elim⟩

theorem throw (why : Fault) : Breaks (throw why : Noting α) True :=
  fun _ => ⟨fun _ => trivial, fun _ => ⟨why, rfl⟩⟩

theorem bind {f : α → Noting β} (hx : Breaks x B) (hf : ∀ a, Breaks (f a) C) :
    Breaks (x >>= f) (B ∨ C) := by
  intro noted
  rw [StateT.run_bind]
  constructor
  · rintro ⟨why, h⟩
    obtain h | ⟨⟨a, noted'⟩, _, h⟩ := bind_eq_error.1 h
    · exact .inl ((hx noted).1 ⟨why, h⟩)
    · exact .inr ((hf a noted').1 ⟨why, h⟩)
  · intro h
    cases hrun : x.run noted with
    | error why => exact ⟨why, rfl⟩
    | ok r =>
      have hC : C := h.resolve_left fun hB => by
        obtain ⟨why, hwhy⟩ := (hx noted).2 hB
        cases hrun.symm.trans hwhy
      exact (hf r.1 r.2).2 hC

/-- The first part cannot break down. -/
theorem skip {f : α → Noting β} (hx : Breaks x False) (hf : ∀ a, Breaks (f a) C) :
    Breaks (x >>= f) C :=
  (hx.bind hf).congr (by simp)

theorem mapM {f : β → Noting α} {P : β → Prop} {l : List β} (hf : ∀ b ∈ l, Breaks (f b) (P b)) :
    Breaks (l.mapM f) (∃ b ∈ l, P b) := by
  induction l with
  | nil => exact (pure []).congr (by simp)
  | cons b rest ih =>
    rw [List.forall_mem_cons] at hf
    rw [List.mapM_cons]
    exact (hf.1.bind fun a => (ih hf.2).bind fun as => pure (a :: as)).congr (by simp)

theorem attempt (r : Except Fault α) (problem : Fault → Problem) :
    Breaks (Noting.attempt r problem) (BrokenOff r) := by
  unfold Noting.attempt
  cases r with
  | ok a => exact (pure (some a)).congr ⟨False.elim, fun ⟨_, h, _⟩ => (nomatch h)⟩
  | error why =>
    dsimp only
    split
    next hrefusal =>
      refine ((note _).bind fun _ => pure none).congr ?_
      simp [BrokenOff, hrefusal]
    next hrefusal => exact (throw why).congr (by simp [BrokenOff, hrefusal])

/-- What follows the reading of a list reads its items, if it is one. -/
theorem items {f : List Value → Noting β} {v : Value} {what owner : String}
    (hf : Breaks (f (v.items?.getD [])) B) : Breaks (Noting.items v what owner >>= f) B := by
  intro noted
  have hitems : ∃ noted', (Noting.items v what owner).run noted =
      .ok (v.items?.getD [], noted') := by
    cases v with
    | atom a => cases a <;> exact ⟨_, rfl⟩
    | list items => exact ⟨_, rfl⟩
    | table fields => exact ⟨_, rfl⟩
  obtain ⟨noted', hrun⟩ := hitems
  rw [StateT.run_bind, hrun]
  exact hf noted'

theorem requiredText (fields : Table) (name owner : String) (usual : Value) :
    Breaks (Noting.requiredText fields name owner usual) False := by
  unfold Noting.requiredText
  split
  · exact pure _
  · exact (note _).skip fun _ => pure _

theorem optionalText (fields : Table) (name owner : String) :
    Breaks (Noting.optionalText fields name owner) False := by
  unfold Noting.optionalText
  split
  · exact pure _
  · exact pure _
  · exact (note _).skip fun _ => pure _

theorem mark (fields : Table) (name owner : String) :
    Breaks (Noting.mark fields name owner) False := by
  unfold Noting.mark
  split
  · exact pure _
  · exact pure _
  · exact (note _).skip fun _ => pure _

theorem next (fields : Table) (owner : String) :
    Breaks (Choice.readNext fields owner) False := by
  unfold Choice.readNext
  split
  · exact (note _).skip fun _ => pure _
  · exact (requiredText _ _ _ _).skip fun _ => pure _
  · exact (requiredText _ _ _ _).skip fun _ => pure _
  · exact pure _

theorem kind (fields : Table) : Breaks (Graph.readKind fields) False := by
  unfold Graph.readKind
  split
  · exact pure _
  · exact (note _).skip fun _ => pure _

theorem branch (fields : Table) (id : String) : Breaks (Graph.readBranch fields id) False := by
  unfold Graph.readBranch
  refine (requiredText _ _ _ _).skip fun _ => ?_
  split
  · exact (note _).skip fun _ => pure _
  · exact pure _

theorem requirements (cfg : Settings) (v : Value) (owner : String) :
    Breaks (Noting.requirements cfg v owner) (v.Lists Requirement.IllTyped) := by
  unfold Noting.requirements
  refine items (((mapM fun item _ => attempt _ _).bind fun _ => pure _).congr ?_)
  simp only [Requirement.read_brokenOff, or_false]
  constructor
  · rintro ⟨_, hmem, fields, rfl, hbad⟩
    exact ⟨fields, hmem, hbad⟩
  · rintro ⟨fields, hmem, hbad⟩
    exact ⟨_, hmem, fields, rfl, hbad⟩

theorem outcomes {v : Value} (hv : v.Plain) (owner : String) :
    Breaks (Noting.outcomes v owner) (v.Lists Outcome.IllTyped) := by
  unfold Noting.outcomes
  refine items (((mapM fun item _ => attempt _ _).bind fun _ => pure _).congr ?_)
  rw [or_false]
  constructor
  · rintro ⟨⟨item, place⟩, hmem, hbad⟩
    have hitem : item ∈ v.items?.getD [] := List.fst_mem_of_mem_zipIdx hmem
    obtain ⟨fields, rfl, hill⟩ := (Outcome.read_brokenOff (hv.item _ hitem)).1 hbad
    exact ⟨fields, hitem, hill⟩
  · rintro ⟨fields, hmem, hbad⟩
    obtain ⟨place, hplace⟩ := List.mem_iff_getElem?.1 hmem
    refine ⟨(.table fields, place), List.mk_mem_zipIdx_iff_getElem?.2 hplace, ?_⟩
    exact (Outcome.read_brokenOff (hv.item _ hmem)).2 ⟨fields, rfl, hbad⟩

theorem choice (cfg : Settings) (node : String) {fields : Table}
    (h : (Value.table fields).Plain) :
    Breaks (Choice.read cfg node fields) (Choice.IllTyped fields) := by
  unfold Choice.read
  refine ((requiredText _ _ _ _).skip fun _ => (requiredText _ _ _ _).skip fun _ =>
    (next _ _).skip fun _ => (requirements _ _ _).bind fun _ =>
      (outcomes (h.field "outcomes") _).bind fun _ => pure _).congr ?_
  rw [or_false]
  constructor
  · exact fun h => h.elim .requirement .outcome
  · intro h
    cases h with
    | requirement h => exact .inl h
    | outcome h => exact .inr h

/-- That a name came before is only noted. -/
theorem named {name : α → String} {seen : List String} {problem : α → Problem}
    {more : α → Noting (List α)} (hx : Breaks x B) (hmore : ∀ a, Breaks (more a) C) :
    Breaks (do
      let a ← x
      if seen.contains (name a) then Noting.note (problem a)
      return a :: (← more a)) (B ∨ C) := by
  refine hx.bind fun a => ?_
  have hrest := (hmore a).bind fun others => pure (a :: others)
  rw [or_false] at hrest
  split
  · exact (note _).skip fun _ => hrest
  · exact hrest

theorem choices (cfg : Settings) (node : String) (seen : List String) {items : List Value}
    (h : ∀ v ∈ items, v.Plain) : Breaks (Choice.readAll cfg node seen items)
      (∃ fields, .table fields ∈ items ∧ Choice.IllTyped fields) := by
  induction items generalizing seen with
  | nil => exact (pure []).congr (by simp)
  | cons v rest ih =>
    rw [List.forall_mem_cons] at h
    cases v with
    | table fields =>
      rw [Choice.readAll]
      exact (named (choice cfg node h.1) fun c => ih (c.id :: seen) h.2).congr
        (by simp [or_and_right, exists_or])
    | atom a => exact ((note _).skip fun _ => ih seen h.2).congr (by simp)
    | list items => exact ((note _).skip fun _ => ih seen h.2).congr (by simp)

theorem node (cfg : Settings) (speaker : Option String) {v : Value} (h : v.Plain) :
    Breaks (Node.read cfg speaker v) (∃ fields, v = .table fields ∧ Node.IllTyped fields) := by
  unfold Node.read
  split
  next fields =>
    unfold Node.readFields
    refine ((requiredText _ _ _ _).skip fun _ => items ((choices _ _ _
      (h.field "choices").item).bind fun _ => (requiredText _ _ _ _).skip fun _ =>
        (optionalText _ _ _).skip fun _ => (optionalText _ _ _).skip fun _ =>
          (optionalText _ _ _).skip fun _ =>
            (outcomes (h.field "entry_outcomes") _).bind fun _ => pure _)).congr ?_
    rw [or_false]
    constructor
    · exact fun h => ⟨fields, rfl, h.elim .choice .entry⟩
    · rintro ⟨_, he, h⟩
      cases he
      cases h with
      | choice h => exact .inl h
      | entry h => exact .inr h
  next hno =>
    exact ((note _).skip fun _ => pure _).congr ⟨False.elim, fun ⟨fields, he, _⟩ => hno fields he⟩

theorem nodes (cfg : Settings) (speaker : Option String) (seen : List String) {items : List Value}
    (h : ∀ v ∈ items, v.Plain) : Breaks (Node.readAll cfg speaker seen items)
      (∃ fields, .table fields ∈ items ∧ Node.IllTyped fields) := by
  induction items generalizing seen with
  | nil => exact (pure []).congr (by simp)
  | cons v rest ih =>
    rw [List.forall_mem_cons] at h
    rw [Node.readAll]
    exact (named (node cfg speaker h.1) fun n => ih (n.id :: seen) h.2).congr
      (by simp [or_and_right, exists_or, eq_comm])

end Breaks

/-- A graph breaks the reading off just if it has an ill-typed requirement or outcome. -/
theorem Graph.read_breaks {cfg : Settings} {id : String} {fields : Table}
    (h : (Value.table fields).Plain) :
    (∃ why, read cfg id (.table fields) = .error why) ↔ IllTyped fields := by
  have hnodes (speaker : Option String) : Breaks (readNodes cfg fields id speaker)
      ((fields.field "nodes").Lists Node.IllTyped) := by
    unfold readNodes
    refine Breaks.items ?_
    have hrest := Breaks.nodes cfg speaker [] (h.field "nodes").item
    split
    · exact (Breaks.note _).skip fun _ => hrest
    · exact hrest
  have hfields : Breaks (readFields cfg id fields) (IllTyped fields) := by
    unfold readFields
    refine ((Breaks.kind _).skip fun _ => (Breaks.branch _ _).skip fun _ =>
      (Breaks.optionalText _ _ _).skip fun speaker => (hnodes speaker).bind fun _ =>
      (Breaks.requiredText _ _ _ _).skip fun _ => (Breaks.requiredText _ _ _ _).skip fun _ =>
      (Breaks.requiredText _ _ _ _).skip fun _ => (Breaks.requirements _ _ _).bind fun _ =>
      (Breaks.mark _ _ _).skip fun _ => (Breaks.mark _ _ _).skip fun _ =>
      (Breaks.mark _ _ _).skip fun _ =>
      (Breaks.outcomes (h.field "completion_outcomes") _).bind fun _ =>
      (Breaks.outcomes (h.field "failure_outcomes") _).bind fun _ => Breaks.pure _).congr ?_
    rw [or_false]
    constructor
    · rintro (h | h | h | h)
      exacts [.node h, .requirement h, .completion h, .failure h]
    · intro h
      cases h with
      | node h => exact .inl h
      | requirement h => exact .inr (.inl h)
      | completion h => exact .inr (.inr (.inl h))
      | failure h => exact .inr (.inr (.inr h))
  exact hfields []

namespace Content

variable {cfg : Settings} {content : Content}

theorem readGraphs_breaks (h : ∀ p ∈ content, p.2.Plain) :
    (∃ why, readGraphs cfg content = .error why) ↔
      ∃ id fields, (id, .table fields) ∈ content ∧ Graph.IllTyped fields := by
  induction content with
  | nil => simp [readGraphs]
  | cons p rest ih =>
    obtain ⟨id, v⟩ := p
    rw [List.forall_mem_cons] at h
    have hrest := ih h.2
    unfold readGraphs
    cases v with
    | table fields =>
      have hread : (∃ why, Graph.read cfg id (.table fields) = .error why) ↔ _ :=
        Graph.read_breaks h.1
      dsimp only
      constructor
      · rintro ⟨why, h⟩
        obtain h | ⟨⟨g, found⟩, _, h⟩ := bind_eq_error.1 h
        · exact ⟨id, fields, List.mem_cons_self, hread.1 ⟨why, h⟩⟩
        obtain h | ⟨⟨graphs, problems⟩, _, h⟩ := bind_eq_error.1 h
        · obtain ⟨id, fields, hmem, hbad⟩ := hrest.1 ⟨why, h⟩
          exact ⟨id, fields, List.mem_cons_of_mem _ hmem, hbad⟩
        · dsimp only at h
          split at h <;> cases h
      · rintro ⟨id', fields', hmem, hbad⟩
        cases hg : Graph.read cfg id (.table fields) with
        | error why => exact ⟨why, rfl⟩
        | ok r =>
          obtain he | hmem := List.mem_cons.1 hmem
          · cases he
            obtain ⟨why, hwhy⟩ := hread.2 hbad
            cases hg.symm.trans hwhy
          · obtain ⟨why, hwhy⟩ := hrest.2 ⟨id', fields', hmem, hbad⟩
            exact ⟨why, by rw [ok_bind, hwhy]; rfl⟩
    | _ =>
      dsimp only
      constructor
      · rintro ⟨why, h⟩
        obtain h | ⟨_, _, h⟩ := bind_eq_error.1 h
        · obtain ⟨id, fields, hmem, hbad⟩ := hrest.1 ⟨why, h⟩
          exact ⟨id, fields, List.mem_cons_of_mem _ hmem, hbad⟩
        · cases h
      · rintro ⟨id', fields', hmem, hbad⟩
        obtain he | hmem := List.mem_cons.1 hmem
        · cases he
        · obtain ⟨why, hwhy⟩ := hrest.2 ⟨id', fields', hmem, hbad⟩
          exact ⟨why, by rw [hwhy]; rfl⟩

theorem load_breaks (h : ∀ p ∈ content, p.2.Plain) {existing : List String} :
    (∃ why, load cfg content existing = .error (.fault why)) ↔
      ∃ id fields, (id, .table fields) ∈ content ∧ Graph.IllTyped fields := by
  have hread : (∃ why, readGraphs cfg content = .error why) ↔ _ := readGraphs_breaks h
  rw [← hread]
  unfold load
  cases readGraphs cfg content with
  | error why => simp
  | ok r =>
    dsimp only
    split <;> simp

end Content

/-- Reports are not just refused only if one of them is an ill-typed outcome. -/
theorem Engine.of_readReports_brokenOff {source : String} {place : Nat} {reports : List Report}
    (hplain : ∀ v, .data v ∈ reports → v.Plain)
    (h : BrokenOff (readReports source place reports)) :
    ∃ fields, .data (.table fields) ∈ reports ∧ Outcome.IllTyped fields := by
  induction reports generalizing place with
  | nil =>
    obtain ⟨_, h, _⟩ := h
    cases h
  | cons r rest ih =>
    have hrest (h : BrokenOff (readReports source (place + 1) rest)) :
        ∃ fields, .data (.table fields) ∈ r :: rest ∧ Outcome.IllTyped fields := by
      obtain ⟨fields, hmem, hbad⟩ := ih (fun v hv => hplain v (List.mem_cons_of_mem _ hv)) h
      exact ⟨fields, List.mem_cons_of_mem _ hmem, hbad⟩
    cases r with
    | ready o =>
      obtain ⟨why, h, hno⟩ := h
      exact hrest ⟨why, map_eq_error.1 h, hno⟩
    | data v =>
      rw [readReports, brokenOff_bind, Outcome.read_brokenOff (hplain v List.mem_cons_self)] at h
      obtain ⟨fields, rfl, hbad⟩ | ⟨o, _, h⟩ := h
      · exact ⟨fields, List.mem_cons_self, hbad⟩
      · rw [brokenOff_bind] at h
        obtain h | ⟨_, _, _, h, _⟩ := h
        · exact hrest h
        · cases h

/-- Outcomes that are reported to a story in which nothing is open are applied or turned down, if
they can be read at all. -/
theorem Engine.Sturdy.answers_external {cfg : Settings} {e : Engine} (h : e.Sturdy)
    (hidle : e.session.pending = none) (reports : List Report) (source : String) :
    (∃ entry, ((Call.external reports source).ask cfg e).1.Accepts entry) ∨
      ((Call.external reports source).ask cfg e).1.Declines ∨
      BrokenOff (readReports source 0 reports) := by
  rcases applyExternal_cases cfg reports source e with
    ⟨message, hanswer⟩ | ⟨why, hread, hno, _⟩ | ⟨outcomes, hread, happlied⟩
  · have hask : (Call.external reports source).ask cfg e = (.applied (.ok none), _) :=
      Call.answer_ok hanswer .applied
    exact .inr (.inl (by rw [hask]; rfl))
  · exact .inr (.inr ⟨why, hread, hno⟩)
  · have hplays : Plays cfg (Call.external reports source).Reports
        (Step.applyAsEntry cfg {} outcomes .external none none none (some source)) e.session _ _ :=
      Step.plays_applyAsEntry h.consistent.agrees h.consistent.sound
        (fun o ho => ⟨reports, source, outcomes, rfl, hread, ho⟩) (some source)
    have hboth := Ends.and happlied hplays
    unfold Ends at hboth
    split at hboth
    next entry t _ =>
      obtain ⟨⟨messages, hanswer⟩, _⟩ := hboth
      have hask : (Call.external reports source).ask cfg e = (.applied (.ok (some entry)), _) :=
        Call.answer_ok hanswer .applied
      exact .inl ⟨entry, by rw [hask]; rfl⟩
    next why t _ =>
      obtain ⟨-, acts, -, -, hopen, -⟩ := hboth
      rw [Session.inEntry, hidle] at hopen
      cases hopen

end Questline
