import Mathlib.Data.List.Nodup
import Questline.Graph.Reading
import Questline.Proofs.Authoring

/-! What a graph has to do with the form in which it was authored.  Reading goes on with a stand-in
for everything that is wrong, so it has to be shown that nothing is replaced or dropped without a
note: where nothing has been noted, the graph transcribes what was authored, item by item. -/

namespace Questline

/-- The items of an authored list; one that is left out has none. -/
def Value.items? : Value → Option (List Value)
  | .null => some []
  | .list items => some items
  | _ => none

/-- Every item that is authored has been read as a requirement, in the same order. -/
def Requirement.Transcribe (cfg : Settings) (v : Value) (rs : List Requirement) : Prop :=
  ∃ items, v.items? = some items ∧
    List.Forall₂ (fun item r => Requirement.read cfg item = .ok r) items rs

/-- Every item that is authored has been read as an outcome, in the same order, and is named by its
owner and its place. -/
def Outcome.Transcribe (v : Value) (owner : String) (os : List Outcome) : Prop :=
  ∃ items, v.items? = some items ∧
    List.Forall₂ (fun (item, place) o =>
      o.id = .text s!"{owner}:{place}" ∧ Outcome.read item (some o.id) = .ok o) items.zipIdx os

/-- Where a choice leads as it is authored: there is one way on, or none. -/
inductive Next.Transcribes (fields : Table) : Next → Prop
  | finish : fields.field? "next_node" = none → fields.field? "next_graph" = none →
      Transcribes fields .finish
  | node {target : String} : fields.field? "next_node" = some (.text target) →
      fields.field? "next_graph" = none → Transcribes fields (.node target)
  | graph {target : String} : fields.field? "next_node" = none →
      fields.field? "next_graph" = some (.text target) → Transcribes fields (.graph target)

structure Choice.Transcribes (cfg : Settings) (node : String) (fields : Table) (c : Choice) :
    Prop where
  id : fields.field? "id" = some (.text c.id)
  text : fields.field? "text" = some (.text c.text)
  next : c.next.Transcribes fields
  requirements : Requirement.Transcribe cfg (fields.field "requirements") c.requirements
  outcomes : Outcome.Transcribe (fields.field "outcomes") s!"{node}/{c.id}" c.outcomes

structure Node.Transcribes (cfg : Settings) (usualSpeaker : Option String) (fields : Table)
    (n : Node) : Prop where
  id : fields.field? "id" = some (.text n.id)
  text : fields.field? "text" = some (.text n.text)
  choices : ∃ items, (fields.field "choices").items? = some items ∧
    List.Forall₂ (fun v c => ∃ fields, v = .table fields ∧ c.Transcribes cfg n.id fields)
      items n.choices
  distinct : (n.choices.map (·.id)).Nodup
  title : fields.field "title" = .ofText? n.title
  location : fields.field "location" = .ofText? n.location
  speaker : ∃ own, fields.field "speaker" = .ofText? own ∧
    n.speaker = (own.filter (· ≠ "")).or usualSpeaker
  entryOutcomes : Outcome.Transcribe (fields.field "entry_outcomes") n.id n.entryOutcomes

/-- A graph says what is authored under its name: its nodes, choices, requirements and outcomes are
those that are authored, in the same order, and so are all its other fields. -/
structure Graph.Transcribes (cfg : Settings) (name : String) (fields : Table) (g : Graph) :
    Prop where
  id : g.id = name
  kind : (fields.field? "kind").getD (.text "quest") = .text g.kind.word
  branch : (fields.field? "branch").getD (.text "main") = .text g.branch
  branchKnown : g.branch = "" ∨ g.branch ∈ branches
  speaker : fields.field "speaker" = .ofText? g.speaker
  nodes : ∃ items, (fields.field "nodes").items? = some items ∧ items ≠ [] ∧
    List.Forall₂ (fun v n => ∃ fields, v = .table fields ∧ n.Transcribes cfg g.speaker fields)
      items g.nodes
  distinct : (g.nodes.map (·.id)).Nodup
  title : fields.field? "title" = some (.text g.title)
  description : (fields.field? "description").getD (.text "") = .text g.description
  start : fields.field? "start" = some (.text g.start)
  requirements : Requirement.Transcribe cfg (fields.field "requirements") g.requirements
  main : (fields.field? "main").getD (.bool false) = .bool g.main
  locked : (fields.field? "locked").getD (.bool false) = .bool g.locked
  repeatable : (fields.field? "repeatable").getD (.bool false) = .bool g.repeatable
  completion : Outcome.Transcribe (fields.field "completion_outcomes") s!"{name}.completion"
    g.completion
  failure : Outcome.Transcribe (fields.field "failure_outcomes") s!"{name}.failure" g.failure

theorem Requirement.Transcribe.regular {cfg : Settings} {v : Value} {rs : List Requirement}
    (h : Transcribe cfg v rs) : ∀ r ∈ rs, r.Regular := by
  intro r hr
  obtain ⟨items, _, hread⟩ := h
  obtain ⟨item, _, hitem⟩ := exists_of_forall₂ hread hr
  exact regular_of_read hitem

theorem Outcome.Transcribe.read {v : Value} {owner : String} {os : List Outcome}
    (h : Transcribe v owner os) : ∀ o ∈ os, ∃ (item : Value) (owner : String) (place : Nat),
      o.id = .text s!"{owner}:{place}" ∧ Outcome.read item (some o.id) = .ok o := by
  intro o ho
  obtain ⟨items, _, hread⟩ := h
  obtain ⟨item, _, hid, hitem⟩ := exists_of_forall₂ hread ho
  exact ⟨item.1, owner, item.2, hid, hitem⟩

/-- Reading that takes no note back, and that yields just what has a property where it notes
nothing. -/
structure Reads {α : Type} (x : Noting α) (P : α → Prop) : Prop where
  notes : ∀ noted a noted', x.run noted = .ok (a, noted') → noted <+: noted'
  clean : ∀ noted a, x.run noted = .ok (a, noted) ↔ P a

namespace Reads

variable {α β : Type} {x : Noting α} {P : α → Prop}

theorem congr {P' : α → Prop} (hx : Reads x P) (h : ∀ a, P a ↔ P' a) : Reads x P' :=
  ⟨hx.notes, fun noted a => (hx.clean noted a).trans (h a)⟩

theorem pure (a : α) : Reads (pure a) (· = a) := by
  refine ⟨fun noted b noted' h => ?_, fun noted b => ⟨fun h => ?_, fun h => ?_⟩⟩
  · cases h
    exact List.prefix_rfl
  · cases h
    rfl
  · rw [h]
    rfl

theorem throw (why : Fault) : Reads (throw why : Noting α) fun _ => False :=
  ⟨fun _ _ _ => nofun, fun _ _ => ⟨nofun, False.elim⟩⟩

theorem note (p : Problem) : Reads (Noting.note p) fun _ => False := by
  refine ⟨fun noted _ noted' h => ?_, fun noted _ => ⟨fun h => ?_, False.elim⟩⟩
  · cases h
    exact List.prefix_append _ _
  · have hsame : (Except.ok ((), noted ++ [p]) : Except Fault (Unit × List Problem)) =
        .ok ((), noted) := h
    simp at hsame

/-- What is read in two parts is clean just if both parts are. -/
theorem bind {f : α → Noting β} {Q : α → β → Prop} (hx : Reads x P)
    (hf : ∀ a, Reads (f a) (Q a)) : Reads (x >>= f) fun b => ∃ a, P a ∧ Q a b := by
  refine ⟨fun noted b noted' h => ?_, fun noted b => ?_⟩
  · rw [StateT.run_bind] at h
    obtain ⟨⟨a, between⟩, ha, hb⟩ := bind_eq_ok.1 h
    exact (hx.notes noted a between ha).trans ((hf a).notes between b noted' hb)
  · rw [StateT.run_bind, bind_eq_ok]
    constructor
    · rintro ⟨⟨a, between⟩, ha, hb⟩
      have hsame : noted = between := (hx.notes noted a between ha).eq_of_length_le
        ((hf a).notes between b noted hb).length_le
      subst hsame
      exact ⟨a, (hx.clean noted a).1 ha, ((hf a).clean noted b).1 hb⟩
    · rintro ⟨a, ha, hb⟩
      exact ⟨(a, noted), (hx.clean noted a).2 ha, ((hf a).clean noted b).2 hb⟩

/-- What follows a note is not clean. -/
theorem noting {p : Problem} (hx : Reads x P) : Reads (do Noting.note p; x) fun _ => False :=
  ((note p).bind fun _ => hx).congr fun _ => by simp

theorem ite {c : Prop} [Decidable c] {y : Noting α} {Q : α → Prop} (hx : c → Reads x P)
    (hy : ¬ c → Reads y Q) :
    Reads (if c then x else y) fun a => (c ∧ P a) ∨ (¬ c ∧ Q a) := by
  by_cases h : c
  · rw [if_pos h]
    exact (hx h).congr fun a => by simp [h]
  · rw [if_neg h]
    exact (hy h).congr fun a => by simp [h]

theorem mapM {f : β → Noting α} {R : β → α → Prop} (hf : ∀ b, Reads (f b) (R b)) (l : List β) :
    Reads (l.mapM f) (List.Forall₂ R l) := by
  induction l with
  | nil => exact (pure []).congr fun as => by simp [List.forall₂_nil_left_iff]
  | cons b rest ih =>
    rw [List.mapM_cons]
    refine ((hf b).bind fun a => ih.bind fun as => pure (a :: as)).congr fun as => ?_
    rw [List.forall₂_cons_left_iff]
    constructor
    · rintro ⟨a, ha, others, hothers, rfl⟩
      exact ⟨a, others, ha, hothers, rfl⟩
    · rintro ⟨a, others, ha, hothers, rfl⟩
      exact ⟨a, ha, others, hothers, rfl⟩

theorem attempt (r : Except Fault α) (problem : Fault → Problem) :
    Reads (Noting.attempt r problem) fun a? => ∃ a, r = .ok a ∧ a? = some a := by
  unfold Noting.attempt
  cases r with
  | ok a => exact (pure (some a)).congr fun a? => by simp
  | error why =>
    dsimp only
    split
    · exact (noting (pure none)).congr fun _ => by simp
    · exact (throw why).congr fun _ => by simp

theorem items (v : Value) (what owner : String) :
    Reads (Noting.items v what owner) fun items => v.items? = some items := by
  unfold Noting.items Value.items?
  split
  · exact (pure []).congr fun _ => by simp [eq_comm]
  next items => exact (pure items).congr fun _ => by simp [eq_comm]
  · exact (noting (pure [])).congr fun _ => by simp

section Fields

variable (fields : Table) (name owner : String)

theorem requiredText (usual : Value) :
    Reads (Noting.requiredText fields name owner usual) fun s =>
      (fields.field? name).getD usual = .text s := by
  unfold Noting.requiredText
  split
  next s hs => exact (pure s).congr fun _ => by simp [hs, eq_comm]
  next hno => exact (noting (pure "")).congr fun s => ⟨False.elim, hno s⟩

theorem optionalText :
    Reads (Noting.optionalText fields name owner) fun s? => fields.field name = .ofText? s? := by
  unfold Noting.optionalText
  split
  next hnull =>
    exact (pure none).congr fun s? => by cases s? <;> simp [hnull, Value.ofText?]
  next s hs =>
    exact (pure (some s)).congr fun s? => by cases s? <;> simp [hs, Value.ofText?, eq_comm]
  next hnull hno =>
    refine (noting (pure none)).congr fun s? => ⟨False.elim, ?_⟩
    cases s? with
    | none => exact hnull
    | some s => exact hno s

theorem mark :
    Reads (Noting.mark fields name owner) fun b =>
      (fields.field? name).getD (.bool false) = .bool b := by
  unfold Noting.mark
  cases hfield : fields.field? name with
  | none => exact (pure false).congr fun _ => by simp [eq_comm]
  | some v =>
    split
    next he => cases he
    next b he =>
      cases he
      exact (pure b).congr fun _ => by simp [eq_comm]
    next hno he =>
      cases he
      exact (noting (pure false)).congr fun b => ⟨False.elim, hno b⟩

end Fields

/-- Items that have all been read are kept, each in its place. -/
theorem forall₂_some {R : β → α → Prop} {l : List β} {as : List α} :
    (∃ as?, List.Forall₂ (fun b a? => ∃ a, R b a ∧ a? = some a) l as? ∧ as = as?.filterMap id) ↔
      List.Forall₂ R l as := by
  induction l generalizing as with
  | nil => simp [List.forall₂_nil_left_iff]
  | cons b rest ih =>
    simp only [List.forall₂_cons_left_iff]
    constructor
    · rintro ⟨_, ⟨_, as?, ⟨a, ha, rfl⟩, hrest, rfl⟩, rfl⟩
      exact ⟨a, as?.filterMap id, ha, ih.1 ⟨as?, hrest, rfl⟩, by simp⟩
    · rintro ⟨a, others, ha, hrest, rfl⟩
      obtain ⟨as?, has?, rfl⟩ := ih.2 hrest
      exact ⟨some a :: as?, ⟨some a, as?, ⟨a, ha, rfl⟩, has?, rfl⟩, by simp⟩

theorem requirements (cfg : Settings) (v : Value) (owner : String) :
    Reads (Noting.requirements cfg v owner) (Requirement.Transcribe cfg v) := by
  unfold Noting.requirements
  refine ((items v _ _).bind fun items => (mapM (fun item => attempt _ _) items).bind
    fun read => pure (read.filterMap id)).congr fun rs => ?_
  exact exists_congr fun items => and_congr_right fun _ => forall₂_some

theorem outcomes (v : Value) (owner : String) :
    Reads (Noting.outcomes v owner) (Outcome.Transcribe v owner) := by
  unfold Noting.outcomes
  refine ((items v _ _).bind fun items => (mapM (fun item => attempt _ _) items.zipIdx).bind
    fun read => pure (read.filterMap id)).congr fun os => ?_
  refine exists_congr fun items => and_congr_right fun _ => forall₂_some.trans ?_
  refine iff_of_eq (congrFun (congrFun (congrArg _ ?_) _) _)
  funext ⟨item, place⟩ o
  refine propext ⟨fun h => ?_, fun h => ?_⟩
  · have hid : o.id = Noting.outcomeName owner place := Outcome.id_of_read h
    exact ⟨hid, hid ▸ h⟩
  · rw [← h.2, h.1]
    rfl

theorem next (fields : Table) (owner : String) :
    Reads (Choice.readNext fields owner) (Next.Transcribes fields) := by
  unfold Choice.readNext
  split
  next hnode hgraph =>
    refine (noting (pure Next.finish)).congr fun next => ⟨False.elim, fun h => ?_⟩
    cases h <;> simp_all
  next v hnode hgraph =>
    refine ((requiredText fields "next_node" owner .null).bind fun target =>
      pure (Next.node target)).congr fun next => ?_
    rw [hnode, Option.getD_some]
    constructor
    · rintro ⟨target, rfl, rfl⟩
      exact .node hnode hgraph
    · intro h
      cases h <;> simp_all
  next v hnode hgraph =>
    refine ((requiredText fields "next_graph" owner .null).bind fun target =>
      pure (Next.graph target)).congr fun next => ?_
    rw [hgraph, Option.getD_some]
    constructor
    · rintro ⟨target, rfl, rfl⟩
      exact .graph hnode hgraph
    · intro h
      cases h <;> simp_all
  next hnode hgraph =>
    refine (pure Next.finish).congr fun next =>
      ⟨fun h => h ▸ Next.Transcribes.finish hnode hgraph, fun h => ?_⟩
    cases h <;> simp_all

/-- A field that has to be there. -/
theorem getD_null {v? : Option Value} {s : String} :
    v?.getD .null = .text s ↔ v? = some (.text s) := by
  cases v? <;> simp

theorem choice (cfg : Settings) (node : String) (fields : Table) :
    Reads (Choice.read cfg node fields) (Choice.Transcribes cfg node fields) := by
  unfold Choice.read
  refine ((requiredText _ _ _ _).bind fun _ => (requiredText _ _ _ _).bind fun _ =>
    (next _ _).bind fun _ => (requirements _ _ _).bind fun _ => (outcomes _ _).bind fun _ =>
      pure _).congr fun c => ?_
  simp only [getD_null]
  constructor
  · rintro ⟨id, hid, text, htext, next, hnext, requirements, hrequirements, outcomes, houtcomes,
      rfl⟩
    exact ⟨hid, htext, hnext, hrequirements, houtcomes⟩
  · intro h
    exact ⟨_, h.id, _, h.text, _, h.next, _, h.requirements, _, h.outcomes, rfl⟩

section Named

variable {name : α → String}

/-- The items have names of their own, none of which has been seen before. -/
def Fresh (name : α → String) (seen : List String) (as : List α) : Prop :=
  (as.map name).Nodup ∧ ∀ a ∈ as, name a ∉ seen

theorem fresh_nil {seen : List String} : Fresh name seen [] := ⟨.nil, nofun⟩

theorem fresh_cons {seen : List String} {a : α} {as : List α} :
    Fresh name seen (a :: as) ↔ name a ∉ seen ∧ Fresh name (name a :: seen) as := by
  have hothers : (∀ b ∈ as, name b ∉ name a :: seen) ↔
      name a ∉ as.map name ∧ ∀ b ∈ as, name b ∉ seen := by
    simp only [List.mem_cons, not_or, forall_and, List.mem_map, not_exists, not_and]
  unfold Fresh
  rw [List.map_cons, List.nodup_cons, List.forall_mem_cons, hothers]
  tauto

theorem fresh_iff {as : List α} : Fresh name [] as ↔ (as.map name).Nodup := by
  simp [Fresh]

theorem forall₂_fresh_cons {R : β → α → Prop} {seen : List String} {b : β} {rest : List β}
    {as : List α} :
    (∃ a, R b a ∧ name a ∉ seen ∧ ∃ others,
      (List.Forall₂ R rest others ∧ Fresh name (name a :: seen) others) ∧ as = a :: others) ↔
      List.Forall₂ R (b :: rest) as ∧ Fresh name seen as := by
  rw [List.forall₂_cons_left_iff]
  constructor
  · rintro ⟨a, ha, hnew, others, ⟨hothers, hfresh⟩, rfl⟩
    exact ⟨⟨a, others, ha, hothers, rfl⟩, fresh_cons.2 ⟨hnew, hfresh⟩⟩
  · rintro ⟨⟨a, others, ha, hothers, rfl⟩, hfresh⟩
    obtain ⟨hnew, hfresh⟩ := fresh_cons.1 hfresh
    exact ⟨a, ha, hnew, others, ⟨hothers, hfresh⟩, rfl⟩

/-- Where a name that came before is noted, a clean reading has found a new one. -/
theorem named {seen : List String} {problem : α → Problem} {more : α → Noting (List α)}
    {Q : α → List α → Prop} (hx : Reads x P) (hmore : ∀ a, Reads (more a) (Q a)) :
    Reads (do
      let a ← x
      if seen.contains (name a) then Noting.note (problem a)
      return a :: (← more a)) fun as =>
        ∃ a, P a ∧ name a ∉ seen ∧ ∃ others, Q a others ∧ as = a :: others := by
  refine hx.bind fun a => ?_
  have hrest := (hmore a).bind fun others => pure (a :: others)
  refine (ite (fun _ => hrest.noting) fun _ => hrest).congr fun as => ?_
  simp

end Named

theorem choices (cfg : Settings) (node : String) (seen : List String) (items : List Value) :
    Reads (Choice.readAll cfg node seen items) fun cs =>
      List.Forall₂ (fun v c => ∃ fields, v = .table fields ∧ c.Transcribes cfg node fields)
        items cs ∧ Fresh (·.id) seen cs := by
  induction items generalizing seen with
  | nil =>
    refine (pure []).congr fun cs => ?_
    rw [List.forall₂_nil_left_iff]
    exact ⟨fun h => ⟨h, h ▸ fresh_nil⟩, And.left⟩
  | cons v rest ih =>
    cases v with
    | table fields =>
      rw [Choice.readAll]
      have hchoice := (choice cfg node fields).congr fun c =>
        (show c.Transcribes cfg node fields ↔ ∃ given, Value.table fields = .table given ∧
          c.Transcribes cfg node given by simp)
      refine (named hchoice fun c => ih (c.id :: seen)).congr fun cs => ?_
      rw [← forall₂_fresh_cons]
    | atom a => exact (noting (ih seen)).congr fun cs => by simp [List.forall₂_cons_left_iff]
    | list items => exact (noting (ih seen)).congr fun cs => by simp [List.forall₂_cons_left_iff]

/-- A node that names no speaker has that of its graph. -/
theorem ownSpeaker (own usual : Option String) :
    (match own with
      | some "" | none => usual
      | some s => some s) = (own.filter (· ≠ "")).or usual := by
  split <;> simp_all [Option.filter]

theorem node (cfg : Settings) (speaker : Option String) (v : Value) :
    Reads (Node.read cfg speaker v) fun n =>
      ∃ fields, v = .table fields ∧ n.Transcribes cfg speaker fields := by
  unfold Node.read
  split
  next fields =>
    unfold Node.readFields
    refine ((requiredText _ _ _ _).bind fun _ => (items _ _ _).bind fun _ =>
      (choices _ _ _ _).bind fun _ => (requiredText _ _ _ _).bind fun _ =>
        (optionalText _ _ _).bind fun _ => (optionalText _ _ _).bind fun _ =>
          (optionalText _ _ _).bind fun _ => (outcomes _ _).bind fun _ => pure _).congr fun n => ?_
    simp only [getD_null, fresh_iff]
    constructor
    · rintro ⟨id, hid, items, hitems, choices, ⟨hchoices, hdistinct⟩, text, htext, title, htitle,
        location, hlocation, own, hown, entryOutcomes, hentry, rfl⟩
      exact ⟨fields, rfl, hid, htext, ⟨items, hitems, hchoices⟩, hdistinct, htitle, hlocation,
        ⟨own, hown, ownSpeaker own speaker⟩, hentry⟩
    · rintro ⟨_, he, h⟩
      cases he
      obtain ⟨items, hitems, hchoices⟩ := h.choices
      obtain ⟨own, hown, hspeaker⟩ := h.speaker
      have hsame := hspeaker.trans (ownSpeaker own speaker).symm
      exact ⟨_, h.id, items, hitems, _, ⟨hchoices, h.distinct⟩, _, h.text, _, h.title, _,
        h.location, own, hown, _, h.entryOutcomes,
        congrArg (fun speaker => { n with speaker }) hsame⟩
  next hno =>
    exact (noting (pure _)).congr fun n => ⟨False.elim, fun ⟨fields, he, _⟩ => hno fields he⟩

theorem nodes (cfg : Settings) (speaker : Option String) (seen : List String)
    (items : List Value) :
    Reads (Node.readAll cfg speaker seen items) fun ns =>
      List.Forall₂ (fun v n => ∃ fields, v = .table fields ∧ n.Transcribes cfg speaker fields)
        items ns ∧ Fresh (·.id) seen ns := by
  induction items generalizing seen with
  | nil =>
    refine (pure []).congr fun ns => ?_
    rw [List.forall₂_nil_left_iff]
    exact ⟨fun h => ⟨h, h ▸ fresh_nil⟩, And.left⟩
  | cons v rest ih =>
    rw [Node.readAll]
    refine (named (node cfg speaker v) fun n => ih (n.id :: seen)).congr fun ns => ?_
    rw [← forall₂_fresh_cons]

theorem graphNodes (cfg : Settings) (fields : Table) (id : String) (speaker : Option String) :
    Reads (Graph.readNodes cfg fields id speaker) fun ns =>
      ∃ items, (fields.field "nodes").items? = some items ∧ items ≠ [] ∧
        List.Forall₂ (fun v n => ∃ fields, v = .table fields ∧ n.Transcribes cfg speaker fields)
          items ns ∧ (ns.map (·.id)).Nodup := by
  unfold Graph.readNodes
  refine (items _ _ _).bind fun items => ?_
  have hrest := nodes cfg speaker [] items
  refine (ite (fun _ => hrest.noting) fun _ => hrest).congr fun ns => ?_
  simp [fresh_iff]

theorem readWord_kind {v : Value} {kind : GraphKind} :
    v.readWord GraphKind = .ok kind ↔ v = .text kind.word := by
  constructor
  · intro h
    unfold Value.readWord at h
    split at h
    next kind' hkind =>
      cases h
      obtain ⟨s, hs, hword⟩ := Option.bind_eq_some_iff.1 hkind
      have hsame : kind.word = s := by simpa using List.find?_some hword
      subst hsame
      exact Value.of_text? hs
    next => cases h
  · rintro rfl
    have hword : (Vocabulary.ofWord? kind.word : Option GraphKind) = some kind := by
      cases kind <;> decide +kernel
    simp only [Value.readWord, Value.text?, Option.bind_some, hword]

theorem kind (fields : Table) :
    Reads (Graph.readKind fields) fun kind =>
      (fields.field? "kind").getD (.text "quest") = .text kind.word := by
  unfold Graph.readKind
  simp only [← readWord_kind]
  split
  next kind hkind => exact (pure kind).congr fun _ => by simp [hkind, eq_comm]
  next why hwhy => exact (noting (pure _)).congr fun _ => by simp [hwhy]

theorem branch (fields : Table) (id : String) :
    Reads (Graph.readBranch fields id) fun branch =>
      (fields.field? "branch").getD (.text "main") = .text branch ∧
        (branch = "" ∨ branch ∈ Graph.branches) := by
  unfold Graph.readBranch
  refine ((requiredText _ _ _ _).bind fun branch => ite (fun _ => (pure branch).noting)
    fun _ => pure branch).congr fun branch => ?_
  constructor
  · rintro ⟨branch, hbranch, ⟨_, h⟩ | ⟨hknown, rfl⟩⟩
    · exact h.elim
    · exact ⟨hbranch, by simpa [or_iff_not_imp_left] using hknown⟩
  · rintro ⟨hbranch, hknown⟩
    exact ⟨branch, hbranch, .inr ⟨by simpa [or_iff_not_imp_left] using hknown, rfl⟩⟩

end Reads

namespace Graph

/-- Nodes with names of their own are all kept. -/
theorem distinctNodes_of_nodup {nodes : List Node} (h : (nodes.map (·.id)).Nodup) :
    distinctNodes nodes = nodes := by
  have hput : ∀ (items : List Node) (m : Assoc String Node),
      (Assoc.keys m ++ items.map (·.id)).Nodup →
        (items.map fun n => (n.id, n)).foldl (fun m (k, a) => Assoc.put m k a) m =
          m ++ items.map fun n => (n.id, n) := by
    intro items
    induction items with
    | nil => exact fun m _ => by simp
    | cons n rest ih =>
      intro m hm
      have hfree : n.id ∉ Assoc.keys m := fun hmem =>
        (List.nodup_append.1 hm).2.2 _ hmem _ List.mem_cons_self rfl
      rw [List.map_cons, List.foldl_cons]
      dsimp only
      rw [Assoc.put_of_notMem n (Assoc.exact _) hfree, ih _ (by simpa [Assoc.keys] using hm)]
      simp
  unfold distinctNodes Assoc.ofList
  rw [hput nodes [] (by simpa using h)]
  simp [Function.comp_def]

/-- A graph is read without problems just if it transcribes what is authored. -/
theorem read_eq_ok {cfg : Settings} {id : String} {v : Value} {g : Graph} :
    read cfg id v = .ok (g, []) ↔ ∃ fields, v = .table fields ∧ g.Transcribes cfg id fields := by
  have hreads (fields : Table) : Reads (readFields cfg id fields) (Transcribes cfg id fields) := by
    unfold readFields
    refine ((Reads.kind _).bind fun _ => (Reads.branch _ _).bind fun _ =>
      (Reads.optionalText _ _ _).bind fun _ => (Reads.graphNodes _ _ _ _).bind fun _ =>
      (Reads.requiredText _ _ _ _).bind fun _ => (Reads.requiredText _ _ _ _).bind fun _ =>
      (Reads.requiredText _ _ _ _).bind fun _ => (Reads.requirements _ _ _).bind fun _ =>
      (Reads.mark _ _ _).bind fun _ => (Reads.mark _ _ _).bind fun _ =>
      (Reads.mark _ _ _).bind fun _ => (Reads.outcomes _ _).bind fun _ =>
      (Reads.outcomes _ _).bind fun _ => Reads.pure _).congr fun g => ?_
    simp only [Reads.getD_null]
    constructor
    · rintro ⟨kind, hkind, branch, ⟨hbranch, hknown⟩, speaker, hspeaker, nodes,
        ⟨items, hitems, hsome, hnodes, hdistinct⟩, title, htitle, description, hdescription,
        start, hstart, requirements, hrequirements, main, hmain, locked, hlocked, repeatable,
        hrepeatable, completion, hcompletion, failure, hfailure, rfl⟩
      rw [distinctNodes_of_nodup hdistinct]
      exact ⟨rfl, hkind, hbranch, hknown, hspeaker, ⟨items, hitems, hsome, hnodes⟩, hdistinct,
        htitle, hdescription, hstart, hrequirements, hmain, hlocked, hrepeatable, hcompletion,
        hfailure⟩
    · intro h
      obtain ⟨items, hitems, hsome, hnodes⟩ := h.nodes
      refine ⟨_, h.kind, _, ⟨h.branch, h.branchKnown⟩, _, h.speaker, _,
        ⟨items, hitems, hsome, hnodes, h.distinct⟩, _, h.title, _, h.description, _, h.start, _,
        h.requirements, _, h.main, _, h.locked, _, h.repeatable, _, h.completion, _, h.failure, ?_⟩
      rw [distinctNodes_of_nodup h.distinct, ← h.id]
  unfold read
  rw [bind_eq_ok]
  cases v with
  | table fields =>
    constructor
    · rintro ⟨_, he, h⟩
      cases he
      exact ⟨fields, rfl, ((hreads fields).clean [] g).1 h⟩
    · rintro ⟨_, he, h⟩
      cases he
      exact ⟨fields, rfl, ((hreads fields).clean [] g).2 h⟩
  | atom a => exact ⟨nofun, nofun⟩
  | list items => exact ⟨nofun, nofun⟩

section Transcribes

variable {cfg : Settings} {id : String} {fields : Table} {g : Graph}

theorem Transcribes.node (h : g.Transcribes cfg id fields) {n : Node} (hn : n ∈ g.nodes) :
    ∃ fields, n.Transcribes cfg g.speaker fields := by
  obtain ⟨items, _, _, hnodes⟩ := h.nodes
  obtain ⟨_, _, fields, _, hread⟩ := exists_of_forall₂ hnodes hn
  exact ⟨fields, hread⟩

theorem Transcribes.choice (h : g.Transcribes cfg id fields) {n : Node} (hn : n ∈ g.nodes)
    {c : Choice} (hc : c ∈ n.choices) : ∃ fields, c.Transcribes cfg n.id fields := by
  obtain ⟨_, hnode⟩ := h.node hn
  obtain ⟨items, _, hchoices⟩ := hnode.choices
  obtain ⟨_, _, fields, _, hread⟩ := exists_of_forall₂ hchoices hc
  exact ⟨fields, hread⟩

/-- All outcomes have been read from something, and are named by their places. -/
theorem Transcribes.read_outcome (h : g.Transcribes cfg id fields) :
    ∀ o ∈ g.allOutcomes, ∃ (item : Value) (owner : String) (place : Nat),
      o.id = .text s!"{owner}:{place}" ∧ Outcome.read item (some o.id) = .ok o := by
  intro o ho
  simp only [allOutcomes, List.mem_append, List.mem_flatMap] at ho
  rcases ho with (ho | ho) | ⟨n, hn, ho | ⟨c, hc, ho⟩⟩
  · exact h.completion.read o ho
  · exact h.failure.read o ho
  · obtain ⟨_, hnode⟩ := h.node hn
    exact hnode.entryOutcomes.read o ho
  · obtain ⟨_, hchoice⟩ := h.choice hn hc
    exact hchoice.outcomes.read o ho

theorem Transcribes.outcome (h : g.Transcribes cfg id fields) :
    ∀ o ∈ g.allOutcomes, o.Regular := by
  intro o ho
  obtain ⟨item, owner, place, hid, hread⟩ := h.read_outcome o ho
  exact Outcome.regular_of_read (hid ▸ hread)

theorem Transcribes.requirement (h : g.Transcribes cfg id fields) :
    ∀ r ∈ g.allRequirements, r.Regular := by
  intro r hr
  simp only [allRequirements, List.mem_append, List.mem_flatMap] at hr
  rcases hr with hr | ⟨n, hn, c, hc, hr⟩
  · exact h.requirements.regular r hr
  · obtain ⟨_, hchoice⟩ := h.choice hn hc
    exact hchoice.requirements.regular r hr

end Transcribes

end Graph

end Questline
