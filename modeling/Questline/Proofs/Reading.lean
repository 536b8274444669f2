import Questline.Graph.Content
import Questline.Proofs.Registration
import Questline.Proofs.Transcribing

/-! Reading content.  It is accepted just if every graph transcribes what is authored under its
name and all references lead somewhere; the graphs of accepted content are well made. -/

namespace Questline

/-- A graph whose outcomes are regular, whose requirements are formed, and whose choices can be told
apart. -/
structure Graph.Regular (g : Graph) : Prop where
  outcome : ∀ o ∈ g.allOutcomes, o.Regular
  requirement : ∀ r ∈ g.allRequirements, r.Formed
  distinct : ∀ n ∈ g.nodes, (n.choices.map (·.id)).Nodup

namespace Graph

theorem Transcribes.graph_regular {cfg : Settings} {id : String} {fields : Table} {g : Graph}
    (h : g.Transcribes cfg id fields) : g.Regular := by
  refine ⟨h.outcome, fun r hr => (h.requirement r hr).toFormed, fun n hn => ?_⟩
  obtain ⟨_, hnode⟩ := h.node hn
  exact hnode.distinct

theorem Regular.judgeable {g : Graph} (h : g.Regular) : ∀ r ∈ g.requirements, r.Judgeable :=
  fun r hr => (h.requirement r (List.mem_append_left _ hr)).judgeable

/-- Whatever gates a choice of a regular graph is formed, the place of its node included. -/
theorem Regular.gates {g : Graph} (h : g.Regular) {n : Node} (hn : n ∈ g.nodes) {c : Choice}
    (hc : c ∈ n.choices) : ∀ r ∈ n.gates c, r.Formed := by
  intro r hr
  rcases List.mem_append.1 hr with hr | hr
  · refine h.requirement r (List.mem_append_right _ ?_)
    exact List.mem_flatMap.2 ⟨n, hn, List.mem_flatMap.2 ⟨c, hc, hr⟩⟩
  · rw [Option.mem_toList, Option.map_eq_some_iff] at hr
    obtain ⟨location, _, rfl⟩ := hr
    exact Requirement.formed_atLocation location

end Graph

namespace Content

/-- Every graph of content that is read without problems transcribes what stands under its name, and
nothing in the content is left out. -/
theorem readGraphs_eq_ok {cfg : Settings} {content : List (String × Value)} {graphs : List Graph} :
    readGraphs cfg content = .ok (graphs, []) ↔
      List.Forall₂ (fun p g => Graph.read cfg p.1 p.2 = .ok (g, [])) content graphs := by
  induction content generalizing graphs with
  | nil =>
    rw [List.forall₂_nil_left_iff, readGraphs]
    simp [eq_comm]
  | cons p rest ih =>
    obtain ⟨id, v⟩ := p
    rw [List.forall₂_cons_left_iff]
    unfold readGraphs
    cases v with
    | table fields =>
      dsimp only
      rw [bind_eq_ok]
      constructor
      · rintro ⟨⟨g, found⟩, hread, h⟩
        obtain ⟨⟨others, problems⟩, hrest, h⟩ := bind_eq_ok.1 h
        dsimp only at h
        split at h
        next hfound =>
          cases h
          rw [List.isEmpty_iff.1 hfound] at hread
          exact ⟨g, others, hread, ih.1 hrest, rfl⟩
        next => cases h
      · rintro ⟨g, others, hread, hrest, rfl⟩
        exact ⟨(g, []), hread, by rw [ih.2 hrest]; rfl⟩
    | atom _ | list _ =>
      constructor
      · intro h
        obtain ⟨_, _, h⟩ := bind_eq_ok.1 h
        cases h
      · rintro ⟨_, _, hread, _⟩
        obtain ⟨_, he, _⟩ := Graph.read_eq_ok.1 hread
        cases he

/-- Content is accepted just if it is read without problems and its graphs go together. -/
theorem load_eq_ok {cfg : Settings} {content : Content} {existing : List String}
    {graphs : List Graph} :
    load cfg content existing = .ok graphs ↔
      readGraphs cfg content = .ok (graphs, []) ∧
        Graph.Acceptable graphs existing (content.map Prod.fst) := by
  unfold load
  constructor
  · intro h
    split at h
    next => cases h
    next graphs' problems hread =>
      split at h
      next accepted hcheck =>
        cases h
        obtain ⟨rfl, rfl, hacceptable⟩ := Graph.of_checkAll hcheck
        exact ⟨hread, hacceptable⟩
      next => cases h
  · rintro ⟨hread, hacceptable⟩
    rw [hread]
    dsimp only
    rw [hacceptable.checkAll]

/-- The graphs of content bear the names under which they are authored. -/
theorem names_of_transcribed {cfg : Settings} {content : Content} {graphs : List Graph}
    (h : List.Forall₂ (fun p g => Graph.read cfg p.1 p.2 = .ok (g, [])) content graphs) :
    graphs.map (·.id) = Assoc.keys content := by
  induction h with
  | nil => rfl
  | cons hread _ ih =>
    obtain ⟨_, _, hg⟩ := Graph.read_eq_ok.1 hread
    rw [List.map_cons, hg.id, ih, Assoc.keys_cons]

section Load

variable {cfg : Settings} {content : Content} {existing : List String} {graphs : List Graph}

theorem transcribes_of_load (h : load cfg content existing = .ok graphs) :
    ∀ g ∈ graphs, ∃ id fields, g.Transcribes cfg id fields := by
  intro g hg
  obtain ⟨_, _, hread⟩ := exists_of_forall₂ (readGraphs_eq_ok.1 (load_eq_ok.1 h).1) hg
  obtain ⟨fields, _, hg⟩ := Graph.read_eq_ok.1 hread
  exact ⟨_, fields, hg⟩

/-- All graphs of accepted content are regular. -/
theorem regular_of_load (h : load cfg content existing = .ok graphs) :
    ∀ g ∈ graphs, g.Regular := by
  intro g hg
  obtain ⟨_, _, hread⟩ := transcribes_of_load h g hg
  exact hread.graph_regular

theorem sound_of_load (h : load cfg content existing = .ok graphs) : ∀ g ∈ graphs, g.Sound :=
  fun g hg => (Graph.of_validate ((load_eq_ok.1 h).2.valid g hg)).1

/-- The graphs of content that is accepted by itself go together by themselves, although they have
been checked with the names in the content known besides. -/
theorem acceptable_of_load (h : load cfg content [] = .ok graphs) :
    Graph.Acceptable graphs [] [] := by
  obtain ⟨hread, hdistinct, hnew, hvalid⟩ := load_eq_ok.1 h
  have hnames : graphs.map (·.id) = content.map Prod.fst :=
    names_of_transcribed (readGraphs_eq_ok.1 hread)
  refine ⟨hdistinct, hnew, fun g hg => ?_⟩
  rw [← hvalid g hg, ← hnames]
  exact g.validate_congr fun name => by simp

end Load

end Content

/-- Graphs that have been read from content. -/
def Loaded (cfg : Settings) (graphs : List Graph) : Prop :=
  ∃ content existing, Content.load cfg content existing = .ok graphs

theorem Loaded.regular {cfg : Settings} {graphs : List Graph} (h : Loaded cfg graphs) :
    ∀ g ∈ graphs, g.Regular := by
  obtain ⟨content, existing, hload⟩ := h
  exact Content.regular_of_load hload

/-- The outcomes of content have been read under texts as their names. -/
theorem Loaded.read_outcome {cfg : Settings} {graphs : List Graph} (h : Loaded cfg graphs) :
    ∀ g ∈ graphs, ∀ o ∈ g.allOutcomes,
      ∃ v name, Outcome.read v (some (.text name)) = .ok o := by
  intro g hg o ho
  obtain ⟨content, existing, hload⟩ := h
  obtain ⟨_, _, hgraph⟩ := Content.transcribes_of_load hload g hg
  obtain ⟨v, owner, place, hid, hread⟩ := hgraph.read_outcome o ho
  exact ⟨v, _, hid ▸ hread⟩

/-- The patrol as it is authored; whoever has walked it gets a badge. -/
def Content.patrol : Content :=
  [("patrol", .record [
    ("title", "Patrol"), ("start", "dock"), ("branch", "crew"), ("repeatable", true),
    ("nodes", .list [
      .record [("id", "dock"), ("text", "At the dock."), ("choices", .list [
        .record [("id", "walk"), ("text", "Walk."), ("next_node", "gate"),
          ("requirements", .list [.record [("kind", "at_location"), ("location", "ship")]])]])],
      .record [("id", "gate"), ("text", "At the gate."), ("choices", .list [
        .record [("id", "again"), ("text", "Again."), ("next_graph", "patrol")]])]]),
    ("completion_outcomes", .list [
      .record [("kind", "set_flag"), ("flag", "walked")],
      .record [("kind", "give_item"), ("item", "badge")]])])]

/-- Content is accepted just if its names are distinct, every graph transcribes what is authored
under its name, and each graph has a name that is not taken, parts that suit their kinds, and
references that all lead somewhere.  What transcribes a graph is what is read without problems. -/
theorem accepted_just_if_sound_and_transcribed (cfg : Settings) (content : Content)
    (existing : List String) (graphs : List Graph) :
    (Content.load cfg content existing = .ok graphs ↔
      (Assoc.keys content).Nodup ∧
      List.Forall₂ (fun (id, v) g => ∃ fields, v = .table fields ∧ g.Transcribes cfg id fields)
        content graphs ∧
      ∀ g ∈ graphs, (∀ o ∈ g.allOutcomes, o.Regular) ∧ (∀ r ∈ g.allRequirements, r.Regular) ∧
        g.id ∉ existing ∧ g.Coherent (existing ++ graphs.map (·.id))) ∧
    ∀ id v g, Graph.read cfg id v = .ok (g, []) ↔
      ∃ fields, v = .table fields ∧ g.Transcribes cfg id fields := by
  refine ⟨?_, fun id v g => Graph.read_eq_ok⟩
  simp only [← Graph.read_eq_ok]
  rw [Content.load_eq_ok, Content.readGraphs_eq_ok]
  have hvalid (hread : List.Forall₂ (fun p g => Graph.read cfg p.1 p.2 = .ok (g, []))
      content graphs) (g : Graph) :
      g.validate (existing ++ graphs.map (·.id) ++ content.map Prod.fst) = [] ↔
        g.Coherent (existing ++ graphs.map (·.id)) := by
    rw [← Graph.validate_eq_nil, Content.names_of_transcribed hread]
    exact iff_of_eq (congrArg (· = []) (g.validate_congr fun name => by simp [Assoc.keys]))
  constructor
  · rintro ⟨hread, hdistinct, hnew, hclear⟩
    refine ⟨Content.names_of_transcribed hread ▸ hdistinct, hread, fun g hg => ?_⟩
    obtain ⟨p, _, hp⟩ := exists_of_forall₂ hread hg
    obtain ⟨fields, _, hgraph⟩ := Graph.read_eq_ok.1 hp
    exact ⟨hgraph.outcome, hgraph.requirement, hnew g hg, (hvalid hread g).1 (hclear g hg)⟩
  · rintro ⟨hdistinct, hread, hgraphs⟩
    exact ⟨hread, (Content.names_of_transcribed hread).symm ▸ hdistinct,
      fun g hg => (hgraphs g hg).2.2.1, fun g hg => (hvalid hread g).2 (hgraphs g hg).2.2.2⟩

end Questline
