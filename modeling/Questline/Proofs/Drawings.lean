import Mathlib.Data.List.TakeWhile
import Questline.Drawing
import Questline.Proofs.Reading
import Questline.Proofs.Wording

/-! Faithful drawings.  A drawing has one edge for each choice, and it declares all that choices
lead to.  An edge takes a name only up to its first colon, though, so it misses what it is meant
for where a name has one, as the names of all folders do. -/

namespace Questline

namespace Dot

/-- The node that a statement declares, whose name it takes whole. -/
def Statement.declared? : Statement → Option String
  | .node id _ _ => some id
  | .edge _ _ _ => none

/-- The ends that a statement joins, as the language reads them. -/
def Statement.link? : Statement → Option (Anchor × Anchor)
  | .node _ _ _ => none
  | .edge tail head _ => some (.ofText tail, .ofText head)

def Digraph.links (d : Digraph) : List (Anchor × Anchor) :=
  d.statements.filterMap Statement.link?

namespace Anchor

theorem node_ofText (s : String) :
    (ofText s).node = String.ofList (s.toList.takeWhile (· != ':')) := by
  unfold ofText cut
  dsimp only
  split <;> rfl

/-- The end of an edge names the node that is meant just if there is no colon in the name. -/
theorem node_ofText_eq_self {s : String} : (ofText s).node = s ↔ ':' ∉ s.toList := by
  rw [node_ofText]
  constructor
  · intro h hcolon
    have htext : s.toList.takeWhile (· != ':') = s.toList := by
      rw [← String.toList_ofList (l := s.toList.takeWhile _), h]
    simpa using List.takeWhile_eq_self_iff.1 htext ':' hcolon
  · intro h
    have hplain : ∀ c ∈ s.toList, (c != ':') = true := fun c hc =>
      bne_iff_ne.2 fun he => h (he ▸ hc)
    rw [List.takeWhile_eq_self_iff.2 hplain, String.ofList_toList]

end Anchor

end Dot

open Dot

namespace Next

/-- The name under which the target of a choice is drawn. -/
def drawnAs : Next → String
  | .node target => target
  | .graph target => Graph.folderName target
  | .finish => Graph.finishName

/-- What is declared along with an edge: all targets but those that are nodes of the graph. -/
def declarations : Next → List Statement
  | .node _ => []
  | .graph target => [.node (Graph.folderName target) target "folder"]
  | .finish => [.node Graph.finishName Graph.finishName "oval"]

theorem link?_declarations (next : Next) : next.declarations.filterMap Statement.link? = [] := by
  cases next <;> rfl

end Next

namespace Graph

/-- All choices of a graph, each with its node. -/
def ways (g : Graph) : List (Node × Choice) := g.nodes.flatMap fun n => n.choices.map (n, ·)

theorem mem_ways {g : Graph} {way : Node × Choice} :
    way ∈ g.ways ↔ way.1 ∈ g.nodes ∧ way.2 ∈ way.1.choices := by
  simp only [ways, List.mem_flatMap, List.mem_map]
  constructor
  · rintro ⟨n, hn, c, hc, rfl⟩
    exact ⟨hn, hc⟩
  · rintro ⟨hn, hc⟩
    exact ⟨_, hn, _, hc, rfl⟩

/-- The statement for a node of the graph. -/
def statementOf (g : Graph) (n : Node) : Statement := .node n.id (nodeLabel n) (g.shapeOf n)

/-- The statement is the one for what a choice leads to. -/
def Declares (g : Graph) : Next → Statement → Prop
  | .node target, s => ∃ n ∈ g.nodes, n.id = target ∧ s = g.statementOf n
  | .graph target, s => s = .node (folderName target) target "folder"
  | .finish, s => s = .node finishName finishName "oval"

theorem Declares.declared? {g : Graph} {next : Next} {s : Statement} (h : g.Declares next s) :
    s.declared? = some next.drawnAs := by
  cases next with
  | node target =>
    obtain ⟨n, _, rfl, rfl⟩ := h
    rfl
  | graph target =>
    subst h
    rfl
  | finish =>
    subst h
    rfl

theorem choiceStatements_eq_ok {cfg : Settings} {n : Node} {c : Choice} {l : List Statement} :
    choiceStatements cfg n c = .ok l ↔ ∃ label, choiceLabel cfg c = .ok label ∧
      l = c.next.declarations ++ [.edge n.id c.next.drawnAs label] := by
  unfold choiceStatements
  rw [bind_eq_ok]
  refine exists_congr fun label => and_congr_right fun _ => ?_
  cases c.next with
  | node target | graph target | finish =>
    exact ⟨fun h => by cases h; rfl, fun h => by cases h; rfl⟩

theorem nodeStatements_eq_ok {cfg : Settings} {g : Graph} {n : Node} {l : List Statement} :
    nodeStatements cfg g n = .ok l ↔
      ∃ choices, n.choices.mapM (choiceStatements cfg n) = .ok choices ∧
        l = g.statementOf n :: choices.flatten := by
  unfold nodeStatements
  rw [bind_eq_ok]
  exact exists_congr fun choices => and_congr_right fun _ =>
    ⟨fun h => by cases h; rfl, fun h => by cases h; rfl⟩

theorem drawing_eq_ok {cfg : Settings} {g : Graph} {d : Digraph} :
    drawing cfg g = .ok d ↔ ∃ nodes, g.nodes.mapM (nodeStatements cfg g) = .ok nodes ∧
      d = ⟨g.id, g.title, nodes.flatten⟩ := by
  unfold drawing
  rw [bind_eq_ok]
  exact exists_congr fun nodes => and_congr_right fun _ =>
    ⟨fun h => by cases h; rfl, fun h => by cases h; rfl⟩

section Drawing

variable {cfg : Settings} {g : Graph} {d : Digraph}

theorem exists_choiceLabel {c : Choice}
    (h : ∀ r ∈ c.requirements, ∃ text, r.describe cfg = .ok text) :
    ∃ label, choiceLabel cfg c = .ok label := by
  obtain ⟨texts, htexts⟩ : ∃ texts, Requirement.describeAll cfg c.requirements = .ok texts :=
    exists_ok_of_mapM h
  unfold choiceLabel
  dsimp only
  split
  · exact ⟨_, rfl⟩
  · rw [htexts]
    exact ⟨_, rfl⟩

/-- A graph whose requirements can all be told can be drawn. -/
theorem exists_drawing
    (h : ∀ way ∈ g.ways, ∀ r ∈ way.2.requirements, ∃ text, r.describe cfg = .ok text) :
    ∃ d, g.drawing cfg = .ok d := by
  have hnode : ∀ n ∈ g.nodes, ∃ l, nodeStatements cfg g n = .ok l := by
    intro n hn
    have hchoice : ∀ c ∈ n.choices, ∃ l, choiceStatements cfg n c = .ok l := by
      intro c hc
      obtain ⟨label, hlabel⟩ := exists_choiceLabel (h (n, c) (mem_ways.2 ⟨hn, hc⟩))
      exact ⟨_, choiceStatements_eq_ok.2 ⟨label, hlabel, rfl⟩⟩
    obtain ⟨choices, hchoices⟩ := exists_ok_of_mapM hchoice
    exact ⟨_, nodeStatements_eq_ok.2 ⟨choices, hchoices, rfl⟩⟩
  obtain ⟨nodes, hnodes⟩ := exists_ok_of_mapM hnode
  exact ⟨_, drawing_eq_ok.2 ⟨nodes, hnodes, rfl⟩⟩

theorem links_of_choice {n : Node} {c : Choice} {l : List Statement}
    (h : choiceStatements cfg n c = .ok l) : l.filterMap Statement.link? =
      [(Anchor.ofText n.id, Anchor.ofText c.next.drawnAs)] := by
  obtain ⟨label, _, rfl⟩ := choiceStatements_eq_ok.1 h
  rw [List.filterMap_append, Next.link?_declarations]
  rfl

theorem links_of_node {n : Node} {l : List Statement} (h : nodeStatements cfg g n = .ok l) :
    l.filterMap Statement.link? =
      n.choices.map fun c => (Anchor.ofText n.id, Anchor.ofText c.next.drawnAs) := by
  obtain ⟨choices, hchoices, rfl⟩ := nodeStatements_eq_ok.1 h
  rw [List.filterMap_cons_none rfl, List.filterMap_flatten,
    map_of_mapM (fun _ _ => links_of_choice) hchoices, ← List.flatMap_def, ← List.map_eq_flatMap]

/-- The edges of a drawing are those of the choices, in their order. -/
theorem links_of_drawing (h : g.drawing cfg = .ok d) : d.links =
    g.ways.map fun way => (Anchor.ofText way.1.id, Anchor.ofText way.2.next.drawnAs) := by
  obtain ⟨nodes, hnodes, rfl⟩ := drawing_eq_ok.1 h
  rw [Digraph.links, List.filterMap_flatten, map_of_mapM (fun _ _ => links_of_node) hnodes]
  simp [ways, List.flatMap_def, Function.comp_def]

/-- Every node of the graph has its statement. -/
theorem statementOf_mem (h : g.drawing cfg = .ok d) {n : Node} (hn : n ∈ g.nodes) :
    g.statementOf n ∈ d.statements := by
  obtain ⟨nodes, hnodes, rfl⟩ := drawing_eq_ok.1 h
  obtain ⟨l, hl, hnode⟩ := (mem_of_mapM hnodes).1 n hn
  obtain ⟨choices, _, rfl⟩ := nodeStatements_eq_ok.1 hnode
  exact List.mem_flatten.2 ⟨_, hl, List.mem_cons_self⟩

theorem declarations_subset (h : g.drawing cfg = .ok d) {way : Node × Choice}
    (hway : way ∈ g.ways) : way.2.next.declarations ⊆ d.statements := by
  obtain ⟨hn, hc⟩ := mem_ways.1 hway
  obtain ⟨nodes, hnodes, rfl⟩ := drawing_eq_ok.1 h
  obtain ⟨l, hl, hnode⟩ := (mem_of_mapM hnodes).1 _ hn
  obtain ⟨choices, hchoices, rfl⟩ := nodeStatements_eq_ok.1 hnode
  obtain ⟨l', hl', hchoice⟩ := (mem_of_mapM hchoices).1 _ hc
  obtain ⟨label, _, rfl⟩ := choiceStatements_eq_ok.1 hchoice
  intro s hs
  exact List.mem_flatten.2 ⟨_, hl, List.mem_cons_of_mem _
    (List.mem_flatten.2 ⟨_, hl', List.mem_append_left _ hs⟩)⟩

/-- Whatever the choices of a sound graph lead to is declared. -/
theorem exists_declares (h : g.drawing cfg = .ok d) (hsound : g.Sound) {way : Node × Choice}
    (hway : way ∈ g.ways) : ∃ s ∈ d.statements, g.Declares way.2.next s := by
  have hdeclared := declarations_subset h hway
  cases hnext : way.2.next with
  | node target =>
    obtain ⟨hn, hc⟩ := mem_ways.1 hway
    obtain ⟨m, hm, hid⟩ := List.any_eq_true.1 (hsound.next _ hn _ hc target hnext)
    exact ⟨_, statementOf_mem h hm, m, hm, of_decide_eq_true hid, rfl⟩
  | graph target =>
    rw [hnext] at hdeclared
    exact ⟨_, hdeclared List.mem_cons_self, rfl⟩
  | finish =>
    rw [hnext] at hdeclared
    exact ⟨_, hdeclared List.mem_cons_self, rfl⟩

/-- The link leads from the node that is declared for the node of the choice to the one that is
declared for what the choice leads to, and the end is none of the nodes of the graph. -/
structure Follows (g : Graph) (d : Digraph) (way : Node × Choice) (link : Anchor × Anchor) :
    Prop where
  tail : g.statementOf way.1 ∈ d.statements ∧
    (g.statementOf way.1).declared? = some link.1.node
  head : ∃ s ∈ d.statements, g.Declares way.2.next s ∧ s.declared? = some link.2.node
  apart : way.2.next = .finish → ∀ n ∈ g.nodes, n.id ≠ link.2.node

/-- No name at the ends of the edge has a colon, and none stands for two things. -/
def Legible (g : Graph) (way : Node × Choice) : Prop :=
  ':' ∉ way.1.id.toList ∧
    match way.2.next with
    | .node target => ':' ∉ target.toList
    | .graph _ => False
    | .finish => ∀ n ∈ g.nodes, n.id ≠ finishName

theorem toList_folderName (target : String) :
    (folderName target).toList = "graph:".toList ++ target.toList :=
  String.toList_append

theorem colon_mem_folderName (target : String) : ':' ∈ (folderName target).toList := by
  rw [toList_folderName]
  simp

/-- All folders come to one name at the end of an edge. -/
theorem node_ofText_folderName (target : String) :
    (Anchor.ofText (folderName target)).node = "graph" := by
  rw [Anchor.node_ofText, toList_folderName]
  simp

theorem legible_iff {way : Node × Choice} : g.Legible way ↔
    ':' ∉ way.1.id.toList ∧ ':' ∉ way.2.next.drawnAs.toList ∧
      (way.2.next = .finish → ∀ n ∈ g.nodes, n.id ≠ way.2.next.drawnAs) := by
  refine and_congr_right fun _ => ?_
  cases way.2.next with
  | node target => simp [Next.drawnAs]
  | graph target => simp [Next.drawnAs, colon_mem_folderName]
  | finish => simp [Next.drawnAs, finishName]

instance (g : Graph) (way : Node × Choice) : Decidable (g.Legible way) :=
  decidable_of_iff _ legible_iff.symm

/-- An edge of a drawing is right just if the language reads its ends as they are meant. -/
theorem follows_iff (h : g.drawing cfg = .ok d) (hsound : g.Sound) {way : Node × Choice}
    (hway : way ∈ g.ways) :
    g.Follows d way (.ofText way.1.id, .ofText way.2.next.drawnAs) ↔ g.Legible way := by
  rw [legible_iff, ← Anchor.node_ofText_eq_self, ← Anchor.node_ofText_eq_self]
  constructor
  · rintro ⟨⟨_, htail⟩, ⟨s, _, hs, hhead⟩, hapart⟩
    have hname : (Anchor.ofText way.2.next.drawnAs).node = way.2.next.drawnAs :=
      (Option.some.inj (hs.declared?.symm.trans hhead)).symm
    exact ⟨(Option.some.inj htail).symm, hname, fun hnext n hn => hname ▸ hapart hnext n hn⟩
  · rintro ⟨htail, hhead, hapart⟩
    obtain ⟨s, hmem, hs⟩ := exists_declares h hsound hway
    refine ⟨⟨statementOf_mem h (mem_ways.1 hway).1, ?_⟩, ⟨s, hmem, hs, ?_⟩, ?_⟩
    · exact congrArg some htail.symm
    · rw [hs.declared?, hhead]
    · rwa [hhead]

/-- All edges of a drawing are right just if all are read as they are meant. -/
theorem links_follow_iff (h : g.drawing cfg = .ok d) (hsound : g.Sound) :
    List.Forall₂ (g.Follows d) g.ways d.links ↔ ∀ way ∈ g.ways, g.Legible way := by
  rw [links_of_drawing h, List.forall₂_map_right_iff, List.forall₂_same]
  exact forall₂_congr fun way hway => follows_iff h hsound hway

end Drawing

end Graph

/-- A voyage whose first node has a colon in its name, and whose last one is named like the end. -/
def Content.voyage : Content :=
  [("voyage", .record [
    ("title", "Voyage"), ("start", "deck:aft"), ("repeatable", true),
    ("nodes", .list [
      .record [("id", "deck:aft"), ("text", "On deck."), ("choices", .list [
        .record [("id", "down"), ("text", "Down."), ("next_node", "hold")]])],
      .record [("id", "hold"), ("text", "In the hold."), ("choices", .list [
        .record [("id", "back"), ("text", "Back."), ("next_graph", "voyage")],
        .record [("id", "rest"), ("text", "Rest."), ("next_node", "complete")]])],
      .record [("id", "complete"), ("text", "All done."), ("choices", .list [
        .record [("id", "leave"), ("text", "Leave.")]])]])])]

end Questline
