import Questline.Proofs.Consistency
import Questline.Proofs.Reading

/-! The engines that any calls lead to, whatever has been restored or broken off on the way, as long
as all graphs come from content.  Everything that playing may need is there then, if the facts can
be had. -/

namespace Questline

/-- The engines over graphs from content that any calls lead to. -/
inductive Visited (cfg : Settings) : Engine → Prop
  | built {graphs : List Graph} {host : Host} {clock : Clock} {e : Engine} :
      Loaded cfg graphs → Engine.ofGraphs graphs host clock = .ok e → Visited cfg e
  | called {e : Engine} {c : Call} : Visited cfg e →
      (∀ graphs, c = .register graphs → Loaded cfg graphs) → Visited cfg (c.after cfg e)

namespace Engine

variable {cfg : Settings} {graphs : List Graph} {e e' : Engine}

/-- The graphs of an engine are regular, chains from them lead to graphs of the engine, and what the
engine knows about them agrees. -/
structure Sturdy (e : Engine) : Prop where
  consistent : e.Consistent []
  regular : ∀ g ∈ e.session.graphs, g.Regular
  chained : ∀ g ∈ e.session.graphs, g.ChainsTo e.session.graphNames

namespace Sturdy

theorem register (h : e.Sturdy) (hgraphs : ∀ g ∈ graphs, g.Regular)
    (hr : e.register graphs = .ok e') : e'.Sturdy := by
  obtain ⟨-, hacceptable⟩ := of_register hr
  have hsame := graphs_register hr
  have hnames : e'.session.graphNames = e.session.graphNames ++ graphs.map (·.id) := by
    rw [Session.graphNames_eq, hsame, List.map_append, Session.graphNames_eq]
  refine ⟨⟨sound_of_register h.consistent.sound hr, agrees_of_register h.consistent.agrees hr,
    List.nil_prefix⟩, ?_, ?_⟩ <;> rw [hsame]
  · exact List.forall_mem_append.2 ⟨h.regular, hgraphs⟩
  · rw [hnames]
    refine List.forall_mem_append.2 ⟨fun g hg n hn c hc target htarget => ?_, fun g hg => ?_⟩
    · exact List.mem_append_left _ (h.chained g hg n hn c hc target htarget)
    · simpa using (Graph.of_validate (hacceptable.valid g hg)).2

theorem ofGraphs {host : Host} {clock : Clock} (hgraphs : ∀ g ∈ graphs, g.Regular)
    (h : Engine.ofGraphs graphs host clock = .ok e) : e.Sturdy := by
  refine register (e := { session := .start host clock }) ⟨⟨⟨List.nodup_nil, ?_⟩, ?_, ?_⟩, ?_, ?_⟩
    hgraphs h
  · simp [Session.start]
  · exact ⟨by simp [Session.start], fun k hk => by cases hk⟩
  · exact List.nil_prefix
  all_goals simp [Session.graphs, Session.start]

/-- Every call keeps an engine sturdy, if no other graphs are registered than regular ones. -/
theorem after (h : e.Sturdy) {c : Call}
    (hregister : ∀ graphs, c = .register graphs → ∀ g ∈ graphs, g.Regular) :
    (c.after cfg e).Sturdy := by
  by_cases hc : ∃ graphs, c = .register graphs
  · obtain ⟨graphs, rfl⟩ := hc
    rw [Call.after, Call.ask]
    split
    next e' hr => exact h.register (hregister graphs rfl) hr
    next => exact h
  · have hgraphs := h.consistent.graphs_after cfg fun graphs he => hc ⟨graphs, he⟩
    refine ⟨h.consistent.after c, hgraphs ▸ h.regular, ?_⟩
    rw [Session.graphNames_congr hgraphs, hgraphs]
    exact h.chained

theorem sure (h : e.Sturdy) (hanswers : e.session.host.Answering) : e.session.Sure :=
  ⟨hanswers, fun g hg => (h.regular g hg).judgeable, h.chained⟩

theorem gates (h : e.Sturdy) : ∀ g ∈ e.session.graphs, ∀ n ∈ g.nodes, ∀ c ∈ n.choices,
    ∀ r ∈ n.gates c, r.Formed :=
  fun g hg _ hn _ hc => (h.regular g hg).gates hn hc

theorem ready (h : e.Sturdy) (hidle : e.session.pending = none)
    (hanswers : e.session.host.Answering) (hcfg : cfg.Describes) : e.session.Ready cfg :=
  ⟨hidle, h.sure hanswers, h.gates, hcfg⟩

end Sturdy

end Engine

theorem Visited.sturdy {cfg : Settings} {e : Engine} (h : Visited cfg e) : e.Sturdy := by
  induction h with
  | built hloaded hbuilt => exact .ofGraphs hloaded.regular hbuilt
  | called _ hregister ih => exact ih.after fun graphs hc => (hregister graphs hc).regular

theorem Visited.afterAll {cfg : Settings} {e : Engine} (h : Visited cfg e) {calls : List Call}
    (hcalls : ∀ c ∈ calls, ∀ graphs, c ≠ .register graphs) :
    Visited cfg (e.afterAll cfg calls) := by
  induction calls generalizing e with
  | nil => exact h
  | cons c rest ih =>
    rw [List.forall_mem_cons] at hcalls
    exact ih (h.called fun graphs hc => absurd hc (hcalls.1 graphs)) hcalls.2

/-- An engine over content in which nothing has happened. -/
def Engine.fresh (content : Content) (host : Host) : Engine :=
  let graphs := (Content.load .builtIn content []).toOption.getD []
  { session := { Session.start host (.ticking 0 1) with
      instances := graphs.map fun graph => { graph } } }

theorem Engine.ofGraphs_fresh {content : Content} (host : Host)
    (hread : (Content.load .builtIn content []).toOption.isSome = true) :
    ∃ graphs, Content.load .builtIn content [] = .ok graphs ∧
      ofGraphs graphs host (.ticking 0 1) = .ok (.fresh content host) := by
  cases hload : Content.load .builtIn content [] with
  | error why =>
    rw [hload] at hread
    cases hread
  | ok graphs =>
    refine ⟨graphs, rfl, ?_⟩
    rw [fresh, hload]
    exact register_of_acceptable (Content.acceptable_of_load hload)

theorem Visited.fresh {content : Content} (host : Host)
    (hread : (Content.load .builtIn content []).toOption.isSome = true) :
    Visited .builtIn (.fresh content host) := by
  obtain ⟨graphs, hload, hbuilt⟩ := Engine.ofGraphs_fresh host hread
  exact .built ⟨_, _, hload⟩ hbuilt

/-- An errand on the way to which nothing happens, and a reward for whoever has a badge. -/
def Content.errand : Content :=
  [("errand", .record [
    ("title", "Errand"), ("start", "camp"), ("branch", "crew"),
    ("nodes", .list [
      .record [("id", "camp"), ("text", "At the camp."), ("choices", .list [
        .record [("id", "go"), ("text", "Go."), ("next_node", "hut")]])],
      .record [("id", "hut"), ("text", "At the hut."), ("choices", .list [
        .record [("id", "leave"), ("text", "Leave.")]])]])]),
   ("reward", .record [
    ("title", "Reward"), ("start", "desk"), ("branch", "crew"),
    ("requirements", .list [.record [("kind", "item"), ("item", "badge")]]),
    ("nodes", .list [
      .record [("id", "desk"), ("text", "At the desk."), ("choices", .list [
        .record [("id", "thank"), ("text", "Thank.")]])]])])]

end Questline
