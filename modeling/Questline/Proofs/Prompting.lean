import Questline.Proofs.Promotion
import Questline.Proofs.Usability

/-! What a console shows before it asks for a line.  As long as no service is down, to look at a
graph changes nothing, and what is shown is what can be done. -/

namespace Questline

/-- No service is down after the call either, and all graphs still come from content. -/
def Call.IsSmooth (cfg : Settings) : Call → Prop
  | .turn host => host.outages = []
  | .register graphs => Loaded cfg graphs
  | _ => True

variable {cfg : Settings} {c : Call} {e : Engine} {g : String}

theorem Call.IsSmooth.isFair (h : c.IsSmooth cfg) : c.IsFair cfg := by
  cases c with
  | turn host => exact .of_up h
  | register graphs => exact h
  | _ => trivial

/-- The current graph is one in progress. -/
theorem Session.playing_of_currentGraph {s : Session} (hdistinct : s.graphNames.Nodup)
    (h : s.currentGraph = some g) : ∃ i, s.instance? g = some i ∧ i.lifecycle = .inProgress := by
  obtain ⟨i, hi, rfl⟩ := Option.map_eq_some_iff.1 h
  have hplaying : i ∈ s.instances.filter
      fun i => i.lifecycle = .inProgress && i.graph.kind = .quest := by
    rcases Option.or_eq_some_iff.1 hi with hmain | ⟨_, hfirst⟩
    · exact List.mem_of_find?_eq_some hmain
    · exact List.mem_of_head? hfirst
  obtain ⟨hmem, hlife⟩ := List.mem_filter.1 hplaying
  rw [Bool.and_eq_true, decide_eq_true_eq] at hlife
  exact ⟨i, instance?_of_mem hdistinct hmem, hlife.1⟩

namespace Engine

/-- What holds of an engine between two calls as long as no service is down. -/
structure Unhindered (e : Engine) : Prop extends e.Untroubled where
  mended : e.session.host.outages = []

namespace Unhindered

theorem ofGraphs {graphs : List Graph} {host : Host} {clock : Clock}
    (hgraphs : ∀ g ∈ graphs, g.Regular) (hmended : host.outages = [])
    (h : Engine.ofGraphs graphs host clock = .ok e) : e.Unhindered := by
  obtain ⟨he, _⟩ := of_register h
  exact ⟨.ofGraphs hgraphs (.of_up hmended) h, he ▸ hmended⟩

theorem after (h : e.Unhindered) (hc : c.IsSmooth cfg) : (c.after cfg e).Unhindered := by
  refine ⟨h.toUntroubled.after hc.isFair, ?_⟩
  by_cases hturn : ∃ host, c = .turn host
  · obtain ⟨host, rfl⟩ := hturn
    exact hc
  · exact (h.sturdy.consistent.host_after cfg fun host he => hturn ⟨host, he⟩).mended h.mended

theorem afterAll (h : e.Unhindered) {calls : List Call} (hcalls : ∀ c ∈ calls, c.IsSmooth cfg) :
    (e.afterAll cfg calls).Unhindered := by
  induction calls generalizing e with
  | nil => exact h
  | cons c rest ih =>
    rw [List.forall_mem_cons] at hcalls
    exact ih (h.after hcalls.1) hcalls.2

theorem distinct (h : e.Unhindered) : e.session.graphNames.Nodup :=
  h.sturdy.consistent.sound.distinct

theorem judged (h : e.Unhindered) : e.session.Judged := fun i hi _ =>
  Requirement.verdict_of_judgeable
    (h.sturdy.regular i.graph (List.mem_map_of_mem hi)).judgeable e.session.ledger e.session.host

/-- To look at a graph leaves the engine as it is. -/
theorem presents (h : e.Unhindered) (hcfg : cfg.Describes) (g : String) :
    ∃ shown, e.session.ShowsAny cfg g shown ∧ Engine.present cfg (some g) e = .ok shown e := by
  obtain ⟨shown, outages, hshows, hpresent⟩ := h.sturdy.presents h.answering hcfg g
  have hsmooth : (Call.present (some g)).IsSmooth cfg := trivial
  have hlooked := h.after hsmooth
  rw [Call.after, Call.ask, Call.answer_ok hpresent] at hlooked
  have hup : outages = [] := hlooked.mended
  rw [hup, ← h.mended] at hpresent
  exact ⟨shown, hshows, hpresent⟩

/-- A graph in progress has a node to show. -/
theorem presents_playing (h : e.Unhindered) (hcfg : cfg.Describes) {i : Instance}
    (hi : e.session.instance? g = some i) (hlife : i.lifecycle = .inProgress) :
    ∃ node, e.session.ShowsAny cfg g (some node) ∧
      Engine.present cfg (some g) e = .ok (some node) e := by
  obtain ⟨shown, hshows, hpresent⟩ := h.presents hcfg g
  cases shown with
  | some node => exact ⟨node, hshows, hpresent⟩
  | none =>
    have hagrees := h.sturdy.consistent.agrees
    have hactive := (hagrees.placed i (Session.mem_of_instance? hi)).active.2 hlife
    rw [hshows.displays hagrees i hi] at hactive
    cases hactive

/-- A choice that is shown as legal is taken. -/
theorem chooses_shown (h : e.Unhindered) (hcfg : cfg.Describes) {node : PresentedNode}
    (hshows : e.session.ShowsAny cfg g (some node)) {choice : PresentedChoice}
    (hchoice : choice ∈ node.legal) : (Engine.choose cfg g choice.id e).1.accepted = true := by
  have hagrees := h.sturdy.consistent.agrees
  have hready := h.sturdy.ready h.idle h.answering hcfg
  have hchoose : Handles cfg (fun _ => True) (Step.choose cfg g choice.id) e.session _ _ _ :=
    Step.handles_choose hagrees h.sturdy.consistent.sound g choice.id
  have htaken := hshows.asShown hagrees
    (fun f hf => (h.sturdy.regular f hf).distinct)
    ((request_of_handles hchoose hready g (some choice.id)).imp_left
      fun ⟨haccepted, _, _, i, n, d, hfaces, hopen, _⟩ => ⟨haccepted, i, n, d, hfaces, hopen⟩)
  exact htaken.accepted.2 ⟨node, rfl, choice, hchoice, rfl⟩

end Unhindered

/-- The graph that an answer names as active is one of the engine's. -/
theorem active_of_handles {reported : Outcome → Prop} {x : Step Resolution}
    {entry : EntryKind × Option String} {script : List Act → Prop} {refuses : IllegalChoice → Prop}
    (hx : Handles cfg reported x e.session entry script refuses) (g : String)
    (choice : Option String) : ∀ active ∈ (request g choice x e).1.activeGraph,
      active ∈ (request g choice x e).2.session.graphNames := by
  unfold Handles Ends at hx
  unfold request
  cases hrun : x e.session with
  | error why t => simp [Resolution.rejected]
  | ok r t =>
    rw [hrun] at hx
    obtain ⟨_, _, _, _, _, _, hgrants⟩ := hx
    intro active hactive
    rcases hgrants.active with ⟨hnone, _⟩ | ⟨f, _, i, hf, _, hi, _⟩
    · cases hnone.symm.trans hactive
    · cases hf.symm.trans hactive
      exact Session.instance?_isSome.1 (Option.isSome_iff_exists.2 ⟨i, hi⟩)

end Engine

namespace Console

/-- A console that has put out some more lines. -/
def said (c : Console) (lines : List String) : Console :=
  { c with shown := (lines.map .line).reverse ++ c.shown }

section Said

variable (c : Console) (lines : List String)

@[simp] theorem engine_said : (c.said lines).engine = c.engine := rfl

@[simp] theorem current_said : (c.said lines).current = c.current := rfl

@[simp] theorem input_said : (c.said lines).input = c.input := rfl

theorem said_said (more : List String) : (c.said lines).said more = c.said (lines ++ more) := by
  simp [said]

@[simp] theorem printed_said : (c.said lines).printed = c.printed ++ lines := by
  unfold printed said
  simp [List.filterMap_map]

theorem print_eq (s : String) : print s c = .ok () (c.said [s]) := rfl

theorem printAll_eq : printAll lines c = .ok () (c.said lines) := by
  unfold printAll
  induction lines generalizing c with
  | nil => rfl
  | cons s rest ih =>
    change (print s >>= fun _ => rest.forM print) c = _
    rw [run_bind (print_eq c s), ih, said_said]
    rfl

end Said

/-- The graph that choices are taken from next: the one shown so far while it is in progress, or
else the current quest. -/
def stage (c : Console) : Option String :=
  (c.current.filter fun g => (c.engine.session.instance? g).any (·.lifecycle = .inProgress)).or
    c.engine.session.currentGraph

/-- What is shown of the graph that choices are taken from. -/
def node? (cfg : Settings) (c : Console) : Option PresentedNode :=
  c.current.bind fun g => c.engine.shown? cfg g

/-- The choices that are shown with numbers. -/
def choices (cfg : Settings) (c : Console) : List PresentedChoice :=
  (c.node? cfg).elim [] (·.legal)

/-- What holds of a console between two lines: its engine is unhindered, and the graph shown so far
is one of the engine's. -/
structure Ready (c : Console) : Prop where
  unhindered : c.engine.Unhindered
  listed : ∀ g ∈ c.current, g ∈ c.engine.session.graphNames

/-- What holds of a console that asks for a line: if there is a graph to take choices from, its node
can be shown. -/
structure Standing (cfg : Settings) (c : Console) : Prop extends c.Ready where
  shows : ∀ g ∈ c.current, ∃ node, c.engine.session.ShowsAny cfg g (some node) ∧
    Engine.present cfg (some g) c.engine = .ok (some node) c.engine

variable {c : Console}

/-- Wherever a graph of the engine stands, it stands somewhere. -/
theorem chooseCurrent_eq (h : ∀ g ∈ c.current, g ∈ c.engine.session.graphNames) :
    chooseCurrent c = .ok () { c with current := c.stage } := by
  unfold chooseCurrent stage
  rw [run_get]
  cases hcurrent : c.current with
  | none => rfl
  | some g =>
    obtain ⟨i, hi⟩ := Option.isSome_iff_exists.1 (Session.instance?_isSome.2 (h g hcurrent))
    have hlife : c.engine.lifecycle g = .ok i.lifecycle := by
      unfold Engine.lifecycle
      rw [hi]
    dsimp only
    rw [hlife]
    by_cases hplaying : i.lifecycle = .inProgress
    · have hstays : (c.engine.session.instance? g).any (·.lifecycle = .inProgress) = true := by
        simp [hi, hplaying]
      rw [Option.filter_some, if_pos hstays, hplaying, Option.some_or, ← hcurrent]
      rfl
    · have hleft : (c.engine.session.instance? g).any (·.lifecycle = .inProgress) = false := by
        simp [hi, hplaying]
      rw [Option.filter_some, hleft, if_neg Bool.false_ne_true, Option.none_or]
      change (unless decide (i.lifecycle = .inProgress) do modify _ : ConsoleStep Unit) c = _
      rw [decide_eq_false hplaying]
      rfl

/-- The graph that choices are taken from is in progress. -/
theorem Ready.playing (h : c.Ready) {g : String} (hg : c.stage = some g) :
    ∃ i, c.engine.session.instance? g = some i ∧ i.lifecycle = .inProgress := by
  rcases Option.or_eq_some_iff.1 hg with hstays | ⟨_, hcurrent⟩
  · obtain ⟨_, hplaying⟩ := Option.filter_eq_some_iff.1 hstays
    obtain ⟨i, hi, hlife⟩ := (Option.any_eq_true ..).1 hplaying
    exact ⟨i, hi, by simpa using hlife⟩
  · exact Session.playing_of_currentGraph h.unhindered.distinct hcurrent

variable {cfg : Settings}

theorem Ready.standing (h : c.Ready) (hcfg : cfg.Describes) :
    ({ c with current := c.stage } : Console).Standing cfg := by
  refine ⟨⟨h.unhindered, fun g hg => ?_⟩, fun g hg => ?_⟩
  · obtain ⟨i, hi, _⟩ := h.playing hg
    exact Session.instance?_isSome.1 (Option.isSome_iff_exists.2 ⟨i, hi⟩)
  · obtain ⟨i, hi, hlife⟩ := h.playing hg
    exact h.unhindered.presents_playing hcfg hi hlife

/-- What a console stands at is a matter of its engine and its graph. -/
theorem Standing.of_same (h : c.Standing cfg) {d : Console} (hengine : d.engine = c.engine)
    (hcurrent : d.current = c.current) : d.Standing cfg := by
  obtain ⟨⟨hunhindered, hlisted⟩, hshows⟩ := h
  rw [← hengine] at hunhindered hlisted hshows
  rw [← hcurrent] at hlisted hshows
  exact ⟨⟨hunhindered, hlisted⟩, hshows⟩

theorem presented_eq {g : String} {node : PresentedNode}
    (h : Engine.present cfg (some g) c.engine = .ok (some node) c.engine) :
    presented cfg g c = .ok node c := by
  have hlooked : onEngine (Engine.present cfg (some g)) c = .ok (some node) c := by
    unfold onEngine
    rw [h]
  unfold presented
  rw [run_bind hlooked]
  rfl

theorem node?_eq {g : String} {node : PresentedNode} (hg : c.current = some g)
    (h : Engine.present cfg (some g) c.engine = .ok (some node) c.engine) :
    c.node? cfg = some node := by
  rw [node?, hg, Option.bind_some, Engine.shown?, h]

theorem choices_of_none (hg : c.current = none) : c.choices cfg = [] := by
  rw [choices, node?, hg]
  rfl

theorem choices_eq {g : String} {node : PresentedNode} (hg : c.current = some g)
    (h : Engine.present cfg (some g) c.engine = .ok (some node) c.engine) :
    c.choices cfg = node.legal := by
  rw [choices, node?_eq hg h]
  rfl

/-- A console asks for a line: it has put out the node with its choices, the legal ones by their
numbers in front of the others. -/
structure Asks (cfg : Settings) (c p : Console) : Prop extends p.Standing cfg where
  engine : p.engine = c.engine
  current : p.current = c.stage
  input : p.input = c.input
  printed : ∃ heading illegal,
    p.printed = c.printed ++ (heading ++ numbered (p.choices cfg) ++ barred illegal)

theorem showNode_eq (h : c.Ready) (hcfg : cfg.Describes) : ∃ heading illegal,
    let p : Console := { c with current := c.stage }
    showNode cfg c = .ok () (p.said (heading ++ numbered (p.choices cfg) ++ barred illegal)) := by
  have hstanding := h.standing hcfg
  unfold showNode
  rw [run_bind (chooseCurrent_eq h.listed), run_get]
  generalize hp : ({ c with current := c.stage } : Console) = p at hstanding ⊢
  dsimp only
  cases hg : p.current with
  | none =>
    rw [choices_of_none hg]
    exact ⟨[_], [], print_eq p _⟩
  | some g =>
    obtain ⟨node, _, hpresent⟩ := hstanding.shows g hg
    rw [choices_eq hg hpresent]
    dsimp only
    rw [run_bind (presented_eq hpresent), printAll_eq]
    exact ⟨_, _, rfl⟩

theorem printed_prompt (c : Console) :
    ({ c with shown := .prompt :: c.shown } : Console).printed = c.printed := by
  unfold printed
  simp

/-- A console always gets as far as to ask for a line. -/
theorem Ready.asks (h : c.Ready) (hcfg : cfg.Describes) :
    ∃ p, ask cfg c = .ok () p ∧ Asks cfg c p := by
  obtain ⟨heading, illegal, hshown⟩ := showNode_eq h hcfg
  exact ⟨_, run_bind hshown, (h.standing hcfg).of_same rfl rfl, rfl, rfl, rfl, heading, illegal,
    (printed_prompt _).trans (printed_said _ _)⟩

end Console

end Questline
