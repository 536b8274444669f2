import Questline.Proofs.Course

/-! How far a graph is played stands in three places: in its instance, in the ledger, and in the
node that is active.  Every allowed act keeps the three in agreement. -/

namespace Questline

namespace Outcome

variable {cfg : Settings} {o : Outcome} {l m : Ledger}

/-- What an outcome does has nothing to do with how far graphs are played. -/
theorem onLedger_questState (o : Outcome) (cfg : Settings) (l : Ledger)
    (states : Assoc Atom Lifecycle) :
    o.onLedger cfg { l with questState := states } =
      (o.onLedger cfg l).map fun m => { m with questState := states } := by
  unfold onLedger
  split
  · rfl
  · rfl
  next faction _ _ =>
    obtain ⟨shifts, hshifts⟩ := Ledger.changeReputation_eq cfg faction o.amount
    simp only [hshifts, Except.map]
    congr 1
    clear hshifts
    induction shifts generalizing l with
    | nil => rfl
    | cons p rest ih => exact ih (l.shiftReputation cfg p.1 p.2)
  next flag _ _ =>
    simp only [Except.map, Ledger.setFlag, Ledger.hasFlag]
    by_cases hflag : l.flags.contains (.text flag) = true
    · simp [hflag]
    · simp [hflag]
  · rfl
  next companion _ _ =>
    simp only [Except.map, Ledger.meetCompanion, Ledger.knowsCompanion]
    by_cases hknown : Assoc.has l.relationship companion = true
    · simp [hknown]
    · simp [hknown, Ledger.setRelationship]
  · rfl
  · rfl

theorem questState_of_onLedger (h : o.onLedger cfg l = .ok m) : m.questState = l.questState := by
  have hsame := o.onLedger_questState cfg l l.questState
  rw [h] at hsame
  have hkept : m = { m with questState := l.questState } := Except.ok.inj hsame
  rw [hkept]

end Outcome

theorem Applied.questState {cfg : Settings} {o : Outcome} {s t : Session}
    (h : Applied cfg o s t) : t.ledger.questState = s.ledger.questState := by
  rw [h.ledger]
  cases hl : o.onLedger cfg s.ledger with
  | error why => rfl
  | ok m => exact Outcome.questState_of_onLedger hl

namespace Graph

/-- The start and all nodes that choices lead to are nodes of the graph. -/
structure Sound (g : Graph) : Prop where
  start : g.hasNode g.start = true
  next : ∀ n ∈ g.nodes, ∀ c ∈ n.choices, ∀ target, c.next = .node target →
    g.hasNode target = true

/-- Every chain from a choice leads to one of the graphs that there are. -/
def ChainsTo (g : Graph) (known : List String) : Prop :=
  ∀ n ∈ g.nodes, ∀ c ∈ n.choices, ∀ target, c.next = .graph target → target ∈ known

theorem node?_isSome {g : Graph} {id : String} : (g.node? id).isSome = g.hasNode id := by
  rw [Bool.eq_iff_iff, node?, hasNode, List.find?_isSome, List.any_eq_true]

theorem mem_of_node? {g : Graph} {id : String} {n : Node} (h : g.node? id = some n) :
    n ∈ g.nodes ∧ n.id = id :=
  ⟨List.mem_of_find?_eq_some h, by simpa using List.find?_some h⟩

end Graph

/-- An instance is where the ledger says, and stands at one of its nodes just while it is in
progress. -/
structure Instance.Placed (l : Ledger) (i : Instance) : Prop where
  recorded : i.lifecycle = l.stateOf i.graph.id
  active : i.activeNode.isSome = true ↔ i.lifecycle = .inProgress
  node : ∀ n, i.activeNode = some n → i.graph.hasNode n = true

namespace Session

/-- The graphs have distinct names and are sound. -/
structure Sound (s : Session) : Prop where
  distinct : s.graphNames.Nodup
  graphs : ∀ i ∈ s.instances, i.graph.Sound

structure Agrees (s : Session) : Prop where
  placed : ∀ i ∈ s.instances, i.Placed s.ledger
  registered : ∀ k ∈ Assoc.keys s.ledger.questState, ∃ i ∈ s.instances, k = .text i.graph.id

theorem Sound.congr {s t : Session} (h : s.Sound) (hg : t.graphs = s.graphs) : t.Sound := by
  refine ⟨graphNames_congr hg ▸ h.distinct, fun i hi => ?_⟩
  have hmem : i.graph ∈ s.graphs := hg ▸ List.mem_map_of_mem hi
  obtain ⟨j, hj, he⟩ := List.mem_map.1 hmem
  exact he ▸ h.graphs j hj

end Session

variable {cfg : Settings} {reported : Outcome → Prop} {s t : Session}

theorem Session.Sound.course (h : s.Sound) {acts : List Act}
    (hc : Course cfg reported s acts t) : t.Sound :=
  h.congr hc.graphs

theorem Session.Agrees.of_map {f : Instance → Instance} (h : s.Agrees)
    (hl : t.ledger.questState = s.ledger.questState) (hi : t.instances = s.instances.map f)
    (hf : ∀ i ∈ s.instances, (f i).graph = i.graph ∧ ((f i).Placed s.ledger)) : t.Agrees := by
  have hstate (g : String) : t.ledger.stateOf g = s.ledger.stateOf g := by
    rw [Ledger.stateOf, hl]
    rfl
  constructor
  · rw [hi]
    intro j hj
    obtain ⟨i, hmem, rfl⟩ := List.mem_map.1 hj
    obtain ⟨recorded, active, node⟩ := (hf i hmem).2
    exact ⟨recorded.trans (hstate _).symm, active, node⟩
  · rw [hl, hi]
    intro k hk
    obtain ⟨i, hmem, rfl⟩ := h.registered k hk
    exact ⟨f i, List.mem_map_of_mem hmem, by rw [(hf i hmem).1]⟩

theorem Session.Agrees.of_same (h : s.Agrees) (hl : t.ledger.questState = s.ledger.questState)
    (hi : t.instances = s.instances) : t.Agrees :=
  h.of_map hl (hi.trans (List.map_id _).symm) fun i hmem => ⟨rfl, h.placed i hmem⟩

/-- Only a graph in progress has an active node. -/
theorem Instance.Placed.inactive {l : Ledger} {i : Instance} (h : i.Placed l)
    (hlife : i.lifecycle ≠ .inProgress) : i.activeNode = none := by
  rw [← Option.isNone_iff_eq_none, ← Option.isSome_eq_false_iff, ← Bool.not_eq_true, h.active]
  exact hlife

theorem Instance.Placed.upon {l : Ledger} {i : Instance} (h : i.Placed l) (o : Outcome) :
    (i.upon o).Placed l :=
  ⟨by simpa using h.recorded, by simpa using h.active, by simpa using h.node⟩

theorem Session.Agrees.moved (h : s.Agrees) (hs : s.Sound) {g : String} {i : Instance}
    (hi : s.instance? g = some i) (state : Lifecycle) : (s.moved g state).Agrees := by
  constructor
  · intro j hj
    obtain ⟨k, hk, rfl⟩ := List.mem_map.1 hj
    have hplaced := h.placed k hk
    change Instance.Placed (s.ledger.setState g state) _
    by_cases hg : k.graph.id = g
    · rw [if_pos hg]
      refine ⟨by simp [Ledger.stateOf_setState, hg], by dsimp only; split <;> simp_all, ?_⟩
      intro n hn
      dsimp only at hn
      split at hn <;> cases hn
      exact (hs.graphs k hk).start
    · rw [if_neg hg]
      refine ⟨?_, hplaced.active, hplaced.node⟩
      rw [Ledger.stateOf_setState, if_neg hg]
      exact hplaced.recorded
  · intro k hk
    have hnames : ∀ j ∈ s.instances, ∃ j' ∈ (s.moved g state).instances,
        Atom.text j.graph.id = .text j'.graph.id := by
      intro j hj
      refine ⟨_, List.mem_map_of_mem hj, ?_⟩
      split <;> rfl
    rcases (Assoc.mem_keys_put state (Atom.exact_text g)).1 hk with hk | rfl
    · obtain ⟨j, hj, rfl⟩ := h.registered k hk
      exact hnames j hj
    · have hmem := Session.mem_of_instance? hi
      exact Session.id_of_instance? hi ▸ hnames i hmem

theorem Session.Agrees.entered (h : s.Agrees) (hs : s.Sound) {g n : String} {i : Instance}
    (hi : s.instance? g = some i) (hprogress : i.lifecycle = .inProgress)
    (hn : i.graph.hasNode n = true) :
    (s.updateInstance g fun i => { i with activeNode := some n }).Agrees := by
  refine h.of_map rfl rfl fun j hj => ?_
  have hplaced := h.placed j hj
  by_cases hg : j.graph.id = g
  · have he : s.instance? g = some j := hg ▸ Session.instance?_of_mem hs.distinct hj
    cases hi.symm.trans he
    rw [if_pos hg]
    exact ⟨rfl, hplaced.recorded, by simp [hprogress], fun m hm => by cases hm; exact hn⟩
  · rw [if_neg hg]
    exact ⟨rfl, hplaced⟩

/-- Every allowed act keeps the agreement. -/
theorem Session.Agrees.run (h : s.Agrees) (hs : s.Sound) {a : Act} (ha : a.Lawful reported s) :
    (a.run cfg s).Agrees := by
  have hmakes := Act.makes cfg ha
  generalize a.run cfg s = t at hmakes ⊢
  cases hmakes with
  | applies happlied =>
    exact h.of_map happlied.questState happlied.instances fun i hi =>
      ⟨i.upon_graph _, (h.placed i hi).upon _⟩
  | moves =>
    obtain ⟨_, i, hi, _⟩ := ha
    exact h.moved hs hi _
  | enters =>
    obtain ⟨_, i, hi, hprogress, hn⟩ := ha
    exact h.entered hs hi hprogress hn
  | _ => exact h.of_same rfl rfl

theorem Session.Agrees.course (h : s.Agrees) (hs : s.Sound) {acts : List Act}
    (hc : Course cfg reported s acts t) : t.Agrees :=
  (hc.keeps (I := fun s => s.Sound ∧ s.Agrees)
    (fun _ _ h ha => ⟨h.1.congr (Act.graphs_run ha), h.2.run h.1 ha⟩) ⟨hs, h⟩).2

end Questline
