import Questline.Proofs.Dispatch
import Questline.Proofs.Scripts
import Questline.Session.Walk

/-! Playing graphs is a course of allowed acts that goes by the scripts: whenever a graph is moved,
its state is still the one that was checked, whatever has been applied in between.  Only a pass over
the availability of graphs, and a chain to a graph that is missing, can break it off. -/

namespace Questline

/-- Everything that playing may need is there: facts can be had and judged, and chains lead to
registered graphs. -/
structure Session.Sure (s : Session) : Prop where
  answering : s.host.Answering
  judgeable : ∀ g ∈ s.graphs, ∀ r ∈ g.requirements, r.Judgeable
  chained : ∀ g ∈ s.graphs, g.ChainsTo s.graphNames

/-- What acts inside an entry make of a session, as far as their outline tells. -/
structure Session.Leads (s : Session) (outlined : List Act) (t : Session) : Prop where
  working : t.Working
  graphs : t.graphs = s.graphs
  ending : t.ending = endingOf s.ending outlined
  host : s.host.FailsAlike t.host

/-- A step that stays inside the entry, whether it succeeds or fails. -/
def Walks {α : Type} (cfg : Settings) (reported : Outcome → Prop) (x : Step α) (s : Session)
    (Q : List Act → α → Session → Prop) (E : List Act → Prop) : Prop :=
  Plays cfg reported x s (fun acts a t => (∀ b ∈ acts, b.isInner = true) ∧ Q (outline acts) a t)
    fun acts _ => (∀ b ∈ acts, b.isInner = true) ∧ E (outline acts)

def Session.Lists (s : Session) (i : Instance) : Prop :=
  ∃ j, s.instance? i.graph.id = some j ∧ j.graph = i.graph

/-- A graph is in progress. -/
def Session.IsPlaying (s : Session) (g : Graph) : Prop :=
  ∃ j, s.instance? g.id = some j ∧ j.graph = g ∧ j.lifecycle = .inProgress

namespace Session

variable {s t : Session} {i : Instance} {outlined : List Act}

theorem Has.lists (h : s.Has i) : s.Lists i := by
  obtain ⟨j, hj, hgraph, _⟩ := h
  exact ⟨j, hj, hgraph⟩

theorem Has.isPlaying (h : s.Has i) (hi : i.lifecycle = .inProgress) : s.IsPlaying i.graph := by
  obtain ⟨j, hj, hgraph, hlife, _⟩ := h
  exact ⟨j, hj, hgraph, hlife.trans hi⟩

theorem Lists.congr (h : s.Lists i) (hg : t.graphs = s.graphs) : t.Lists i := by
  obtain ⟨j, hj, hgraph⟩ := h
  have hsame := instance?_congr hg i.graph.id
  rw [hj, Option.map_some, Option.map_eq_some_iff] at hsame
  obtain ⟨k, hk, he⟩ := hsame
  exact ⟨k, hk, he.trans hgraph⟩

theorem Sure.of_alike (h : s.Sure) (hg : t.graphs = s.graphs) (hhost : s.host.FailsAlike t.host) :
    t.Sure :=
  ⟨hhost.answering h.answering, hg ▸ h.judgeable, graphNames_congr hg ▸ hg ▸ h.chained⟩

theorem Leads.sure (h : s.Leads outlined t) (hs : s.Sure) : t.Sure := hs.of_alike h.graphs h.host

end Session

variable {cfg : Settings} {reported : Outcome → Prop} {s t : Session}

theorem Course.leads {acts : List Act} (h : Course cfg reported s acts t)
    (hinner : ∀ a ∈ acts, a.isInner = true) (hs : s.Working) : s.Leads (outline acts) t := by
  refine ⟨hs.course h hinner, h.graphs, by rw [h.ending_eq, endingOf_outline], h.host_alike ?_⟩
  rintro a ha host rfl
  cases hinner _ ha

namespace Walks

variable {α β : Type} {x : Step α} {f : α → Step β} {Q Q' : List Act → α → Session → Prop}
variable {E E' : List Act → Prop}

theorem mono (h : Walks cfg reported x s Q E) (hQ : ∀ l a t, Q l a t → Q' l a t)
    (hE : ∀ l, E l → E' l) : Walks cfg reported x s Q' E' :=
  Plays.mono h (fun _ _ _ hq => ⟨hq.1, hQ _ _ _ hq.2⟩) fun _ _ he => ⟨he.1, hE _ he.2⟩

theorem pure {a : α} (h : Q [] a s) : Walks cfg reported (pure a) s Q E :=
  Plays.pure ⟨by simp, h⟩

theorem throw {why : Fault} (h : E []) : Walks cfg reported (throw why : Step α) s Q E :=
  Plays.throw ⟨by simp, h⟩

theorem get_bind {f : Session → Step β} {R : List Act → β → Session → Prop}
    (h : Walks cfg reported (f s) s R E) : Walks cfg reported (get >>= f) s R E := h

theorem bind {R : List Act → β → Session → Prop} (hx : Walks cfg reported x s Q E')
    (hs : s.Working) (hE : ∀ l, E' l → E l)
    (hf : ∀ l a t, s.Leads l t → Q l a t →
      Walks cfg reported (f a) t (fun l' => R (l ++ l')) fun l' => E (l ++ l')) :
    Walks cfg reported (x >>= f) s R E := by
  refine Plays.bind (hx.mono (fun _ _ _ h => h) hE) fun acts a t hc ⟨hinner, hq⟩ => ?_
  refine Plays.mono (hf (outline acts) a t (hc.leads hinner hs) hq)
    (fun acts' _ _ h => ⟨?_, by simpa using h.2⟩) fun acts' _ h => ⟨?_, by simpa using h.2⟩
  all_goals exact fun b hb => (List.mem_append.1 hb).elim (hinner b) (h.1 b)

theorem congr {y : Step α} (hxy : x s = y s) (h : Walks cfg reported y s Q E) :
    Walks cfg reported x s Q E := Plays.congr hxy h

/-- A single act that goes on with the story. -/
theorem act {a : Act} {x : Step Unit} (ha : a.Lawful reported s) (hinner : a.isInner = true)
    (hstride : a.isStride = true) (hx : x s = .ok () (a.run cfg s)) :
    Walks cfg reported x s (fun l _ t => l = [a] ∧ t = a.run cfg s) fun _ => False :=
  Plays.done ha hx ⟨by simpa using hinner, outline_cons hstride, rfl⟩

end Walks

namespace Step

theorem walks_refreshAvailability (hs : s.Working) :
    Walks cfg reported refreshAvailability s (fun l _ _ => l = [])
      fun l => l = [] ∧ ¬ s.Sure := by
  have hpass : Plays cfg reported refreshAvailability s _ _ := plays_refreshAvailability hs
  have hsure : Ends refreshAvailability s (fun _ _ => s.Sure → True) fun _ _ => ¬ s.Sure := by
    refine Ends.imp fun hsure => ?_
    have hjudged : ∀ i ∈ s.instances, ∀ r ∈ i.graph.requirements, r.ErrsWithin fun _ => False :=
      fun i hi r hr => (hsure.judgeable i.graph (List.mem_map_of_mem hi) r hr).errsWithin _
    exact (Guarded.promote (fun _ _ => .call_answering) hjudged s.ledger s hsure.answering).mono
      (fun _ _ _ => trivial) fun _ _ h => h
  exact (hpass.and hsure).mono
    (fun _ _ ⟨⟨acts, hc, hcalm⟩, _⟩ => ⟨acts, hc, hcalm.inner, hcalm.outline_eq⟩)
    fun _ _ ⟨⟨acts, hc, hcalm⟩, hno⟩ => ⟨acts, hc, hcalm.inner, hcalm.outline_eq, hno⟩

theorem walks_report {message : String} (hm : isInternal message = false) :
    Walks cfg reported (report message) s (fun l _ _ => l = []) fun _ => False :=
  (plays_report hm).mono (fun _ _ _ h => ⟨h.inner, h.outline_eq⟩) fun _ _ h => h.elim

/-- Applied outcomes leave every graph as it is that has become available. -/
theorem walks_applyOutcomes {c : Cause} {outcomes : List Outcome} (hs : s.Working)
    (ho : ∀ o ∈ outcomes, c.Offers reported s o) :
    Walks cfg reported (applyOutcomes cfg {} outcomes) s (fun l _ t => l = c.script outcomes ∧
      ∀ i : Instance, i.lifecycle ≠ .unavailable → s.Has i → t.Has i) fun _ => False := by
  unfold Walks Plays
  refine Ends.mono (plays_applyOutcomes hs ho) (fun _ t ⟨acts, hc, hcalm⟩ => ?_)
    fun _ _ ⟨_, _, he⟩ => he.elim
  exact ⟨acts, hc, hcalm.inner, hcalm.outline_script, fun i hi => hc.has_kept hcalm hi⟩

theorem walks_thenApply {x : Step Unit} {a : Act} {c : Cause} {outcomes : List Outcome}
    (hs : s.Working) (ha : a.Lawful reported s) (hinner : a.isInner = true)
    (hstride : a.isStride = true) (hx : x s = .ok () (a.run cfg s))
    (ho : ∀ o ∈ outcomes, c.Offers reported (a.run cfg s) o) :
    Walks cfg reported (x >>= fun _ => applyOutcomes cfg {} outcomes) s
      (fun l _ t => l = a :: c.script outcomes ∧
        ∀ i : Instance, i.lifecycle ≠ .unavailable → (a.run cfg s).Has i → t.Has i)
      fun _ => False := by
  refine (Walks.act ha hinner hstride hx).bind hs (fun _ h => h) fun l _ t ht ⟨hl, hrun⟩ => ?_
  subst hl hrun
  exact (walks_applyOutcomes ht.working ho).mono (fun _ _ _ h => ⟨congrArg (a :: ·) h.1, h.2⟩)
    fun _ h => h

theorem walks_failGraph {i : Instance} (hs : s.Working) (hi : s.Lists i)
    (hchange : ∀ j, s.instance? i.graph.id = some j → Change s j .failed) :
    Walks cfg reported (failGraph cfg i) s (fun l _ _ => l = i.graph.failing)
      fun _ => False := by
  obtain ⟨j, hj, hgraph⟩ := hi
  have hlawful : (Act.moves i.graph.id .failed).Lawful reported s :=
    ⟨hs.entry, j, hj, hchange j hj⟩
  have hmoved := Act.instance?_run cfg hlawful i.graph.id
  rw [hj] at hmoved
  refine (walks_thenApply (c := .failure i.graph.id) hs hlawful rfl rfl rfl fun o ho => ?_).mono
    (fun _ _ _ h => h.1) fun _ h => h
  exact ⟨_, hmoved, by simp [Act.onInstance, hgraph], by simpa [hgraph] using ho⟩

theorem walks_completeGraph {i : Instance} (hs : s.Working) (hi : s.IsPlaying i.graph) :
    Walks cfg reported (completeGraph cfg i) s (fun l _ _ => l = i.graph.completing)
      fun _ => False := by
  obtain ⟨j, hj, hgraph, hlife⟩ := hi
  have hlawful : (Act.moves i.graph.id .completed).Lawful reported s :=
    ⟨hs.entry, j, hj, .completed hlife⟩
  have hmoved := Act.instance?_run cfg hlawful i.graph.id
  rw [hj] at hmoved
  refine (walks_thenApply (c := .completion i.graph.id) hs hlawful rfl rfl rfl
    fun o ho => ?_).mono (fun _ _ _ h => h.1) fun _ h => h
  exact ⟨_, hmoved, by simp [Act.onInstance, hgraph], by simpa [hgraph] using ho⟩

/-- Entering a node applies its entry outcomes. -/
theorem enterNode_eq {g n : String} {i : Instance} {nd : Node} (hi : s.instance? g = some i)
    (hn : i.graph.node? n = some nd) : enterNode cfg g n s =
      ((modify fun s => s.updateInstance g fun i => { i with activeNode := some n }) >>= fun _ =>
        applyOutcomes cfg {} nd.entryOutcomes : Step Unit) s := by
  have hentered : (s.updateInstance g fun i => { i with activeNode := some n }).instance? g =
      some { i with activeNode := some n } :=
    Session.instance?_updateInstance_self (f := fun i => { i with activeNode := some n })
      (fun _ => rfl) hi
  unfold enterNode instanceOf nodeOf
  simp only [run_modify, run_get, bind_assoc, hentered, pure_bind, hn]

theorem walks_enterNode {g n : String} {i : Instance} (hs : s.Working)
    (hi : s.instance? g = some i) (hlife : i.lifecycle = .inProgress)
    (hn : i.graph.hasNode n = true) : Walks cfg reported (enterNode cfg g n) s
      (fun l _ t => (∃ nd ∈ i.graph.nodes, nd.id = n ∧ l = i.graph.entering nd) ∧
        t.IsPlaying i.graph) fun _ => False := by
  rw [← Graph.node?_isSome, Option.isSome_iff_exists] at hn
  obtain ⟨nd, hnd⟩ := hn
  have hid := Session.id_of_instance? hi
  have hmem := Graph.mem_of_node? hnd
  have hlawful : (Act.enters g n).Lawful reported s :=
    ⟨hs.entry, i, hi, hlife, by rw [← Graph.node?_isSome, hnd]; rfl⟩
  have hentered := Act.instance?_run cfg hlawful g
  rw [hi, Option.map_some, Act.onInstance, if_pos hid] at hentered
  refine .congr (enterNode_eq hi hnd) ((walks_thenApply (c := .entry g) hs hlawful rfl rfl rfl
    fun o ho => ⟨_, nd, hentered, hlife, hmem.1, by rw [hmem.2], ho⟩).mono
      (fun l _ t happlied => ⟨⟨nd, hmem.1, hmem.2, ?_⟩, ?_⟩) fun _ h => h)
  · rw [happlied.1, Graph.entering, hid, hmem.2]
  · exact (happlied.2 { i with activeNode := some n } (by simp [hlife])
      (.of_instance? hentered)).isPlaying hlife

theorem enterNode_again (g n : String) : enterNode cfg g n
      (s.updateInstance g fun i => { i with activeNode := some i.graph.start }) =
    enterNode cfg g n s := by
  have hagain := s.updateInstance_updateInstance
    (f := fun i => { i with activeNode := some i.graph.start }) (fun _ => rfl) g
    fun i => { i with activeNode := some n }
  unfold enterNode
  rw [run_modify, run_modify, hagain]
  rfl

theorem walks_startGraph {i : Instance} (hs : s.Working) (hi : s.Lists i)
    (hchange : ∀ j, s.instance? i.graph.id = some j → Change s j .inProgress) :
    Walks cfg reported (startGraph cfg i) s
      (fun l _ t => (∃ nd ∈ i.graph.nodes, nd.id = i.graph.start ∧ l = i.graph.beginning nd) ∧
        t.IsPlaying i.graph) fun _ => False := by
  obtain ⟨j, hj, hgraph⟩ := hi
  have hlawful : (Act.moves i.graph.id .inProgress).Lawful reported s :=
    ⟨hs.entry, j, hj, hchange j hj⟩
  have hmoved := Act.instance?_run cfg hlawful i.graph.id
  rw [hj] at hmoved
  have hbegun : startGraph cfg i s = ((Act.moves i.graph.id .inProgress).step cfg >>= fun _ =>
      enterNode cfg i.graph.id i.graph.start : Step Unit) s :=
    (enterNode_again i.graph.id i.graph.start).symm
  refine .congr hbegun ((Walks.act hlawful rfl rfl rfl).bind hs (fun _ h => h)
    fun l _ t ht ⟨hl, hrun⟩ => ?_)
  subst hl hrun
  have hstart : j.graph.hasNode i.graph.start = true :=
    hgraph ▸ (hs.sound.graphs j (Session.mem_of_instance? hj)).start
  refine (walks_enterNode ht.working hmoved (by simp [Act.onInstance, hgraph])
    (by rwa [Act.onInstance_graph])).mono (fun l' _ u h => ?_) fun _ h => h
  rw [Act.onInstance_graph, hgraph] at h
  obtain ⟨⟨nd, hmem, hid, rfl⟩, hplaying⟩ := h
  exact ⟨⟨nd, hmem, hid, rfl⟩, hplaying⟩

theorem stateNow_eq {i j : Instance} (hj : s.instance? i.graph.id = some j) :
    stateNow i s = .ok j.lifecycle s := by
  unfold stateNow
  rw [run_get, hj]
  rfl

theorem ends_stateNow_bind {α : Type} {i j : Instance} (hj : s.instance? i.graph.id = some j)
    {f : Lifecycle → Step α} {Q : α → Session → Prop} {E : Fault → Session → Prop} :
    Ends (stateNow i >>= f) s Q E ↔ Ends (f j.lifecycle) s Q E := by
  rw [ends_bind]
  unfold Ends
  rw [stateNow_eq hj]

theorem walks_stateNow {i : Instance} (hi : s.Lists i) :
    Walks cfg reported (stateNow i) s (fun l state t => l = [] ∧ t = s ∧
      ∃ j, s.instance? i.graph.id = some j ∧ j.lifecycle = state) fun _ => False := by
  obtain ⟨j, hj, _⟩ := hi
  exact .congr (y := Pure.pure j.lifecycle) (stateNow_eq hj) (Walks.pure ⟨rfl, rfl, j, hj, rfl⟩)

/-- Once an ending has been triggered, a graph in progress comes to its end. -/
theorem walks_finishIfEnded {i : Instance} (hs : s.Working) (hi : s.IsPlaying i.graph) :
    Walks cfg reported (finishIfEnded cfg i) s (fun l ended t =>
      l = i.graph.closing s.ending ∧ ended = s.ending.isSome ∧ (ended = false → t = s))
      fun _ => False := by
  unfold finishIfEnded
  refine .get_bind ?_
  split
  next hending => exact .pure ⟨by rw [hending]; rfl, by simp [hending], fun _ => rfl⟩
  next ending failed hending =>
    obtain ⟨j, hj, hgraph, hlife⟩ := hi
    have hlists : s.Lists i := ⟨j, hj, hgraph⟩
    refine (walks_stateNow hlists).bind hs (fun _ h => h)
      fun l state t _ ⟨hl, ht, k, hk, hstate⟩ => ?_
    subst hl ht
    have hsame (k : Instance) (hk : t.instance? i.graph.id = some k) : k = j :=
      Option.some.inj (hk.symm.trans hj)
    rw [if_pos (hstate.symm.trans (hsame k hk ▸ hlife))]
    cases failed with
    | true =>
      refine (walks_failGraph hs hlists fun k hk => .failed (hsame k hk ▸ hlife)).bind hs
        (fun _ h => h) fun l' _ u _ hl' => .pure ?_
      exact ⟨by simp [hl', hending, Graph.closing], by simp [hending], by simp⟩
    | false =>
      refine (walks_completeGraph hs ⟨j, hj, hgraph, hlife⟩).bind hs
        (fun _ h => h) fun l' _ u _ hl' => .pure ?_
      exact ⟨by simp [hl', hending, Graph.closing], by simp [hending], by simp⟩

/-- A graph that can be started is begun, and ends at once if that triggers an ending. -/
theorem walks_begin {i : Instance} (hs : s.Working) (hi : s.Lists i)
    (hchange : ∀ j, s.instance? i.graph.id = some j → Change s j .inProgress) :
    Walks cfg reported (do
        startGraph cfg i
        let _ ← finishIfEnded cfg i) s (fun l _ _ => i.graph.Begins s.ending l)
      fun _ => False := by
  refine (walks_startGraph hs hi hchange).bind hs (fun _ h => h)
    fun l _ t ht ⟨⟨nd, hmem, hid, hl⟩, hplaying⟩ => ?_
  refine (walks_finishIfEnded ht.working hplaying).bind ht.working (fun _ h => h)
    fun l' _ u _ ⟨hl', _⟩ => .pure ?_
  subst hl hl'
  rw [List.append_nil, ht.ending]
  exact .mk hmem hid

theorem change_of_canStart {i : Instance}
    (hcan : s.canStart i.graph.id = true) (j : Instance)
    (hj : s.instance? i.graph.id = some j) : Change s j .inProgress := by
  rw [Session.canStart, hj] at hcan
  simp only [Bool.and_eq_true, Bool.or_eq_true, decide_eq_true_eq] at hcan
  exact hcan.2.elim .started fun h => .restarted h.1 h.2

theorem walks_chainTo (hs : s.Working) {g : String} (hg : s.Sure → g ∈ s.graphNames) :
    Walks cfg reported (chainTo cfg g) s
      (fun l _ _ => l = [] ∨ ∃ h ∈ s.graphs, h.id = g ∧ h.Begins s.ending l)
      fun l => l = [] ∧ ¬ s.Sure := by
  unfold chainTo
  refine .get_bind ?_
  split
  next hnone =>
    refine .throw ⟨rfl, fun hsure => ?_⟩
    obtain ⟨i, hi, hid⟩ := List.mem_map.1 (hg hsure)
    exact absurd (by simpa using hid) (List.find?_eq_none.1 hnone i hi)
  next i hi =>
    have hid := Session.id_of_instance? hi
    subst hid
    have hlists := (Session.Has.of_instance? hi).lists
    have hmem : i.graph ∈ s.graphs := List.mem_map_of_mem (Session.mem_of_instance? hi)
    refine (walks_refreshAvailability hs).bind hs (fun _ h => h) fun l _ t ht hl => ?_
    subst hl
    have htlists := hlists.congr ht.graphs
    refine .get_bind ?_
    split
    next hcan =>
      refine .congr (y := (do
          startGraph cfg i
          let _ ← finishIfEnded cfg i) >>= fun _ => do
            pure (if (← stateNow i) = .inProgress then some i.graph.id else none)) (by simp) ?_
      refine (walks_begin ht.working htlists (change_of_canStart hcan)).bind ht.working nofun
        fun l' _ u hu hbegun => ?_
      refine (walks_stateNow (htlists.congr hu.graphs)).bind hu.working nofun
        fun l'' _ _ _ ⟨hl'', _⟩ => .pure (.inr ⟨i.graph, hmem, rfl, ?_⟩)
      rw [ht.ending] at hbegun
      simpa [hl''] using hbegun
    next =>
      refine (walks_stateNow htlists).bind ht.working nofun fun l' state u hu ⟨hl', _⟩ => ?_
      refine (walks_report (isInternal_of_head (by simp [toString]))).bind hu.working nofun
        fun l'' _ v _ hl'' => .pure (.inl ?_)
      simp [hl', hl'']

/-- A choice is followed as its script says, also when that is broken off on the way. -/
theorem walks_advance {i : Instance} {n : Node} {c : Choice} (hs : s.Working)
    (hending : s.ending = none) (hi : s.instance? i.graph.id = some i)
    (hlife : i.lifecycle = .inProgress) (hn : n ∈ i.graph.nodes) (hnode : i.activeNode = some n.id)
    (hc : c ∈ n.choices) :
    Walks cfg reported (advance cfg i c) s (fun l _ _ => c.Follows s.graphs i.graph l)
      fun l => c.Follows s.graphs i.graph l ∧ ¬ s.Sure := by
  have hmem : i.graph ∈ s.graphs := List.mem_map_of_mem (Session.mem_of_instance? hi)
  have hsound := hs.sound.graphs i (Session.mem_of_instance? hi)
  unfold advance
  refine (walks_applyOutcomes (c := .choice i.graph.id) hs fun o ho =>
    ⟨i, n, c, hi, hlife, hn, hnode, hc, ho⟩).bind hs nofun fun l _ t ht ⟨hl, hkept⟩ => ?_
  have hl : l = i.graph.taking c := hl
  subst hl
  have hhas := hkept i (by simp [hlife]) (.of_instance? hi)
  have htending := ht.ending
  rw [hending] at htending
  refine (walks_finishIfEnded ht.working (hhas.isPlaying hlife)).bind ht.working nofun
    fun l' ended u hu ⟨hl', hended, hsame⟩ => ?_
  subst hl'
  cases ended with
  | true =>
    refine .pure ?_
    rw [List.append_nil, htending]
    exact .ended (by rw [← htending, ← hended])
  | false =>
    have hopen : endingOf none (i.graph.taking c) = none := by
      simpa [← htending] using hended.symm
    obtain rfl := hsame rfl
    rw [htending, hopen]
    simp only [Graph.closing, List.nil_append, Bool.false_eq_true, if_false]
    obtain ⟨j, hj, hgraph, hjlife, _⟩ := hhas
    have hplaying : u.IsPlaying i.graph := ⟨j, hj, hgraph, hjlife.trans hlife⟩
    split
    next target hnext =>
      have hhere : j.graph.hasNode target = true := hgraph ▸ hsound.next n hn c hc target hnext
      refine (walks_enterNode ht.working hj (hjlife.trans hlife) hhere).bind ht.working nofun
        fun l _ v hv ⟨⟨nd, hnd, hid, hl⟩, hplaying⟩ => ?_
      rw [hgraph] at hnd hl hplaying
      refine (walks_finishIfEnded hv.working hplaying).bind hv.working nofun
        fun l' _ _ _ ⟨hl', _⟩ => .pure ?_
      have hentered : c.Follows s.graphs i.graph _ := .entered hopen (hid ▸ hnext) hnd
      rw [Graph.closed, endingOf_append, ← htending, ← hl, ← hv.ending, ← hl'] at hentered
      simpa using hentered
    next target hnext =>
      have hcompleted : c.Follows s.graphs i.graph (i.graph.taking c ++ i.graph.completing) :=
        .completed hopen (by simp [hnext])
      refine (walks_completeGraph ht.working hplaying).bind ht.working nofun
        fun l _ v hv hl => .get_bind ?_
      have hvgraphs := hv.graphs.trans ht.graphs
      subst hl
      split
      next hgoing =>
        have hnone : v.ending = none := by simpa using hgoing
        refine (walks_chainTo hv.working fun hsure =>
          hsure.chained i.graph (hvgraphs ▸ hmem) n hn c hc target hnext).mono
            (fun l' _ _ h => ?_) fun l' ⟨hl', hno⟩ => ?_
        · rcases h with rfl | ⟨h, hh, rfl, hbegun⟩
          · simpa using hcompleted
          · rw [hnone] at hbegun
            have hopen' : endingOf none (i.graph.taking c ++ i.graph.completing) = none := by
              rw [endingOf_append, ← htending, ← hv.ending, hnone]
            simpa using Choice.Follows.chained hopen' hnext (hvgraphs ▸ hh) hbegun
        · subst hl'
          exact ⟨by simpa using hcompleted, fun hsure => hno (hv.sure (ht.sure hsure))⟩
      next => exact .pure (by simpa using hcompleted)
    next hnext =>
      refine (walks_completeGraph ht.working hplaying).bind ht.working nofun
        fun l _ _ _ hl => .pure ?_
      have hcompleted : c.Follows s.graphs i.graph (i.graph.taking c ++ i.graph.completing) :=
        .completed hopen (by simp [hnext])
      subst hl
      simpa using hcompleted

end Step

end Questline
