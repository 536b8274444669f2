import Questline.Proofs.Writing

/-! A save of an engine is accepted by every engine over the same graphs, and leads to the same
state. -/

namespace Questline

namespace Session

variable {s t : Session} {flags : List Atom}

theorem eq_of_id (hs : s.graphNames.Nodup) {i j : Instance} (hi : i ∈ s.instances)
    (hj : j ∈ s.instances) (h : j.graph.id = i.graph.id) : j = i := by
  have hfound := instance?_of_mem hs hj
  rw [h, instance?_of_mem hs hi] at hfound
  exact (Option.some.inj hfound).symm

theorem mem_activeNodes {g n : String} : (g, n) ∈ s.activeNodes ↔
    ∃ i ∈ s.instances, i.graph.id = g ∧ i.activeNode = some n := by
  simp only [activeNodes, List.mem_filterMap, Option.map_eq_some_iff, Prod.mk.injEq]
  constructor
  · rintro ⟨i, hi, m, hm, hid, rfl⟩
    exact ⟨i, hi, hid, hm⟩
  · rintro ⟨i, hi, hid, hm⟩
    exact ⟨i, hi, n, hm, hid, rfl⟩

theorem get?_activeNodes (hs : s.graphNames.Nodup) {i : Instance} (hi : i ∈ s.instances) :
    Assoc.get? s.activeNodes i.graph.id = i.activeNode := by
  cases hn : i.activeNode with
  | some n =>
    exact Assoc.get?_of_mem (Assoc.exact _) (nodup_keys_activeNodes hs)
      (mem_activeNodes.2 ⟨i, hi, rfl, hn⟩)
  | none =>
    rw [Assoc.get?_eq_none_iff (Assoc.exact _)]
    intro hmem
    obtain ⟨⟨g, n⟩, hp, hg⟩ := List.mem_map.1 hmem
    obtain ⟨j, hj, hid, hjn⟩ := mem_activeNodes.1 hp
    cases eq_of_id hs hi hj (hid.trans hg)
    cases hn.symm.trans hjn

theorem contains_unlockedGraphs (hs : s.graphNames.Nodup) {i : Instance} (hi : i ∈ s.instances) :
    s.unlockedGraphs.contains i.graph.id = i.unlocked := by
  rw [Bool.eq_iff_iff, List.contains_iff_mem, unlockedGraphs, List.mem_map]
  constructor
  · rintro ⟨j, hj, hid⟩
    obtain ⟨hj, hunlocked⟩ := List.mem_filter.1 hj
    exact eq_of_id hs hi hj hid ▸ hunlocked
  · exact fun hunlocked => ⟨i, List.mem_filter.2 ⟨hi, hunlocked⟩, rfl⟩

theorem get?_states (hs : s.graphNames.Nodup) {i : Instance} (hi : i ∈ s.instances) :
    Assoc.get? (s.instances.map fun i => (i.graph.id, i.lifecycle)) i.graph.id =
      some i.lifecycle := by
  refine Assoc.get?_of_mem (Assoc.exact _) ?_ (List.mem_map_of_mem hi)
  rw [Assoc.keys, List.map_map]
  exact hs

/-- What has been written down about a session fits every session over the same graphs. -/
theorem saved_fits (hs : s.Agrees) (hsound : s.Sound) (ht : t.graphs = s.graphs) :
    (s.saved flags).Fits t := by
  have known {i : Instance} (hi : i ∈ s.instances) :
      ∃ j, t.instance? i.graph.id = some j ∧ j.graph = i.graph := by
    have hfound := instance?_congr ht i.graph.id
    rw [instance?_of_mem hsound.distinct hi, Option.map_some, Option.map_eq_some_iff] at hfound
    exact hfound
  have isSome {i : Instance} (hi : i ∈ s.instances) : (t.instance? i.graph.id).isSome = true := by
    obtain ⟨j, hj, _⟩ := known hi
    rw [hj]
    rfl
  constructor
  · intro k a hk
    obtain ⟨i, hi, rfl⟩ := hs.registered k (Assoc.mem_keys_of_mem hk)
    exact Option.isSome_iff_exists.2 ⟨_, get?_states hsound.distinct hi⟩
  · intro g state hg
    obtain ⟨i, hi, heq⟩ := List.mem_map.1 hg
    cases heq
    exact isSome hi
  · intro g state hg
    obtain ⟨i, hi, heq⟩ := List.mem_map.1 hg
    cases heq
    exact (hs.placed i hi).recorded.symm
  · intro g hg
    obtain ⟨i, hi, heq⟩ := List.mem_map.1 hg
    rw [Prod.mk.injEq] at heq
    obtain ⟨rfl, hlife⟩ := heq
    change (Assoc.get? s.activeNodes i.graph.id).isSome = true
    rw [get?_activeNodes hsound.distinct hi]
    exact (hs.placed i hi).active.2 hlife
  · intro g n hg
    obtain ⟨i, hi, rfl, hn⟩ := mem_activeNodes.1 hg
    obtain ⟨j, hj, hgraph⟩ := known hi
    have hlife := (hs.placed i hi).active.1 (by rw [hn]; rfl)
    refine ⟨j, hj, ?_, hgraph ▸ (hs.placed i hi).node n hn⟩
    rw [← hlife]
    exact get?_states hsound.distinct hi
  · intro g hg
    obtain ⟨i, hi, rfl⟩ := List.mem_map.1 hg
    exact isSome (List.mem_filter.1 hi).1

theorem instances_saved (hs : s.Agrees) (hsound : s.Sound) (ht : t.graphs = s.graphs) :
    t.instances.map ((s.saved flags).instanceFor (s.saved flags).ledger) = s.instances := by
  have hgraphs : t.instances.map ((s.saved flags).instanceFor (s.saved flags).ledger) =
      s.instances.map ((s.saved flags).instanceFor (s.saved flags).ledger) := by
    have hmap (u : Session) : u.instances.map ((s.saved flags).instanceFor (s.saved flags).ledger) =
        u.graphs.map fun graph => (s.saved flags).instanceFor (s.saved flags).ledger { graph } := by
      rw [graphs, List.map_map]
      rfl
    rw [hmap, hmap, ht]
  rw [hgraphs]
  conv_rhs => rw [← List.map_id s.instances]
  refine List.map_congr_left fun i hi => ?_
  have hactive := get?_activeNodes hsound.distinct hi
  have hunlocked := contains_unlockedGraphs hsound.distinct hi
  have hlife := (hs.placed i hi).recorded
  unfold Saved.instanceFor
  change Instance.mk i.graph (s.ledger.stateOf i.graph.id) (Assoc.get? s.activeNodes i.graph.id)
    (s.unlockedGraphs.contains i.graph.id) = i
  rw [hactive, hunlocked, ← hlife]

end Session

namespace Engine

variable {e e' : Engine}

/-- An engine whose flags can be sorted is written down, and taken over by any other one over the
same graphs. -/
theorem restore_sorted (hs : e.session.Agrees) (hsound : e.session.Sound)
    (hledger : e.session.ledger.Distinct) (hlog : e.session.log.Ordered) {flags : List Atom}
    (hsort : Atom.sort e.session.ledger.flags = .ok flags)
    (hgraphs : e'.session.graphs = e.session.graphs) :
    ∃ data, e.serialize = .ok data ∧ restore data e' =
      .ok () { session := { e'.session with
        ledger := { e.session.ledger with flags }
        log := e.session.log
        instances := e.session.instances
        ending := e.session.ending }, diagnostics := [] } := by
  obtain ⟨data, hdata, hread⟩ := Session.ofValue_sorted hledger hsort hlog hsound.distinct
  have haccept : accept data e'.session = .ok (e.session.saved flags) := by
    unfold accept
    rw [hread]
    dsimp only
    rw [Saved.check_eq_ok.2 (Session.saved_fits hs hsound hgraphs)]
  refine ⟨data, hdata, ?_⟩
  rw [restore_of_accept haccept hlog, restoredSession, Session.instances_saved hs hsound hgraphs]
  rfl

/-- An engine with a tidy ledger is written down, and taken over by any other one over the same
graphs. -/
theorem restore_serialize (hs : e.session.Agrees) (hsound : e.session.Sound)
    (hstorable : e.session.Storable) (hgraphs : e'.session.graphs = e.session.graphs) :
    ∃ flags data, Atom.sort e.session.ledger.flags = .ok flags ∧
      flags.Perm e.session.ledger.flags ∧ e.serialize = .ok data ∧ restore data e' =
        .ok () { session := { e'.session with
          ledger := { e.session.ledger with flags }
          log := e.session.log
          instances := e.session.instances
          ending := e.session.ending }, diagnostics := [] } := by
  obtain ⟨flags, hsort, hperm, _⟩ := Atom.sort_texts hstorable.ledger.texts
  obtain ⟨data, hdata, hrestore⟩ :=
    restore_sorted hs hsound hstorable.ledger.distinct hstorable.log hsort hgraphs
  exact ⟨flags, data, hsort, hperm, hdata, hrestore⟩

end Engine

end Questline
