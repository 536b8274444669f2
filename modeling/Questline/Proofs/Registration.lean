import Questline.Proofs.Connections
import Questline.Proofs.Results
import Questline.Engine

/-! Only sound graphs with new names are registered.  Nothing has happened in them yet, so the
agreement holds of them from the start. -/

namespace Questline

namespace Problems

theorem add_eq_nil {all : Problems} {graph : String} {found : List Problem}
    (h : all.add graph found = []) : all = [] ∧ found = [] := by
  unfold add at h
  split at h
  next hfound => exact ⟨h, List.isEmpty_iff.1 hfound⟩
  next =>
    have hkey := (Assoc.mem_keys_put (m := all) (Assoc.getD all graph [] ++ found)
      (Assoc.exact graph)).2 (.inr rfl)
    rw [h] at hkey
    cases hkey

theorem foldl_add_of_nil {α : Type} {f : String × α → List Problem} {l : Assoc String α}
    (h : ∀ p ∈ l, f p = []) (problems : Problems) :
    l.foldl (fun problems p => problems.add p.1 (f p)) problems = problems := by
  induction l with
  | nil => rfl
  | cons p rest ih =>
    rw [List.forall_mem_cons] at h
    rw [List.foldl_cons, h.1]
    exact ih h.2

end Problems

namespace Graph

theorem of_collect {taken : List String} {graphs : List Graph} {byId result : Assoc String Graph}
    {problems : Problems} (h : collect taken graphs byId problems = (result, [])) :
    problems = [] ∧ result = byId ++ graphs.map (fun g => (g.id, g)) ∧
      (∀ g ∈ graphs, g.id ∉ taken) ∧ ((Assoc.keys byId).Nodup → (Assoc.keys result).Nodup) := by
  induction graphs generalizing byId problems with
  | nil =>
    cases h
    simp
  | cons g rest ih =>
    rw [collect] at h
    obtain ⟨hproblems, hresult, hnew, hnodup⟩ := ih h
    obtain ⟨hnil, hclash⟩ := Problems.add_eq_nil hproblems
    have hfree : ¬(Assoc.has byId g.id || taken.contains g.id) = true := by
      intro hc
      simp only [hc, if_true] at hclash
      cases hclash
    rw [Bool.or_eq_true, not_or, Assoc.has, Assoc.get?_isSome_iff (Assoc.exact _),
      List.contains_iff_mem] at hfree
    refine ⟨hnil, ?_, ?_, fun hkeys => hnodup (Assoc.nodup_keys_put g (Assoc.exact _) hkeys)⟩
    · rw [hresult, Assoc.put_of_notMem g (Assoc.exact _) hfree.1]
      simp
    · exact List.forall_mem_cons.2 ⟨hfree.2, hnew⟩

theorem of_validate {g : Graph} {known : List String} (h : g.validate known = []) :
    g.Sound ∧ g.ChainsTo known :=
  ⟨(validate_eq_nil.1 h).toSound, (validate_eq_nil.1 h).chains⟩

theorem of_foldl_add {known : List String} {byId : Assoc String Graph} {problems : Problems}
    (h : byId.foldl (fun problems (id, g) => problems.add id (g.validate known)) problems = []) :
    problems = [] ∧ ∀ p ∈ byId, p.2.validate known = [] := by
  induction byId generalizing problems with
  | nil => exact ⟨h, by simp⟩
  | cons p rest ih =>
    rw [List.foldl_cons] at h
    obtain ⟨hproblems, hrest⟩ := ih h
    obtain ⟨hnil, hvalid⟩ := Problems.add_eq_nil hproblems
    exact ⟨hnil, List.forall_mem_cons.2 ⟨hvalid, hrest⟩⟩

/-- Graphs that go together with each other, with the names taken and with further names known. -/
structure Acceptable (graphs : List Graph) (taken alsoKnown : List String) : Prop where
  distinct : (graphs.map (·.id)).Nodup
  new : ∀ g ∈ graphs, g.id ∉ taken
  valid : ∀ g ∈ graphs, g.validate (taken ++ graphs.map (·.id) ++ alsoKnown) = []

/-- What is accepted are the given graphs. -/
theorem of_checkAll {graphs accepted : List Graph} {taken alsoKnown : List String}
    {problems : Problems} (h : checkAll graphs taken alsoKnown problems = (accepted, [])) :
    problems = [] ∧ accepted = graphs ∧ Acceptable graphs taken alsoKnown := by
  unfold checkAll at h
  cases hcollect : collect taken graphs [] problems with
  | mk byId problems' =>
    rw [hcollect] at h
    simp only [Prod.mk.injEq] at h
    obtain ⟨haccepted, hproblems⟩ := h
    obtain ⟨hnil, hvalid⟩ := of_foldl_add hproblems
    subst hnil
    obtain ⟨hnone, hbyId, hnew, hnodup⟩ := of_collect hcollect
    have hnames := hnodup (by simp)
    rw [List.nil_append] at hbyId
    subst hbyId
    refine ⟨hnone, by simpa [Function.comp_def] using haccepted.symm, ?_, hnew, fun g hg => ?_⟩
    · simpa [Assoc.keys, Function.comp_def] using hnames
    · have hclear := hvalid (g.id, g) (List.mem_map_of_mem hg)
      rwa [List.map_map] at hclear

/-- Graphs with distinct names are all kept, and those whose name is taken are noted. -/
theorem collect_eq {taken : List String} {graphs : List Graph} {byId : Assoc String Graph}
    {problems : Problems} (hnodup : (Assoc.keys byId ++ graphs.map (·.id)).Nodup) :
    collect taken graphs byId problems =
      (byId ++ graphs.map fun g => (g.id, g), (graphs.map fun g => (g.id, g)).foldl
        (fun problems p => problems.add p.1 (if taken.contains p.1 then [.duplicateGraph] else []))
        problems) := by
  induction graphs generalizing byId problems with
  | nil => simp [collect]
  | cons g rest ih =>
    rw [List.map_cons, List.append_cons] at hnodup
    have hfree : g.id ∉ Assoc.keys byId := by
      intro hmem
      exact (List.nodup_append.1 (List.nodup_append.1 hnodup).1).2.2 _ hmem _
        (List.mem_singleton_self _) rfl
    have hhas : Assoc.has byId g.id = false := by
      rw [Assoc.has, Bool.eq_false_iff, ne_eq, Assoc.get?_isSome_iff (Assoc.exact _)]
      exact hfree
    rw [collect, hhas, Bool.false_or, Assoc.put_of_notMem g (Assoc.exact g.id) hfree]
    exact (ih (by simpa [Assoc.keys] using hnodup)).trans (by simp)

theorem Acceptable.checkAll {graphs : List Graph} {taken alsoKnown : List String}
    (h : Acceptable graphs taken alsoKnown) :
    checkAll graphs taken alsoKnown [] = (graphs, []) := by
  have hnew : ∀ p ∈ graphs.map fun g => (g.id, g),
      (if taken.contains p.1 then [Problem.duplicateGraph] else []) = [] := by
    intro p hp
    obtain ⟨g, hg, rfl⟩ := List.mem_map.1 hp
    rw [if_neg]
    rw [List.contains_iff_mem]
    exact h.new g hg
  have hvalid : ∀ p ∈ graphs.map fun g => (g.id, g),
      p.2.validate (taken ++ graphs.map (·.id) ++ alsoKnown) = [] := by
    intro p hp
    obtain ⟨g, hg, rfl⟩ := List.mem_map.1 hp
    exact h.valid g hg
  unfold Graph.checkAll
  rw [collect_eq (by simpa using h.distinct), Problems.foldl_add_of_nil hnew]
  have hnone := Problems.foldl_add_of_nil hvalid []
  simpa [Function.comp_def] using hnone

theorem validateAll_eq_ok {graphs accepted : List Graph} {taken : List String} :
    validateAll graphs taken = .ok accepted ↔ accepted = graphs ∧ Acceptable graphs taken [] := by
  unfold validateAll
  constructor
  · intro h
    split at h
    next accepted' hcheck =>
      cases h
      exact (of_checkAll hcheck).2
    next => cases h
  · rintro ⟨rfl, h⟩
    rw [h.checkAll]

/-- Only the set of names known matters. -/
theorem validate_congr (g : Graph) {known known' : List String}
    (h : ∀ name, name ∈ known ↔ name ∈ known') : g.validate known = g.validate known' := by
  have hcontains : known.contains = known'.contains := by
    funext name
    rw [Bool.eq_iff_iff, List.contains_iff_mem, List.contains_iff_mem]
    exact h name
  unfold validate
  unfold checkChoice checkOutcome checkRequirement
  rw [hcontains]

end Graph

namespace Engine

variable {e e' : Engine} {graphs : List Graph}

theorem of_register (h : e.register graphs = .ok e') :
    e'.session = { e.session with
      instances := e.session.instances ++ graphs.map fun graph => { graph } } ∧
    Graph.Acceptable graphs e.session.graphNames [] := by
  obtain ⟨accepted, haccepted, rfl⟩ := map_eq_ok.1 h
  obtain ⟨rfl, hacceptable⟩ := Graph.validateAll_eq_ok.1 haccepted
  exact ⟨rfl, hacceptable⟩

theorem register_of_acceptable (h : Graph.Acceptable graphs e.session.graphNames []) :
    e.register graphs = .ok { e with session := { e.session with
      instances := e.session.instances ++ graphs.map fun graph => { graph } } } := by
  unfold register
  change (Graph.validateAll graphs e.session.graphNames).map _ = _
  rw [Graph.validateAll_eq_ok.2 ⟨rfl, h⟩]
  rfl

theorem register_of_checked (h : (Graph.checkAll graphs e.session.graphNames [] []).2 = []) :
    e.register graphs = .ok { e with session := { e.session with
      instances := e.session.instances ++ graphs.map fun graph => { graph } } } :=
  register_of_acceptable (Graph.of_checkAll (Prod.ext rfl h)).2.2

theorem graphs_register (h : e.register graphs = .ok e') :
    e'.session.graphs = e.session.graphs ++ graphs := by
  rw [(of_register h).1]
  simp [Session.graphs, Function.comp_def]

theorem sound_of_register (hs : e.session.Sound) (h : e.register graphs = .ok e') :
    e'.session.Sound := by
  obtain ⟨he, haccepted⟩ := of_register h
  rw [he]
  constructor
  · have hnames : (Session.graphNames { e.session with
        instances := e.session.instances ++ graphs.map fun graph => { graph } }) =
        e.session.graphNames ++ graphs.map (·.id) := by
      simp [Session.graphNames, Function.comp_def]
    rw [hnames, List.nodup_append]
    refine ⟨hs.distinct, haccepted.distinct, fun a ha b hb hab => ?_⟩
    obtain ⟨g, hg, rfl⟩ := List.mem_map.1 hb
    exact haccepted.new g hg (hab ▸ ha)
  · intro i hi
    rcases List.mem_append.1 hi with hi | hi
    · exact hs.graphs i hi
    · obtain ⟨g, hg, rfl⟩ := List.mem_map.1 hi
      exact (Graph.of_validate (haccepted.valid g hg)).1

theorem agrees_of_register (hs : e.session.Agrees) (h : e.register graphs = .ok e') :
    e'.session.Agrees := by
  obtain ⟨he, haccepted⟩ := of_register h
  rw [he]
  constructor
  · intro i hi
    rcases List.mem_append.1 hi with hi | hi
    · exact hs.placed i hi
    · obtain ⟨g, hg, rfl⟩ := List.mem_map.1 hi
      refine ⟨?_, by simp, by simp⟩
      by_contra hn
      obtain ⟨j, hj, heq⟩ := hs.registered _ (Ledger.mem_keys_of_stateOf (Ne.symm hn))
      have hid : g.id = j.graph.id := Atom.text.inj heq
      exact haccepted.new g hg (hid ▸ List.mem_map_of_mem (f := fun i : Instance => i.graph.id) hj)
  · intro k hk
    obtain ⟨i, hi, rfl⟩ := hs.registered k hk
    exact ⟨i, List.mem_append_left _ hi, rfl⟩

end Engine

end Questline
