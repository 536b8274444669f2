import Mathlib.Data.List.Perm.Subperm
import Questline.Graph.Validation
import Questline.Proofs.Agreement

/-! Which nodes choices lead to from the start.  The search goes round by round and needs no more
rounds than there are nodes; what it finds are the connected nodes, all of them and no others. -/

namespace Questline.Graph

/-- A choice of one node leads to another node of the graph. -/
def Leads (g : Graph) (a b : String) : Prop :=
  ∃ n, g.node? a = some n ∧ ∃ c ∈ n.choices, c.next = .node b ∧ g.hasNode b = true

/-- Finitely many choices lead from one node to another. -/
inductive Connects (g : Graph) (a : String) : String → Prop
  | here : g.hasNode a = true → Connects g a a
  | onward {b c : String} : Connects g a b → g.Leads b c → Connects g a c

theorem hasNode_iff {g : Graph} {id : String} : g.hasNode id = true ↔ id ∈ g.nodes.map (·.id) := by
  simp [hasNode]

theorem Connects.hasNode {g : Graph} {a b : String} (h : g.Connects a b) :
    g.hasNode b = true := by
  cases h with
  | here ha => exact ha
  | onward _ hlead =>
    obtain ⟨_, _, _, _, _, hnode⟩ := hlead
    exact hnode

theorem mem_targetsOf {g : Graph} {a b : String} : b ∈ g.targetsOf a ↔ g.Leads a b := by
  unfold targetsOf Leads
  cases hnode : g.node? a with
  | none => simp
  | some n =>
    simp only [List.mem_filterMap, Option.some.injEq, exists_eq_left']
    refine exists_congr fun c => and_congr_right fun _ => ?_
    constructor
    · intro h
      split at h
      next target hnext =>
        split at h
        next htarget =>
          cases h
          exact ⟨hnext, htarget⟩
        next => cases h
      next => cases h
    · rintro ⟨hnext, hb⟩
      rw [hnext]
      exact if_pos hb

section AddNew

variable {seen names : List String}

theorem prefix_addNew : seen <+: addNew seen names := by
  induction names generalizing seen with
  | nil => exact List.prefix_rfl
  | cons name rest ih =>
    unfold addNew
    rw [List.foldl_cons]
    split
    · exact ih
    · exact (List.prefix_append _ _).trans ih

theorem mem_addNew {id : String} : id ∈ addNew seen names ↔ id ∈ seen ∨ id ∈ names := by
  induction names generalizing seen with
  | nil => simp [addNew]
  | cons name rest ih =>
    unfold addNew at ih ⊢
    rw [List.foldl_cons, ih, List.mem_cons]
    split
    next hseen =>
      rw [List.contains_iff_mem] at hseen
      constructor
      · exact Or.imp_right .inr
      · rintro (h | rfl | h)
        exacts [.inl h, .inl hseen, .inr h]
    next => rw [List.mem_append, List.mem_singleton, or_assoc]

theorem nodup_addNew (h : seen.Nodup) : (addNew seen names).Nodup := by
  induction names generalizing seen with
  | nil => exact h
  | cons name rest ih =>
    unfold addNew at ih ⊢
    rw [List.foldl_cons]
    split
    · exact ih h
    next hnew =>
      rw [List.contains_iff_mem] at hnew
      exact ih (List.concat_eq_append ▸ h.concat hnew)

end AddNew

/-- What is known while the search goes on: all that has been seen is connected with the start, and
only what was found last can lead to anything that has not been seen. -/
structure Surveyed (g : Graph) (seen latest : List String) : Prop where
  nodup : seen.Nodup
  start : g.start ∈ seen
  connects : ∀ id ∈ seen, g.Connects g.start id
  closed : ∀ a ∈ seen, a ∉ latest → ∀ b, g.Leads a b → b ∈ seen

namespace Surveyed

variable {g : Graph} {seen latest : List String}

/-- There are no more nodes to be seen than the graph has. -/
theorem length_le (h : g.Surveyed seen latest) : seen.length ≤ g.nodes.length := by
  have hsub : seen ⊆ g.nodes.map (·.id) := fun id hid => hasNode_iff.1 (h.connects id hid).hasNode
  simpa using (List.subperm_of_subset h.nodup hsub).length_le

theorem finished (h : g.Surveyed seen []) {id : String} : id ∈ seen ↔ g.Connects g.start id := by
  refine ⟨h.connects id, fun hid => ?_⟩
  induction hid with
  | here _ => exact h.start
  | onward _ hlead ih => exact h.closed _ ih (by simp) _ hlead

/-- One round looks at what was found last, and finds what has not been seen. -/
theorem round (h : g.Surveyed seen latest) (hlatest : latest ⊆ seen) {fresh : List String}
    (hround : addNew seen (latest.flatMap g.targetsOf) = seen ++ fresh) :
    g.Surveyed (seen ++ fresh) fresh := by
  have hmem (b : String) :
      b ∈ seen ++ fresh ↔ b ∈ seen ∨ ∃ a ∈ latest, g.Leads a b := by
    rw [← hround, mem_addNew, List.mem_flatMap]
    simp only [mem_targetsOf]
  refine ⟨hround ▸ nodup_addNew h.nodup, List.mem_append_left _ h.start, fun b hb => ?_,
    fun a ha hold b hlead => ?_⟩
  · rcases (hmem b).1 hb with hb | ⟨a, ha, hlead⟩
    · exact h.connects b hb
    · exact (h.connects a (hlatest ha)).onward hlead
  · have hseen : a ∈ seen := (List.mem_append.1 ha).resolve_right hold
    by_cases hlast : a ∈ latest
    · exact (hmem b).2 (.inr ⟨a, hlast, hlead⟩)
    · exact List.mem_append_left _ (h.closed a hseen hlast b hlead)

/-- With a round left for each node that has not been seen, the search finds all there is. -/
theorem mem_explore (h : g.Surveyed seen latest) (hlatest : latest ⊆ seen) {rounds : Nat}
    (hrounds : g.nodes.length < rounds + seen.length) {id : String} :
    id ∈ g.explore rounds seen latest ↔ g.Connects g.start id := by
  induction rounds generalizing seen latest with
  | zero => exact absurd h.length_le (by omega)
  | succ rounds ih =>
    have hprefix : seen <+: addNew seen (latest.flatMap g.targetsOf) := prefix_addNew
    obtain ⟨fresh, hfresh⟩ := hprefix
    have hnext := h.round hlatest hfresh.symm
    rw [explore, ← hfresh, List.drop_left]
    cases fresh with
    | nil =>
      rw [List.append_nil] at hnext
      exact hnext.finished
    | cons b rest =>
      refine ih hnext (List.subset_append_right _ _) ?_
      rw [List.length_append, List.length_cons]
      omega

end Surveyed

/-- The search finds the nodes that finitely many choices lead to from the start. -/
theorem mem_reachable_iff {g : Graph} {id : String} :
    id ∈ g.reachable ↔ g.Connects g.start id := by
  unfold reachable
  split
  next hstart =>
    refine Surveyed.mem_explore ⟨by simp, by simp, fun id hid => ?_, fun a ha hold => ?_⟩
      (List.Subset.refl _) (by simp)
    · rw [List.mem_singleton.1 hid]
      exact .here hstart
    · exact absurd ha hold
  next hstart =>
    constructor
    · exact nofun
    · intro h
      have hstart' : g.hasNode g.start = true := by
        induction h with
        | here ha => exact ha
        | onward _ _ ih => exact ih
      exact absurd hstart' hstart

/-- All references of a graph lead somewhere, given the graphs that there are, and choices lead from
the start to every node. -/
structure Coherent (g : Graph) (known : List String) : Prop extends Sound g where
  chains : g.ChainsTo known
  unlocks : ∀ o ∈ g.allOutcomes, o.kind = .unlockQuest → ∃ target ∈ known, o.target = some target
  asks : ∀ r ∈ g.allRequirements, r.kind = .questCompleted → r.subject ∈ known
  connected : ∀ n ∈ g.nodes, g.Connects g.start n.id

theorem checkChoice_eq_none {g : Graph} {known : List String} {n : Node} {c : Choice} :
    g.checkChoice known n c = none ↔
      (∀ target, c.next = .node target → g.hasNode target = true) ∧
        ∀ target, c.next = .graph target → target ∈ known := by
  unfold checkChoice
  cases c.next with
  | finish => simp
  | node target => simp
  | graph target => simp

theorem checkOutcome_eq_none {known : List String} {o : Outcome} :
    checkOutcome known o = none ↔
      (o.kind = .unlockQuest → ∃ target ∈ known, o.target = some target) := by
  unfold checkOutcome
  cases o.target <;> simp

theorem checkRequirement_eq_none {known : List String} {r : Requirement} :
    checkRequirement known r = none ↔ (r.kind = .questCompleted → r.subject ∈ known) := by
  simp [checkRequirement]

theorem unreachableNodes_eq_nil {g : Graph} :
    g.unreachableNodes = [] ↔ ∀ n ∈ g.nodes, g.Connects g.start n.id := by
  have hsorted : g.unreachableNodes.Perm
      ((g.nodes.map (·.id)).filter fun id => !g.reachable.contains id) :=
    List.mergeSort_perm _ _
  rw [← List.perm_nil, hsorted.congr_left, List.perm_nil, List.filter_eq_nil_iff]
  simp [mem_reachable_iff]

/-- Nothing is wrong with the references of a graph just if all of them lead somewhere. -/
theorem validate_eq_nil {g : Graph} {known : List String} :
    g.validate known = [] ↔ g.Coherent known := by
  have hchoices : (g.nodes.flatMap fun n => n.choices.filterMap (g.checkChoice known n)) = [] ↔
      ∀ n ∈ g.nodes, ∀ c ∈ n.choices, g.checkChoice known n c = none := by
    simp [List.flatMap_eq_nil_iff, List.filterMap_eq_nil_iff]
  unfold validate
  simp only [List.append_eq_nil_iff, hchoices, List.filterMap_eq_nil_iff, checkChoice_eq_none,
    checkOutcome_eq_none, checkRequirement_eq_none]
  constructor
  · rintro ⟨⟨⟨⟨hstart, hnext⟩, hunlocks⟩, hasks⟩, hreach⟩
    have hhas : g.hasNode g.start = true := by
      by_contra hn
      rw [if_neg hn] at hstart
      cases hstart
    rw [if_pos hhas, List.map_eq_nil_iff, unreachableNodes_eq_nil] at hreach
    exact ⟨⟨hhas, fun n hn c hc => (hnext n hn c hc).1⟩, fun n hn c hc => (hnext n hn c hc).2,
      hunlocks, hasks, hreach⟩
  · intro h
    rw [if_pos h.start, if_pos h.start, List.map_eq_nil_iff, unreachableNodes_eq_nil]
    exact ⟨⟨⟨⟨rfl, fun n hn c hc => ⟨h.next n hn c hc, h.chains n hn c hc⟩⟩, h.unlocks⟩, h.asks⟩,
      h.connected⟩

end Questline.Graph
