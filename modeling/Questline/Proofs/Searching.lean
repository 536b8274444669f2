import Mathlib.Data.Finset.Card
import Mathlib.Data.String.Basic
import Questline.Proofs.Connections
import Questline.Proofs.Transcribing

/-! The search for the nodes of a graph can go node by node as well: those that are still to be
looked at wait in a queue, where a name may stand many times.  However the choices of a graph go
round, the queue runs empty, and by then the same nodes have been found as round by round.  All
others are reported. -/

namespace Questline

theorem pairwise_sortNames (names : List String) : (sortNames names).Pairwise (· ≤ ·) := by
  have htrans (a b c : String) (hab : decide (a ≤ b) = true) (hbc : decide (b ≤ c) = true) :
      decide (a ≤ c) = true :=
    decide_eq_true (String.le_trans (of_decide_eq_true hab) (of_decide_eq_true hbc))
  have htotal (a b : String) : (decide (a ≤ b) || decide (b ≤ a)) = true := by
    rw [Bool.or_eq_true, decide_eq_true_eq, decide_eq_true_eq]
    exact String.le_total a b
  exact (List.pairwise_mergeSort htrans htotal names).imp of_decide_eq_true

namespace Graph

/-- The names of nodes that have not been seen. -/
def unseen (g : Graph) (seen : List String) : Finset String :=
  (g.nodes.map (·.id)).toFinset \ seen.toFinset

theorem mem_unseen {g : Graph} {seen : List String} {id : String} :
    id ∈ g.unseen seen ↔ g.hasNode id = true ∧ id ∉ seen := by
  rw [unseen, Finset.mem_sdiff, List.mem_toFinset, List.mem_toFinset, hasNode_iff]

theorem unseen_concat (g : Graph) (seen : List String) (id : String) :
    g.unseen (seen ++ [id]) = (g.unseen seen).erase id := by
  ext name
  simp only [mem_unseen, Finset.mem_erase, List.mem_append, List.mem_singleton]
  tauto

theorem targetsOf_of_missing {g : Graph} {id : String} (h : g.hasNode id = false) :
    g.targetsOf id = [] := by
  have hnone : g.node? id = none := by
    rw [← Option.not_isSome_iff_eq_none, node?_isSome, h]
    exact Bool.false_ne_true
  rw [targetsOf, hnone]

/-- The nodes seen once all that wait have been looked at, one after the other.  When a node is
looked at for the first time, those that its choices lead to have to wait behind all others. -/
def search (g : Graph) (seen : List String) : List String → List String
  | [] => seen
  | id :: rest =>
    if id ∈ seen then g.search seen rest
    else g.search (seen ++ [id]) (rest ++ g.targetsOf id)
termination_by waiting => ((g.unseen seen).card, waiting.length)
decreasing_by
  · exact Prod.Lex.right _ (Nat.lt_succ_self _)
  next hnew =>
    rw [unseen_concat]
    by_cases hnode : id ∈ g.unseen seen
    · exact Prod.Lex.left _ _ (Finset.card_erase_lt_of_mem hnode)
    · -- what is no node leads nowhere, so the queue has become shorter
      have hmissing : g.hasNode id = false := by
        rw [mem_unseen, not_and_not_right] at hnode
        exact Bool.eq_false_iff.2 fun h => hnew (hnode h)
      rw [Finset.erase_eq_of_notMem hnode, targetsOf_of_missing hmissing, List.append_nil]
      exact Prod.Lex.right _ (Nat.lt_succ_self _)

/-- The nodes that are found from the start, node by node. -/
def searched (g : Graph) : List String :=
  if g.hasNode g.start then g.search [] [g.start] else []

/-- What is known while nodes are looked at: all that has been seen or waits is connected with the
start, and what has been seen leads to nothing else. -/
structure Searching (g : Graph) (seen waiting : List String) : Prop where
  nodup : seen.Nodup
  start : g.start ∈ seen ∨ g.start ∈ waiting
  connects : ∀ id, id ∈ seen ∨ id ∈ waiting → g.Connects g.start id
  closed : ∀ a ∈ seen, ∀ b, g.Leads a b → b ∈ seen ∨ b ∈ waiting

namespace Searching

variable {g : Graph} {seen rest : List String} {id : String}

theorem skip (h : g.Searching seen (id :: rest)) (hseen : id ∈ seen) : g.Searching seen rest := by
  have hmem (a : String) : a ∈ seen ∨ a ∈ id :: rest ↔ a ∈ seen ∨ a ∈ rest := by
    rw [List.mem_cons]
    constructor
    · rintro (h | rfl | h)
      exacts [.inl h, .inl hseen, .inr h]
    · exact Or.imp_right .inr
  exact ⟨h.nodup, (hmem _).1 h.start, fun a ha => h.connects a ((hmem a).2 ha),
    fun a ha b hlead => (hmem b).1 (h.closed a ha b hlead)⟩

theorem look (h : g.Searching seen (id :: rest)) (hnew : id ∉ seen) :
    g.Searching (seen ++ [id]) (rest ++ g.targetsOf id) := by
  have hmem (a : String) : a ∈ seen ++ [id] ∨ a ∈ rest ++ g.targetsOf id ↔
      (a ∈ seen ∨ a ∈ id :: rest) ∨ g.Leads id a := by
    simp only [List.mem_append, List.mem_cons, List.not_mem_nil, or_false, mem_targetsOf]
    tauto
  have hid : g.Connects g.start id := h.connects id (.inr List.mem_cons_self)
  refine ⟨List.concat_eq_append ▸ h.nodup.concat hnew, (hmem _).2 (.inl h.start), fun a ha => ?_,
    fun a ha b hlead => (hmem b).2 ?_⟩
  · rcases (hmem a).1 ha with ha | hlead
    · exact h.connects a ha
    · exact hid.onward hlead
  · rcases List.mem_append.1 ha with ha | ha
    · exact .inl (h.closed a ha b hlead)
    · exact .inr (List.mem_singleton.1 ha ▸ hlead)

/-- Once nothing waits any more, the search round by round has nothing to add either. -/
theorem surveyed (h : g.Searching seen []) : g.Surveyed seen [] :=
  ⟨h.nodup, h.start.resolve_right List.not_mem_nil, fun id hid => h.connects id (.inl hid),
    fun a ha _ b hlead => (h.closed a ha b hlead).resolve_right List.not_mem_nil⟩

theorem search {waiting : List String} (h : g.Searching seen waiting) :
    g.Surveyed (g.search seen waiting) [] := by
  fun_induction g.search seen waiting with
  | case1 => exact h.surveyed
  | case2 seen id rest hseen ih => exact ih (h.skip hseen)
  | case3 seen id rest hnew ih => exact ih (h.look hnew)

end Searching

theorem searching_start {g : Graph} (h : g.hasNode g.start = true) :
    g.Searching [] [g.start] := by
  refine ⟨List.nodup_nil, .inr (List.mem_singleton_self _), fun id hid => ?_, nofun⟩
  rw [List.mem_singleton.1 (hid.resolve_left List.not_mem_nil)]
  exact .here h

theorem nodup_explore {g : Graph} {rounds : Nat} {seen latest : List String} (h : seen.Nodup) :
    (g.explore rounds seen latest).Nodup := by
  induction rounds generalizing seen latest with
  | zero => exact h
  | succ rounds ih =>
    rw [explore]
    split
    · exact h
    · exact ih (nodup_addNew h)

theorem nodup_reachable (g : Graph) : g.reachable.Nodup := by
  unfold reachable
  split
  · exact nodup_explore (List.nodup_singleton _)
  · exact List.nodup_nil

/-- Node by node the same is found as round by round. -/
theorem searched_perm (g : Graph) : g.searched.Perm g.reachable := by
  by_cases hstart : g.hasNode g.start = true
  · have hdone := (searching_start hstart).search
    rw [searched, if_pos hstart]
    refine (List.perm_ext_iff_of_nodup hdone.nodup g.nodup_reachable).2 fun id => ?_
    rw [hdone.finished, mem_reachable_iff]
  · rw [searched, reachable, if_neg hstart, if_neg hstart]

end Graph

/-- The problem of a node that cannot be reached from the start. -/
def Problem.isUnreachable : Problem → Bool
  | .unreachable _ _ => true
  | _ => false

namespace Graph

section Reported

variable {g : Graph} {known : List String}

theorem filter_eq_nil_of_checks {α : Type} {check : α → Option Problem} {items : List α}
    (h : ∀ a problem, check a = some problem → problem.isUnreachable = false) :
    (items.filterMap check).filter Problem.isUnreachable = [] := by
  rw [List.filter_eq_nil_iff]
  intro problem hproblem
  obtain ⟨a, _, ha⟩ := List.mem_filterMap.1 hproblem
  rw [h a problem ha]
  exact Bool.false_ne_true

theorem isUnreachable_checkChoice {n : Node} {c : Choice} {problem : Problem}
    (h : g.checkChoice known n c = some problem) : problem.isUnreachable = false := by
  unfold checkChoice at h
  split at h
  · split at h <;> cases h
    rfl
  · split at h <;> cases h
    rfl
  · cases h

theorem isUnreachable_checkOutcome {o : Outcome} {problem : Problem}
    (h : checkOutcome known o = some problem) : problem.isUnreachable = false := by
  unfold checkOutcome at h
  split at h <;> cases h
  rfl

theorem isUnreachable_checkRequirement {r : Requirement} {problem : Problem}
    (h : checkRequirement known r = some problem) : problem.isUnreachable = false := by
  unfold checkRequirement at h
  split at h <;> cases h
  rfl

/-- The other things that may be wrong with a graph are not about nodes that cannot be reached. -/
theorem filter_validate (g : Graph) (known : List String) :
    (g.validate known).filter Problem.isUnreachable =
      if g.hasNode g.start then g.unreachableNodes.map fun id => .unreachable id g.start
      else [] := by
  have hstart : (if g.hasNode g.start then [] else [Problem.missingStart g.start]).filter
      Problem.isUnreachable = [] := by
    split <;> rfl
  have hchoices : (g.nodes.flatMap fun n => n.choices.filterMap (g.checkChoice known n)).filter
      Problem.isUnreachable = [] := by
    rw [List.filter_flatMap, List.flatMap_eq_nil_iff]
    exact fun n _ => filter_eq_nil_of_checks fun _ _ => isUnreachable_checkChoice
  have hunreachable : (g.unreachableNodes.map fun id => .unreachable id g.start).filter
      Problem.isUnreachable = g.unreachableNodes.map fun id => .unreachable id g.start := by
    rw [List.filter_eq_self]
    intro problem hproblem
    obtain ⟨id, _, rfl⟩ := List.mem_map.1 hproblem
    rfl
  unfold validate
  simp only [List.filter_append, hstart, hchoices, List.nil_append,
    filter_eq_nil_of_checks fun _ _ => isUnreachable_checkOutcome,
    filter_eq_nil_of_checks fun _ _ => isUnreachable_checkRequirement]
  split
  · exact hunreachable
  · rfl

theorem mem_unreachableNodes {id : String} :
    id ∈ g.unreachableNodes ↔ g.hasNode id = true ∧ ¬ g.Connects g.start id := by
  rw [unreachableNodes, sortNames, List.mem_mergeSort, List.mem_filter, hasNode_iff]
  simp [mem_reachable_iff]

/-- Where nodes have names of their own, each that cannot be reached is named once. -/
theorem pairwise_unreachableNodes (hdistinct : (g.nodes.map (·.id)).Nodup) :
    g.unreachableNodes.Pairwise (· < ·) := by
  have hnodup : g.unreachableNodes.Nodup := by
    rw [unreachableNodes, sortNames, (List.mergeSort_perm _ _).nodup_iff]
    exact hdistinct.filter _
  exact ((pairwise_sortNames _).and hnodup).imp fun ⟨hle, hne⟩ => lt_of_le_of_ne hle hne

end Reported

/-- A table in which every node stands under its own name stays one when nodes are put there. -/
theorem named_foldl_put (authored : List Node) {m : Assoc String Node} (hm : (Assoc.keys m).Nodup)
    (hnamed : ∀ p ∈ m, p.2.id = p.1) :
    let all := (authored.map fun n => (n.id, n)).foldl (fun m (k, a) => Assoc.put m k a) m
    (Assoc.keys all).Nodup ∧ ∀ p ∈ all, p.2.id = p.1 := by
  induction authored generalizing m with
  | nil => exact ⟨hm, hnamed⟩
  | cons n rest ih =>
    have hput := Assoc.nodup_keys_put n (Assoc.exact n.id) hm
    refine ih hput fun p hp => ?_
    have hget := Assoc.get?_of_mem (Assoc.exact p.1) hput hp
    rw [Assoc.get?_put _ (Assoc.exact _) (Assoc.exact _)] at hget
    split at hget
    next heq => rw [← Option.some.inj hget, heq]
    next => exact hnamed p (Assoc.mem_of_get? (Assoc.exact _) hget)

theorem nodup_distinctNodes (authored : List Node) :
    ((distinctNodes authored).map (·.id)).Nodup := by
  obtain ⟨hnodup, hnamed⟩ := named_foldl_put (m := []) authored List.nodup_nil nofun
  have hsame : (distinctNodes authored).map (·.id) = Assoc.keys
      (Assoc.ofList (authored.map fun n => (n.id, n))) := by
    rw [distinctNodes, List.map_map]
    exact List.map_congr_left hnamed
  exact hsame ▸ hnodup

end Graph

/-- Whatever nodes a graph is authored with: the search from its start comes to an end, round by
round or node by node, and finds the nodes that finitely many choices lead to, each once, and none
if there is no start.  If there is one, then the other nodes are reported, each once and in
order. -/
theorem nodes_reached_or_reported (graph : Graph) (authored : List Node) (known : List String) :
    let g := { graph with nodes := Graph.distinctNodes authored }
    g.searched.Perm g.reachable ∧ g.reachable.Nodup ∧
      (∀ id, id ∈ g.reachable ↔ g.Connects g.start id) ∧
      (g.hasNode g.start = true ∨ g.reachable = []) ∧
      ∃ others : List String, others.Pairwise (· < ·) ∧
        (∀ id, id ∈ others ↔ g.hasNode id = true ∧ ¬ g.Connects g.start id) ∧
        (g.validate known).filter Problem.isUnreachable =
          if g.hasNode g.start then others.map fun id => .unreachable id g.start else [] := by
  intro g
  refine ⟨g.searched_perm, g.nodup_reachable, fun id => Graph.mem_reachable_iff, ?_,
    g.unreachableNodes, ?_, fun id => Graph.mem_unreachableNodes, g.filter_validate known⟩
  · by_cases hstart : g.hasNode g.start = true
    · exact .inl hstart
    · exact .inr (if_neg hstart)
  · exact Graph.pairwise_unreachableNodes (Graph.nodup_distinctNodes authored)

end Questline
