import Questline.Proofs.Restoration

/-! A save is taken over as a whole or not at all.  Whether it is, and what comes of it, depends on
nothing but the save and the graphs that are registered. -/

namespace Questline

namespace Saved

/-- A save says something about a graph. -/
def Mentions (saved : Saved) (g : String) : Prop :=
  .text g ∈ Assoc.keys saved.ledger.questState ∨ g ∈ Assoc.keys saved.states ∨
    g ∈ Assoc.keys saved.activeNodes ∨ g ∈ saved.unlocked

/-- A graph that a save does not mention is as if nothing had happened. -/
theorem instanceFor_of_unmentioned {saved : Saved} {g : Graph} (h : ¬ saved.Mentions g.id) :
    saved.instanceFor saved.ledger { graph := g } = { graph := g } := by
  unfold Mentions at h
  simp only [not_or] at h
  obtain ⟨hledger, _, hnode, hunlocked⟩ := h
  have hstate : saved.ledger.stateOf g.id = .unavailable := by
    by_contra hne
    exact hledger (Ledger.mem_keys_of_stateOf hne)
  have hnone := (Assoc.get?_eq_none_iff (Assoc.exact g.id)).2 hnode
  simp [instanceFor, hstate, hnone, hunlocked]

section Checks

variable (saved : Saved) {s t : Session} (h : t.graphs = s.graphs)
include h

theorem checkState_congr : saved.checkState t = saved.checkState s := by
  funext ⟨g, state⟩
  have hsame := congrArg Option.isNone (Session.instance?_congr h g)
  rw [Option.isNone_map, Option.isNone_map] at hsame
  unfold checkState
  dsimp only
  rw [hsame]

theorem checkNode_congr : saved.checkNode t = saved.checkNode s := by
  funext ⟨g, node⟩
  have hsame := Session.instance?_congr h g
  unfold checkNode
  dsimp only
  cases hi : s.instance? g with
  | none =>
    rw [hi, Option.map_none, Option.map_eq_none_iff] at hsame
    rw [hsame]
  | some i =>
    rw [hi, Option.map_some, Option.map_eq_some_iff] at hsame
    obtain ⟨j, hj, hgraph⟩ := hsame
    rw [hj]
    dsimp only
    rw [hgraph]

theorem checkUnlocked_congr : checkUnlocked t = checkUnlocked s := by
  funext g
  have hsame := congrArg Option.isSome (Session.instance?_congr h g)
  rw [Option.isSome_map, Option.isSome_map] at hsame
  unfold checkUnlocked
  rw [hsame]

/-- A save is checked against the graphs alone, however far they are played. -/
theorem check_congr : saved.check t = saved.check s := by
  unfold check
  rw [saved.checkState_congr h, saved.checkNode_congr h, checkUnlocked_congr h]

end Checks

end Saved

namespace Engine

variable {v : Value} {saved : Saved} {e f : Engine} {s t : Session}

theorem accept_congr (v : Value) (h : t.graphs = s.graphs) : accept v t = accept v s := by
  unfold accept
  cases Saved.ofValue v with
  | error why => rfl
  | ok saved =>
    dsimp only
    rw [saved.check_congr h]

/-- The engine that a save leads to. -/
def takenOver (saved : Saved) (e : Engine) : Engine :=
  { session := { e.session with
      ledger := saved.ledger
      log := saved.log
      instances := e.session.graphs.map fun graph => saved.instanceFor saved.ledger { graph }
      ending := saved.ending }
    diagnostics := [] }

/-- Of the instances there were, only the graphs count. -/
theorem takenOver_eq (saved : Saved) (e : Engine) :
    e.takenOver saved = { session := restoredSession saved e.session, diagnostics := [] } := by
  have hinstances : (e.session.graphs.map fun graph => saved.instanceFor saved.ledger { graph }) =
      e.session.instances.map (saved.instanceFor saved.ledger) := by
    rw [Session.graphs, List.map_map]
    rfl
  rw [takenOver, hinstances, restoredSession]

end Engine

/-- Restoring a save either fails before anything has been replaced, or it replaces everything by
what the save says: then nothing can go wrong any more on the way, and nothing of what was there
before matters except which graphs are registered. -/
theorem restored_whole_or_not_at_all (v : Value) (graphs : List Graph) :
    (∃ why, ∀ e : Engine, e.session.graphs = graphs →
      Engine.accept v e.session = .error why ∧ Engine.restore v e = .error why e) ∨
    ∃ saved, Saved.ofValue v = .ok saved ∧
      (∀ g ∈ graphs, ¬ saved.Mentions g.id →
        saved.instanceFor saved.ledger { graph := g } = { graph := g }) ∧
      ∀ e : Engine, e.session.graphs = graphs → Engine.accept v e.session = .ok saved ∧
        Engine.replaceBy saved e = .ok () (e.takenOver saved) ∧
        Engine.restore v e = .ok () (e.takenOver saved) := by
  cases hread : Saved.ofValue v with
  | error why =>
    refine .inl ⟨if why.isMalformed then .refused (.malformed why) else .fault why, fun e _ => ?_⟩
    suffices hrefused : Engine.accept v e.session = _ from
      ⟨hrefused, Engine.restore_of_refused hrefused⟩
    rw [Engine.accept, hread]
  | ok saved =>
    by_cases hrefused : ∃ (e : Engine) (why : SaveFault),
        e.session.graphs = graphs ∧ Engine.accept v e.session = .error why
    case pos =>
      -- What one session refuses, every session with the same graphs refuses.
      obtain ⟨e, why, he, hwhy⟩ := hrefused
      refine .inl ⟨why, fun f hf => ?_⟩
      have hf := (Engine.accept_congr v (hf.trans he.symm)).trans hwhy
      exact ⟨hf, Engine.restore_of_refused hf⟩
    case neg =>
      simp only [not_exists, not_and] at hrefused
      refine .inr ⟨saved, rfl, fun g _ => Saved.instanceFor_of_unmentioned, fun e he => ?_⟩
      cases haccept : Engine.accept v e.session with
      | error why => exact absurd haccept (hrefused e why he)
      | ok accepted =>
        obtain rfl : saved = accepted :=
          Except.ok.inj (hread.symm.trans (Engine.of_accept haccept).1)
        have hlog := Engine.ordered_of_accept haccept
        rw [Engine.takenOver_eq]
        exact ⟨rfl, Engine.replaceBy_eq e hlog, Engine.restore_of_accept haccept hlog⟩

end Questline
