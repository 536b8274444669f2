import Questline.Engine.Saved
import Questline.Proofs.Registration

/-! A save that is accepted is taken over as a whole.  The checks before it are strong enough for
the agreement to hold of any save that passes them. -/

namespace Questline

namespace EventLog

/-- The log takes its own entries again, one after the other. -/
def Ordered (log : EventLog) : Prop := log.entries.foldlM append empty = .ok log

theorem Ordered.empty : Ordered empty := rfl

theorem Ordered.append {log log' : EventLog} {e : Entry} (h : log.Ordered)
    (he : log.append e = .ok log') : log'.Ordered := by
  unfold Ordered at *
  rw [entries_of_append he, List.foldlM_append, h, ok_bind]
  change (log.append e >>= Pure.pure) = _
  rw [he]
  rfl

theorem ordered_of_ofValue {v : Value} {log : EventLog} (h : ofValue v = .ok log) :
    log.Ordered := by
  obtain ⟨items, _, h⟩ := bind_eq_ok.1 h
  refine foldlM_keeps (fun log item log' hlog hstep => ?_) .empty h
  obtain ⟨entry, _, hstep⟩ := bind_eq_ok.1 hstep
  exact hlog.append hstep

end EventLog

namespace Ledger

theorem text_of_ofValue {v : Value} {l : Ledger} (h : ofValue v = .ok l) {k : Atom}
    (hk : k ∈ Assoc.keys l.questState) : ∃ g, k = .text g := by
  unfold ofValue at h
  obtain ⟨_, _, h⟩ := bind_eq_ok.1 h
  obtain ⟨_, _, h⟩ := bind_eq_ok.1 h
  obtain ⟨_, _, h⟩ := bind_eq_ok.1 h
  obtain ⟨_, _, h⟩ := bind_eq_ok.1 h
  obtain ⟨_, _, h⟩ := bind_eq_ok.1 h
  obtain ⟨states, _, h⟩ := bind_eq_ok.1 h
  obtain ⟨_, _, h⟩ := bind_eq_ok.1 h
  obtain ⟨_, _, h⟩ := bind_eq_ok.1 h
  cases h
  obtain ⟨p, hp, rfl⟩ := List.mem_map.1 hk
  obtain ⟨q, _, rfl⟩ := List.mem_map.1 hp
  exact ⟨q.1, rfl⟩

end Ledger

namespace Engine

def restoredSession (saved : Saved) (s : Session) : Session :=
  { s with
    ledger := saved.ledger
    log := saved.log
    instances := s.instances.map (saved.instanceFor saved.ledger)
    ending := saved.ending }

theorem appendAll_eq {entries : List Entry} {e : Engine} {before log : EventLog}
    (h : entries.foldlM EventLog.append before = .ok log) (he : e.session.log = before) :
    appendAll entries e = .ok () { e with session := { e.session with log } } := by
  induction entries generalizing e before with
  | nil =>
    cases h
    rw [← he]
    rfl
  | cons entry rest ih =>
    rw [List.foldlM_cons, bind_eq_ok] at h
    obtain ⟨log', hlog', h⟩ := h
    rw [appendAll]
    rw [run_get, he, hlog']
    exact ih h rfl

/-- Nothing can go wrong while everything is replaced by what a save says. -/
theorem replaceBy_eq {saved : Saved} (e : Engine) (hlog : saved.log.Ordered) :
    replaceBy saved e =
      .ok () { session := restoredSession saved e.session, diagnostics := [] } := by
  unfold replaceBy
  simp only [run_modify]
  simp only [bind, EStateM.bind]
  rw [appendAll_eq hlog]
  · rfl
  · rfl

/-- What is accepted is taken over, and nothing can go wrong on the way. -/
theorem restore_of_accept {v : Value} {e : Engine} {saved : Saved}
    (h : accept v e.session = .ok saved) (hlog : saved.log.Ordered) : restore v e =
      .ok () { session := restoredSession saved e.session, diagnostics := [] } := by
  unfold restore
  rw [run_get, h]
  exact replaceBy_eq e hlog

theorem restore_of_refused {v : Value} {e : Engine} {why : SaveFault}
    (h : accept v e.session = .error why) : restore v e = .error why e := by
  unfold restore
  rw [run_get, h]
  rfl

theorem of_accept {v : Value} {s : Session} {saved : Saved} (h : accept v s = .ok saved) :
    Saved.ofValue v = .ok saved ∧ saved.check s = .ok () := by
  unfold accept at h
  split at h
  · cases h
  next saved' hread =>
    split at h
    · cases h
    next hcheck =>
      cases h
      exact ⟨hread, hcheck⟩

end Engine

namespace Saved

theorem of_ofValue {v : Value} {saved : Saved} (h : ofValue v = .ok saved) :
    (∃ w, Ledger.ofValue w = .ok saved.ledger) ∧ ∃ w, EventLog.ofValue w = .ok saved.log := by
  unfold ofValue at h
  obtain ⟨ledgerData, _, h⟩ := bind_eq_ok.1 h
  obtain ⟨ledger, hledger, h⟩ := bind_eq_ok.1 h
  obtain ⟨_, _, h⟩ := bind_eq_ok.1 h
  obtain ⟨_, _, h⟩ := bind_eq_ok.1 h
  obtain ⟨_, _, h⟩ := bind_eq_ok.1 h
  obtain ⟨_, _, h⟩ := bind_eq_ok.1 h
  obtain ⟨_, _, h⟩ := bind_eq_ok.1 h
  obtain ⟨_, _, h⟩ := bind_eq_ok.1 h
  obtain ⟨logData, _, h⟩ := bind_eq_ok.1 h
  obtain ⟨log, hlog, h⟩ := bind_eq_ok.1 h
  obtain ⟨_, _, h⟩ := bind_eq_ok.1 h
  cases h
  exact ⟨⟨ledgerData, hledger⟩, logData, hlog⟩

/-- What the checks of a save establish. -/
structure Fits (saved : Saved) (s : Session) : Prop where
  ledger : ∀ k a, (k, a) ∈ saved.ledger.questState →
    Assoc.has saved.states (Value.atom k).plain = true
  graph : ∀ g state, (g, state) ∈ saved.states → (s.instance? g).isSome = true
  recorded : ∀ g state, (g, state) ∈ saved.states → saved.ledger.stateOf g = state
  active : ∀ g, (g, .inProgress) ∈ saved.states → Assoc.has saved.activeNodes g = true
  node : ∀ g n, (g, n) ∈ saved.activeNodes → ∃ i, s.instance? g = some i ∧
    Assoc.get? saved.states g = some .inProgress ∧ i.graph.hasNode n = true
  unlocked : ∀ g ∈ saved.unlocked, (s.instance? g).isSome = true

theorem checkLedgerState_eq_ok {saved : Saved} {k : Atom} :
    saved.checkLedgerState k = .ok () ↔ Assoc.has saved.states (Value.atom k).plain = true := by
  unfold checkLedgerState
  dsimp only
  split <;> simp_all

theorem checkState_eq_ok {saved : Saved} {s : Session} {g : String} {state : Lifecycle} :
    saved.checkState s (g, state) = .ok () ↔ (s.instance? g).isSome = true ∧
      saved.ledger.stateOf g = state ∧
      (state = .inProgress → Assoc.has saved.activeNodes g = true) := by
  unfold checkState
  dsimp only
  cases hi : s.instance? g with
  | none => simp
  | some i =>
    by_cases hstate : saved.ledger.stateOf g = state
    · cases hactive : Assoc.has saved.activeNodes g <;>
        by_cases hprogress : state = .inProgress <;> simp [hstate, hprogress]
    · simp [hstate]

theorem checkNode_eq_ok {saved : Saved} {s : Session} {g n : String} :
    saved.checkNode s (g, n) = .ok () ↔ ∃ i, s.instance? g = some i ∧
      Assoc.get? saved.states g = some .inProgress ∧ i.graph.hasNode n = true := by
  unfold checkNode
  dsimp only
  split
  next hnone => simp [hnone]
  next i hi =>
    split
    next hne => simp [hi, hne]
    next heq =>
      rw [not_not] at heq
      split <;> simp_all

theorem checkUnlocked_eq_ok {s : Session} {g : String} :
    checkUnlocked s g = .ok () ↔ (s.instance? g).isSome = true := by
  unfold checkUnlocked
  split <;> simp_all

/-- The checks pass just for the saves that fit. -/
theorem check_eq_ok {saved : Saved} {s : Session} : saved.check s = .ok () ↔ saved.Fits s := by
  have hchecks : saved.check s = .ok () ↔
      saved.ledger.questState.forM (fun p => saved.checkLedgerState p.1) = .ok () ∧
      saved.states.forM (saved.checkState s) = .ok () ∧
      saved.activeNodes.forM (saved.checkNode s) = .ok () ∧
      saved.unlocked.forM (checkUnlocked s) = .ok () := by
    unfold check
    simp only [bind_eq_ok]
    constructor
    · rintro ⟨_, hledger, _, hstates, _, hnodes, hunlocked⟩
      exact ⟨hledger, hstates, hnodes, hunlocked⟩
    · rintro ⟨hledger, hstates, hnodes, hunlocked⟩
      exact ⟨(), hledger, (), hstates, (), hnodes, hunlocked⟩
  rw [hchecks]
  simp only [forM_eq_ok, Prod.forall, checkLedgerState_eq_ok, checkState_eq_ok, checkNode_eq_ok,
    checkUnlocked_eq_ok]
  constructor
  · rintro ⟨hledger, hstates, hnodes, hunlocked⟩
    exact ⟨hledger, fun g state h => (hstates g state h).1,
      fun g state h => (hstates g state h).2.1, fun g h => (hstates g _ h).2.2 rfl, hnodes,
      hunlocked⟩
  · intro h
    refine ⟨h.ledger, fun g state hmem => ⟨h.graph g state hmem, h.recorded g state hmem, ?_⟩,
      h.node, h.unlocked⟩
    rintro rfl
    exact h.active g hmem

end Saved

namespace Engine

variable {v : Value} {saved : Saved} {s : Session}

theorem ordered_of_accept (h : accept v s = .ok saved) : saved.log.Ordered := by
  obtain ⟨w, hw⟩ := (Saved.of_ofValue (of_accept h).1).2
  exact EventLog.ordered_of_ofValue hw

/-- What has been restored was accepted before, and makes up the whole state. -/
theorem of_restore {e e' : Engine} (h : restore v e = .ok () e') :
    ∃ saved, accept v e.session = .ok saved ∧
      e' = { session := restoredSession saved e.session, diagnostics := [] } := by
  cases haccept : accept v e.session with
  | error why =>
    rw [restore_of_refused haccept] at h
    cases h
  | ok saved =>
    rw [restore_of_accept haccept (ordered_of_accept haccept)] at h
    cases h
    exact ⟨saved, rfl, rfl⟩

theorem graphs_restoredSession (saved : Saved) (s : Session) :
    (restoredSession saved s).graphs = s.graphs := by
  change (s.instances.map _).map _ = _
  rw [List.map_map]
  rfl

/-- Any save that passes the checks leads to a session that agrees. -/
theorem agrees_of_accept (hs : s.Sound) (h : accept v s = .ok saved) :
    (restoredSession saved s).Agrees := by
  have hfits := Saved.check_eq_ok.1 (of_accept h).2
  obtain ⟨w, hw⟩ := (Saved.of_ofValue (of_accept h).1).1
  have htext {k : Atom} (hk : k ∈ Assoc.keys saved.ledger.questState) :
      ∃ g state, k = .text g ∧ (g, state) ∈ saved.states := by
    obtain ⟨g, rfl⟩ := Ledger.text_of_ofValue hw hk
    obtain ⟨p, hp, hpk⟩ := List.mem_map.1 hk
    have hhas := hfits.ledger p.1 p.2 hp
    rw [hpk] at hhas
    obtain ⟨state, hstate⟩ := Option.isSome_iff_exists.1 hhas
    exact ⟨g, state, rfl, Assoc.mem_of_get? (Assoc.exact g) hstate⟩
  constructor
  · intro j hj
    obtain ⟨i, hi, rfl⟩ := List.mem_map.1 hj
    have hactive (n : String) (hn : Assoc.get? saved.activeNodes i.graph.id = some n) :
        saved.ledger.stateOf i.graph.id = .inProgress ∧ i.graph.hasNode n = true := by
      obtain ⟨k, hk, hstate, hnode⟩ :=
        hfits.node _ _ (Assoc.mem_of_get? (Assoc.exact _) hn)
      cases (Session.instance?_of_mem hs.distinct hi).symm.trans hk
      exact ⟨hfits.recorded _ _ (Assoc.mem_of_get? (Assoc.exact _) hstate), hnode⟩
    refine ⟨rfl, ⟨fun hsome => ?_, fun hprogress => ?_⟩, fun n hn => (hactive n hn).2⟩
    · obtain ⟨n, hn⟩ := Option.isSome_iff_exists.1 hsome
      exact (hactive n hn).1
    · have hprogress : saved.ledger.stateOf i.graph.id = .inProgress := hprogress
      obtain ⟨g, state, hg, hmem⟩ :=
        htext (Ledger.mem_keys_of_stateOf (l := saved.ledger) (by rw [hprogress]; simp))
      cases hg
      have hsame := hfits.recorded _ _ hmem
      rw [hprogress] at hsame
      exact hfits.active _ (hsame ▸ hmem)
  · intro k hk
    obtain ⟨g, state, rfl, hmem⟩ := htext hk
    obtain ⟨i, hi⟩ := Option.isSome_iff_exists.1 (hfits.graph _ _ hmem)
    refine ⟨_, List.mem_map_of_mem (Session.mem_of_instance? hi), ?_⟩
    exact congrArg Atom.text (Session.id_of_instance? hi).symm

end Engine

end Questline
