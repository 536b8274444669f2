import Questline.History.Replay
import Questline.Proofs.Games
import Questline.Proofs.Ledgers
import Questline.Proofs.Reading

/-! The log accounts for the ledger.  An entry is replayed with all its outcomes first and all its
changes of lifecycles after, though the two came about in turns; that makes no difference, since
neither of them touches what the other is about. -/

namespace Questline

namespace Outcome

variable {cfg : Settings} {o : Outcome}

/-- An outcome that has the target that its kind needs never fails on a ledger. -/
theorem onLedger_of_target (h : ∀ field, o.kind.targetField? = some field →
    ∃ s, s ≠ "" ∧ o.target = some s) (cfg : Settings) (l : Ledger) :
    ∃ m, o.onLedger cfg l = .ok m := by
  unfold Outcome.onLedger
  split
  next => exact ⟨_, rfl⟩
  next htarget hkind =>
    cases hfield : o.kind.targetField? with
    | none => cases hk : o.kind <;> simp_all [OutcomeKind.targetField?]
    | some field =>
      obtain ⟨s, _, hs⟩ := h field hfield
      cases hs.symm.trans htarget
  all_goals exact ⟨_, rfl⟩

theorem Regular.onLedger (h : o.Regular) (cfg : Settings) (l : Ledger) :
    ∃ m, o.onLedger cfg l = .ok m := onLedger_of_target h.target cfg l

/-- What the data of an outcome does not tell does not matter to the ledger. -/
theorem onLedger_told (cfg : Settings) (o : Outcome) (l : Ledger) :
    o.told.onLedger cfg l = o.onLedger cfg l := by
  obtain ⟨kind, target, amount, fail, id⟩ := o
  cases kind <;> cases target <;> rfl

theorem Readable.replayOutcome (h : o.Readable) (l : Ledger) :
    Ledger.replayOutcome cfg l o.toTable = o.onLedger cfg l := by
  rw [Ledger.replayOutcome, h.read_toTable, ok_bind, onLedger_told]

end Outcome

namespace Ledger

def putStates (states : Assoc Atom Lifecycle) (changes : List (String × Lifecycle)) :
    Assoc Atom Lifecycle :=
  changes.foldl (fun states (g, state) => Assoc.put states (.text g) state) states

theorem foldlM_replayTransition (l : Ledger) (changes : List (String × Lifecycle)) :
    (changes.map fun (g, state) => (Value.text g, state)).foldlM replayTransition l =
      .ok { l with questState := putStates l.questState changes } := by
  induction changes generalizing l with
  | nil => rfl
  | cons c rest ih => exact ih { l with questState := Assoc.put l.questState (.text c.1) c.2 }

end Ledger

namespace Session

/-- The log, and what is pending after it, lead to the ledger as it is. -/
def Accounted (cfg : Settings) (s : Session) : Prop :=
  ∃ base now, Ledger.replay cfg s.log.entries = .ok base ∧
    (s.pending.elim [] (·.outcomes)).foldlM (Ledger.replayOutcome cfg) base = .ok now ∧
    Ledger.Matches { now with
      questState := Ledger.putStates now.questState (s.pending.elim [] (·.transitions)) } s.ledger

variable {cfg : Settings} {reported : Outcome → Prop} {s t : Session}

theorem Accounted.congr (h : s.Accounted cfg) (hlog : t.log = s.log) (hledger : t.ledger = s.ledger)
    (houtcomes : t.pending.elim [] (·.outcomes) = s.pending.elim [] (·.outcomes))
    (htransitions : t.pending.elim [] (·.transitions) = s.pending.elim [] (·.transitions)) :
    t.Accounted cfg := by
  unfold Accounted
  rwa [hlog, hledger, houtcomes, htransitions]

theorem Accounted.applied (h : s.Accounted cfg) {o : Outcome} (ho : o.Readable)
    (hs : s.inEntry = true) (ht : Applied cfg o s t) : t.Accounted cfg := by
  obtain ⟨base, now, hbase, hnow, hmatches⟩ := h
  obtain ⟨p, hp⟩ := Option.isSome_iff_exists.1 hs
  obtain ⟨messages, _, hpending⟩ := ht.pending
  obtain ⟨next, hnext⟩ := Outcome.onLedger_of_target ho.target cfg now
  rw [hp] at hnow hmatches hpending
  refine ⟨base, next, ht.log ▸ hbase, ?_, ?_⟩
  · rw [hpending]
    change (p.outcomes ++ [o.toTable]).foldlM _ base = _
    rw [List.foldlM_append]
    rw [show p.outcomes.foldlM (Ledger.replayOutcome cfg) base = .ok now from hnow, ok_bind,
      List.foldlM_cons, ho.replayOutcome, hnext]
    rfl
  · rw [hpending]
    -- the outcome comes last here but before the transitions in the replay
    have hstate := Outcome.questState_of_onLedger hnext
    have hlive := o.onLedger_questState cfg now
      (Ledger.putStates now.questState p.transitions)
    rw [hnext] at hlive
    rcases hmatches.onLedger cfg o with ⟨l', m', hl', hm', hmatches'⟩ | ⟨hl', _⟩
    · cases hl'.symm.trans hlive
      rw [ht.ledger, hm']
      change Ledger.Matches { next with questState := Ledger.putStates next.questState _ } m'
      rw [hstate]
      exact hmatches'
    · cases hl'.symm.trans hlive

theorem Accounted.closed {p : Pending} (h : s.Accounted cfg) (hp : s.pending = some p) :
    (s.closed p).Accounted cfg := by
  obtain ⟨base, now, hbase, hnow, hmatches⟩ := h
  rw [hp] at hnow hmatches
  refine ⟨{ now with questState := Ledger.putStates now.questState p.transitions }, _, ?_, rfl,
    hmatches⟩
  change Ledger.replay cfg (s.log.entries ++ [s.entry p]) = _
  unfold Ledger.replay at hbase ⊢
  rw [List.foldlM_append, hbase, ok_bind, List.foldlM_cons, Ledger.replayEntry]
  change ((p.outcomes.foldlM (Ledger.replayOutcome cfg) base >>= fun l => _) >>= fun l => _) = _
  rw [show p.outcomes.foldlM (Ledger.replayOutcome cfg) base = .ok now from hnow, ok_bind]
  change (((p.transitions.map fun (g, state) => (Value.text g, state)).foldlM
    Ledger.replayTransition now) >>= fun l => _) = _
  rw [Ledger.foldlM_replayTransition, ok_bind]
  rfl

/-- Acts keep the log accounting for the ledger as long as what they apply can be read again. -/
theorem Accounted.run (h : s.Accounted cfg) {a : Act} (ha : a.Lawful reported s)
    (hread : ∀ c o, a = .applies c o → o.Readable) : (a.run cfg s).Accounted cfg := by
  have hmakes := Act.makes cfg ha
  generalize a.run cfg s = t at hmakes ⊢
  cases hmakes with
  | opens hnone => exact h.congr rfl rfl (by rw [hnone]; rfl) (by rw [hnone]; rfl)
  | applies happlied => exact h.applied (hread _ _ rfl) ha.1 happlied
  | @moves g state =>
    obtain ⟨p, hp⟩ := Option.isSome_iff_exists.1 ha.1
    obtain ⟨base, now, hbase, hnow, hmatches⟩ := h
    rw [hp] at hnow hmatches
    have hpending : (s.moved g state).pending =
        some { p with transitions := p.transitions ++ [(g, state)] } := by
      change Option.map _ s.pending = _
      rw [hp]
      rfl
    refine ⟨base, now, hbase, by rw [hpending]; exact hnow, ?_⟩
    have hmoved := hmatches.setState g state
    rw [hpending]
    refine ⟨hmoved.flags, hmoved.reputation, ?_, hmoved.relationship⟩
    refine Eq.trans ?_ hmoved.questState
    change Ledger.putStates _ (p.transitions ++ [(g, state)]) = _
    rw [Ledger.putStates, List.foldl_append]
    rfl
  | remarks =>
    cases hp : s.pending <;> exact h.congr rfl rfl (by simp [remarked, hp]) (by simp [remarked, hp])
  | closes hp => exact h.closed hp
  | drops hp hchanges =>
    simp only [Pending.hasChanges, Bool.not_eq_false', Bool.and_eq_true, List.isEmpty_iff]
      at hchanges
    exact h.congr rfl rfl (by rw [hp]; exact hchanges.1.symm) (by rw [hp]; exact hchanges.2.symm)
  | enters | asks | turns => exact h.congr rfl rfl rfl rfl

end Session

end Questline
