import Questline.Proofs.Accounts
import Questline.Proofs.RoundTrip

/-! What can be done with a game that has been taken up from a save.  A save is read part by part,
but its flags, the outcomes in its log and the names of graphs there are taken as they come, so
whether the game can be saved again and checked against its log depends on them. -/

namespace Questline

/-- An entry that can be replayed: each outcome reads as one, and each graph can be the key of a
table. -/
structure Entry.Replayable (e : Entry) : Prop where
  outcomes : ∀ o ∈ e.outcomes, ∃ outcome, Outcome.read (.table o) none = .ok outcome
  transitions : ∀ t ∈ e.transitions, ∃ graph, t.1.readAtom = .ok graph

namespace Ledger

variable {cfg : Settings} {l m : Ledger}

theorem replayOutcome_eq_ok (o : Table) (l : Ledger) : (∃ m, replayOutcome cfg l o = .ok m) ↔
    ∃ outcome, Outcome.read (.table o) none = .ok outcome := by
  constructor
  · intro ⟨m, hm⟩
    obtain ⟨outcome, hread, _⟩ := bind_eq_ok.1 hm
    exact ⟨outcome, hread⟩
  · intro ⟨outcome, hread⟩
    obtain ⟨fields, _, htarget, _⟩ := Outcome.of_read hread
    obtain ⟨m, hm⟩ := Outcome.onLedger_of_target (Outcome.of_readTarget htarget).1 cfg l
    exact ⟨m, by rw [replayOutcome, hread, ok_bind, hm]⟩

theorem replayTransition_eq_ok (t : Value × Lifecycle) (l : Ledger) :
    (∃ m, replayTransition l t = .ok m) ↔ ∃ graph, t.1.readAtom = .ok graph := by
  constructor
  · intro ⟨m, hm⟩
    obtain ⟨graph, hgraph, _⟩ := bind_eq_ok.1 hm
    exact ⟨graph, hgraph⟩
  · intro ⟨graph, hgraph⟩
    exact ⟨_, by rw [replayTransition, hgraph, ok_bind]; rfl⟩

theorem replayEntry_eq_ok (e : Entry) (l : Ledger) :
    (∃ m, replayEntry cfg l e = .ok m) ↔ e.Replayable := by
  constructor
  · intro ⟨m, hm⟩
    obtain ⟨between, houtcomes, htransitions⟩ := bind_eq_ok.1 hm
    exact ⟨(foldlM_eq_ok replayOutcome_eq_ok).1 ⟨between, houtcomes⟩,
      (foldlM_eq_ok replayTransition_eq_ok).1 ⟨m, htransitions⟩⟩
  · intro h
    obtain ⟨between, hbetween⟩ : ∃ between, e.outcomes.foldlM (replayOutcome cfg) l = .ok between :=
      (foldlM_eq_ok replayOutcome_eq_ok).2 h.outcomes
    obtain ⟨m, hm⟩ := (foldlM_eq_ok replayTransition_eq_ok).2 h.transitions
    exact ⟨m, by rw [replayEntry, hbetween, ok_bind, hm]⟩

/-- A log can be replayed just if each entry can. -/
theorem replay_eq_ok {entries : List Entry} :
    (∃ l, replay cfg entries = .ok l) ↔ ∀ e ∈ entries, e.Replayable :=
  foldlM_eq_ok replayEntry_eq_ok

/-- Replaying makes a ledger that is tidy but for the graphs, which are named by whatever the log
has. -/
theorem tidy_of_replay {entries : List Entry} (h : replay cfg entries = .ok l) :
    Tidy { l with questState := [] } := by
  refine foldlM_keeps (I := fun l => Tidy { l with questState := [] }) ?_ .empty h
  intro l e m hl hm
  obtain ⟨between, houtcomes, htransitions⟩ := bind_eq_ok.1 hm
  have hbetween : Tidy { between with questState := [] } := by
    refine foldlM_keeps (I := fun l => Tidy { l with questState := [] }) ?_ hl houtcomes
    intro l o m hl hm
    obtain ⟨outcome, _, hm⟩ := bind_eq_ok.1 hm
    have hsame := outcome.onLedger_questState cfg l []
    rw [hm] at hsame
    exact hl.onLedger hsame
  refine foldlM_keeps (I := fun l => Tidy { l with questState := [] }) ?_ hbetween htransitions
  intro l t m hl hm
  obtain ⟨graph, _, hm⟩ := bind_eq_ok.1 hm
  cases hm
  exact hl

theorem sortedFlags_eq_ok :
    (∃ flags, l.sortedFlags = .ok flags) ↔ l.flags.Pairwise Atom.Comparable := Atom.sort_eq_ok

theorem describe_eq_ok :
    (∃ line, l.describe = .ok line) ↔ l.flags.Pairwise Atom.Comparable := by
  rw [← sortedFlags_eq_ok]
  constructor
  · intro ⟨line, h⟩
    obtain ⟨flags, hflags, _⟩ := bind_eq_ok.1 h
    exact ⟨flags, hflags⟩
  · intro ⟨flags, hflags⟩
    exact ⟨_, by rw [describe, hflags, ok_bind]; rfl⟩

/-- Only texts are the same as texts. -/
theorem comparable_of_same (hl : Atom.Texts l.flags) (hnodup : l.flags.Nodup)
    (h : l.same m = true) : m.flags.Pairwise Atom.Comparable := by
  unfold same at h
  simp only [Bool.and_eq_true, beq_iff_eq, List.all_eq_true] at h
  obtain ⟨⟨⟨⟨hlength, hflags⟩, _⟩, _⟩, _⟩ := h
  have hsubset : l.flags ⊆ m.flags := by
    intro a ha
    obtain ⟨s, rfl⟩ := hl a ha
    exact (Atom.contains_text _ _).1 (hflags _ ha)
  have hperm : l.flags.Perm m.flags :=
    (List.subperm_of_subset hnodup hsubset).perm_of_length_le hlength.ge
  exact Atom.Texts.comparable fun a ha => hl a (hperm.mem_iff.2 ha)

end Ledger

namespace Engine

variable {cfg : Settings} {e : Engine}

theorem serialize_eq_ok :
    (∃ data, e.serialize = .ok data) ↔ e.session.ledger.flags.Pairwise Atom.Comparable := by
  rw [← Ledger.sortedFlags_eq_ok]
  constructor
  · intro ⟨data, h⟩
    obtain ⟨v, hv, _⟩ := bind_eq_ok.1 h
    obtain ⟨flags, hflags, _⟩ := bind_eq_ok.1 hv
    exact ⟨flags, hflags⟩
  · intro ⟨flags, hflags⟩
    exact ⟨_, by rw [serialize, Ledger.toValue, hflags]; rfl⟩

/-- A mismatch is told with both ledgers, so not only the log has to be in order. -/
theorem verifyReplay_eq_ok : (∃ same, e.verifyReplay cfg = .ok same) ↔
    e.session.ledger.flags.Pairwise Atom.Comparable ∧
      ∀ entry ∈ e.session.log.entries, entry.Replayable := by
  constructor
  · intro ⟨same, h⟩
    obtain ⟨replayed, hreplayed, h⟩ := bind_eq_ok.1 h
    refine ⟨?_, Ledger.replay_eq_ok.1 ⟨replayed, hreplayed⟩⟩
    have htidy := Ledger.tidy_of_replay hreplayed
    split at h
    next hsame => exact Ledger.comparable_of_same (l := replayed) htidy.texts htidy.flags hsame
    next =>
      obtain ⟨_, _, h⟩ := bind_eq_ok.1 h
      obtain ⟨line, hline, _⟩ := bind_eq_ok.1 h
      exact Ledger.describe_eq_ok.1 ⟨line, hline⟩
  · intro ⟨hflags, hentries⟩
    obtain ⟨replayed, hreplayed⟩ : ∃ l, Ledger.replay cfg e.session.log.entries = .ok l :=
      Ledger.replay_eq_ok.2 hentries
    have htidy := Ledger.tidy_of_replay hreplayed
    obtain ⟨line, hline⟩ := (Ledger.describe_eq_ok (l := replayed)).2 htidy.texts.comparable
    obtain ⟨line', hline'⟩ := Ledger.describe_eq_ok.2 hflags
    rw [verifyReplay, replay, hreplayed, ok_bind]
    split
    · exact ⟨true, rfl⟩
    · exact ⟨false, by rw [hline, ok_bind, hline', ok_bind]; rfl⟩

end Engine

end Questline
