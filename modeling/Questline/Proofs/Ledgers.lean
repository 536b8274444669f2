import Questline.Outcome
import Questline.Proofs.Results
import Questline.Proofs.Sorting
import Questline.Proofs.Tables

/-! Ledgers that hold the same, with their flags in any order.  A ledger that outcomes have made is
tidy: its flags are texts, and nothing stands in it twice. -/

namespace Questline

namespace Atom

def Texts (atoms : List Atom) : Prop := ∀ a ∈ atoms, ∃ s, a = .text s

def isText : Atom → Bool
  | .text _ => true
  | _ => false

theorem texts_iff {atoms : List Atom} : atoms.all isText = true ↔ Texts atoms := by
  rw [List.all_eq_true]
  refine forall₂_congr fun a _ => ?_
  cases a <;> simp [isText]

def textBefore (a b : Atom) : Prop := ∃ s t : String, a = .text s ∧ b = .text t ∧ s ≤ t

theorem Texts.comparable {atoms : List Atom} (h : Texts atoms) :
    atoms.Pairwise Comparable := by
  refine List.pairwise_of_forall_mem_list fun a ha b hb => ?_
  obtain ⟨s, rfl⟩ := h a ha
  obtain ⟨t, rfl⟩ := h b hb
  rfl

theorem insertSorted_texts {a : Atom} {l m : List Atom} (hl : Texts (a :: l))
    (hsorted : l.Pairwise textBefore) (h : insertSorted a l = .ok m) : m.Pairwise textBefore := by
  induction l generalizing m with
  | nil =>
    cases h
    exact List.pairwise_singleton _ _
  | cons b rest ih =>
    obtain ⟨⟨s, rfl⟩, ⟨t, rfl⟩, hrest⟩ :
        (∃ s, a = .text s) ∧ (∃ t, b = .text t) ∧ Texts rest := by
      simpa [Texts] using hl
    rw [insertSorted] at h
    rw [List.pairwise_cons] at hsorted
    by_cases hlt : s < t
    · cases (by simpa [before?, hlt] using h : Atom.text s :: .text t :: rest = m)
      have hle : s ≤ t := String.not_lt.1 fun h => String.lt_irrefl _ (String.lt_trans hlt h)
      refine List.pairwise_cons.2 ⟨fun c hc => ?_, List.pairwise_cons.2 hsorted⟩
      rcases List.mem_cons.1 hc with rfl | hc
      · exact ⟨s, t, rfl, rfl, hle⟩
      · obtain ⟨_, u, ht, hu, hle'⟩ := hsorted.1 c hc
        cases ht
        exact ⟨s, u, rfl, hu, String.le_trans hle hle'⟩
    · obtain ⟨m, hm, rfl⟩ := map_eq_ok.1 (by simpa [before?, hlt] using h)
      have htexts : Texts (.text s :: rest) := List.forall_mem_cons.2 ⟨⟨s, rfl⟩, hrest⟩
      refine List.pairwise_cons.2 ⟨fun c hc => ?_, ih htexts hsorted.2 hm⟩
      rcases List.mem_cons.1 ((perm_of_insertSorted hm).subset hc) with rfl | hc
      · exact ⟨t, s, rfl, rfl, String.not_lt.1 hlt⟩
      · exact hsorted.1 c hc

/-- Texts can be sorted, and come out in the same order however they stood. -/
theorem sort_texts {l : List Atom} (hl : Texts l) :
    ∃ m, sort l = .ok m ∧ m.Perm l ∧ m.Pairwise textBefore := by
  obtain ⟨m, hm⟩ := sort_eq_ok.2 hl.comparable
  have hperm := perm_of_sort hm
  refine ⟨m, hm, hperm, ?_⟩
  -- what has been inserted so far is in order, as it can only be texts if all of it turns out so
  refine foldlM_keeps (I := fun sorted => Texts sorted → sorted.Pairwise textBefore)
    (fun sorted a next hsorted hnext htexts => ?_) (fun _ => .nil) hm
    fun a ha => hl a (hperm.subset ha)
  have hall : Texts (a :: sorted) := fun b hb =>
    htexts b ((perm_of_insertSorted hnext).symm.subset hb)
  exact insertSorted_texts hall (hsorted fun b hb => hall b (List.mem_cons_of_mem _ hb)) hnext

theorem sort_perm {l m : List Atom} (hl : Texts l) (h : l.Perm m) : sort l = sort m := by
  obtain ⟨l', hl', hlperm, hlpairs⟩ := sort_texts hl
  obtain ⟨m', hm', hmperm, hmpairs⟩ := sort_texts (l := m) fun a ha => hl a (h.mem_iff.2 ha)
  have hsame : l' = m' := by
    refine List.Perm.eq_of_pairwise ?_ hlpairs hmpairs (hlperm.trans (h.trans hmperm.symm))
    rintro a b _ _ ⟨s, t, rfl, rfl, hst⟩ ⟨t', s', ht, hs, hts⟩
    cases ht
    cases hs
    rw [String.le_antisymm hst hts]
  rw [hl', hm', hsame]

end Atom

namespace Ledger

/-- Two ledgers with the same flags, whatever their order, and all else the same. -/
structure Matches (l m : Ledger) : Prop where
  flags : l.flags.Perm m.flags
  reputation : l.reputation = m.reputation
  questState : l.questState = m.questState
  relationship : l.relationship = m.relationship

theorem Matches.refl (l : Ledger) : l.Matches l := ⟨.refl _, rfl, rfl, rfl⟩

variable {cfg : Settings} {l m l' : Ledger}

theorem Matches.symm (h : l.Matches m) : m.Matches l :=
  ⟨h.flags.symm, h.reputation.symm, h.questState.symm, h.relationship.symm⟩

theorem Matches.trans (h : l.Matches m) (h' : m.Matches l') : l.Matches l' :=
  ⟨h.flags.trans h'.flags, h.reputation.trans h'.reputation, h.questState.trans h'.questState,
    h.relationship.trans h'.relationship⟩

theorem Matches.hasFlag (h : l.Matches m) (flag : String) : l.hasFlag flag = m.hasFlag flag := by
  rw [Bool.eq_iff_iff, Ledger.hasFlag, Ledger.hasFlag, Atom.contains_text, Atom.contains_text]
  exact h.flags.mem_iff

theorem Matches.setFlag (h : l.Matches m) (flag : String) :
    (l.setFlag flag).Matches (m.setFlag flag) := by
  unfold Ledger.setFlag
  rw [h.hasFlag flag]
  split
  · exact h
  · exact ⟨h.flags.append_right _, h.reputation, h.questState, h.relationship⟩

theorem Matches.clearFlag (h : l.Matches m) (flag : String) :
    (l.clearFlag flag).Matches (m.clearFlag flag) :=
  ⟨h.flags.filter _, h.reputation, h.questState, h.relationship⟩

theorem Matches.setState (h : l.Matches m) (g : String) (state : Lifecycle) :
    (l.setState g state).Matches (m.setState g state) :=
  ⟨h.flags, h.reputation, by rw [Ledger.setState, Ledger.setState, h.questState], h.relationship⟩

theorem Matches.shiftReputation (h : l.Matches m) (faction : String) (amount : Int) :
    (l.shiftReputation cfg faction amount).Matches (m.shiftReputation cfg faction amount) := by
  unfold Ledger.shiftReputation Ledger.setReputation reputationOf
  rw [h.reputation]
  exact ⟨h.flags, rfl, h.questState, h.relationship⟩

theorem Matches.changeReputation (h : l.Matches m) (faction : String) (amount : Int) :
    (l.changeReputation cfg faction amount).Matches (m.changeReputation cfg faction amount) := by
  obtain ⟨shifts, hshifts⟩ := changeReputation_eq cfg faction amount
  rw [hshifts, hshifts]
  clear hshifts
  induction shifts generalizing l m with
  | nil => exact h
  | cons p rest ih => exact ih (h.shiftReputation p.1 p.2)

theorem Matches.changeRelationship (h : l.Matches m) (companion : String) (amount : Int) :
    (l.changeRelationship cfg companion amount).Matches
      (m.changeRelationship cfg companion amount) := by
  unfold Ledger.changeRelationship Ledger.setRelationship relationshipWith
  rw [h.relationship]
  exact ⟨h.flags, h.reputation, h.questState, rfl⟩

theorem Matches.meetCompanion (h : l.Matches m) (companion : String) :
    (l.meetCompanion cfg companion).Matches (m.meetCompanion cfg companion) := by
  unfold Ledger.meetCompanion knowsCompanion Ledger.setRelationship
  rw [h.relationship]
  split
  · exact h
  · exact ⟨h.flags, h.reputation, h.questState, rfl⟩

theorem Matches.onLedger (h : l.Matches m) (cfg : Settings) (o : Outcome) :
    (∃ l' m', o.onLedger cfg l = .ok l' ∧ o.onLedger cfg m = .ok m' ∧ l'.Matches m') ∨
    (o.onLedger cfg l = .error .unexpected ∧ o.onLedger cfg m = .error .unexpected) := by
  unfold Outcome.onLedger
  split
  · exact .inl ⟨_, _, rfl, rfl, h⟩
  · exact .inr ⟨rfl, rfl⟩
  · exact .inl ⟨_, _, rfl, rfl, h.changeReputation _ _⟩
  · exact .inl ⟨_, _, rfl, rfl, h.setFlag _⟩
  · exact .inl ⟨_, _, rfl, rfl, h.clearFlag _⟩
  · exact .inl ⟨_, _, rfl, rfl, h.meetCompanion _⟩
  · exact .inl ⟨_, _, rfl, rfl, h.changeRelationship _ _⟩
  · exact .inl ⟨_, _, rfl, rfl, h⟩

/-- Nothing stands in a ledger twice, flags are texts, and so are the names of graphs. -/
structure Tidy (l : Ledger) : Prop where
  texts : Atom.Texts l.flags
  flags : l.flags.Nodup
  reputation : (Assoc.keys l.reputation).Nodup
  graphs : Atom.Texts (Assoc.keys l.questState)
  questState : (Assoc.keys l.questState).Nodup
  relationship : (Assoc.keys l.relationship).Nodup

namespace Tidy

theorem empty : Ledger.empty.Tidy := by
  constructor <;> simp [Ledger.empty, Atom.Texts]

theorem setFlag (h : l.Tidy) (flag : String) : (l.setFlag flag).Tidy := by
  unfold Ledger.setFlag
  split
  · exact h
  next hflag =>
    rw [Ledger.hasFlag, Atom.contains_text] at hflag
    refine ⟨fun a ha => ?_, ?_, h.reputation, h.graphs, h.questState, h.relationship⟩
    · rcases List.mem_append.1 ha with ha | ha
      · exact h.texts a ha
      · exact ⟨flag, by simpa using ha⟩
    · change (l.flags ++ [Atom.text flag]).Nodup
      rw [← List.concat_eq_append]
      exact h.flags.concat hflag

theorem clearFlag (h : l.Tidy) (flag : String) : (l.clearFlag flag).Tidy :=
  ⟨fun a ha => h.texts a (List.mem_filter.1 ha).1, h.flags.filter _, h.reputation, h.graphs,
    h.questState, h.relationship⟩

theorem setState (h : l.Tidy) (g : String) (state : Lifecycle) : (l.setState g state).Tidy := by
  refine ⟨h.texts, h.flags, h.reputation, fun k hk => ?_,
    Assoc.nodup_keys_put _ (Atom.exact_text g) h.questState, h.relationship⟩
  rcases (Assoc.mem_keys_put state (Atom.exact_text g)).1 hk with hk | rfl
  · exact h.graphs k hk
  · exact ⟨g, rfl⟩

theorem shiftReputation (h : l.Tidy) (faction : String) (amount : Int) :
    (l.shiftReputation cfg faction amount).Tidy :=
  ⟨h.texts, h.flags, Assoc.nodup_keys_put _ (Assoc.exact faction) h.reputation, h.graphs,
    h.questState, h.relationship⟩

theorem changeReputation (h : l.Tidy) (faction : String) (amount : Int) :
    (l.changeReputation cfg faction amount).Tidy := by
  obtain ⟨shifts, hshifts⟩ := changeReputation_eq cfg faction amount
  rw [hshifts]
  clear hshifts
  induction shifts generalizing l with
  | nil => exact h
  | cons p rest ih => exact ih (h.shiftReputation p.1 p.2)

theorem setRelationship (h : l.Tidy) (companion : String) (value : Int) :
    (l.setRelationship cfg companion value).Tidy :=
  ⟨h.texts, h.flags, h.reputation, h.graphs, h.questState,
    Assoc.nodup_keys_put _ (Assoc.exact companion) h.relationship⟩

theorem onLedger (h : l.Tidy) {o : Outcome} (ho : o.onLedger cfg l = .ok l') : l'.Tidy := by
  unfold Outcome.onLedger at ho
  split at ho <;> cases ho
  · exact h
  · exact h.changeReputation _ _
  · exact h.setFlag _
  · exact h.clearFlag _
  · unfold Ledger.meetCompanion
    split
    · exact h
    · exact h.setRelationship _ _
  · exact h.setRelationship _ _
  · exact h

theorem of_matches (h : l.Tidy) (hm : l.Matches m) : m.Tidy :=
  ⟨fun a ha => h.texts a (hm.flags.mem_iff.2 ha), hm.flags.nodup_iff.1 h.flags,
    hm.reputation ▸ h.reputation, hm.questState ▸ h.graphs, hm.questState ▸ h.questState,
    hm.relationship ▸ h.relationship⟩

end Tidy

/-- Ledgers that match are found to be the same. -/
theorem Matches.same (h : l.Matches m) (hm : m.Tidy) : l.same m = true := by
  have hflags : l.flags.all m.flags.contains = true := by
    rw [List.all_eq_true]
    intro a ha
    obtain ⟨s, rfl⟩ := hm.texts a (h.flags.mem_iff.1 ha)
    exact (Atom.contains_text _ _).2 (h.flags.mem_iff.1 ha)
  have hgraphs : ∀ k ∈ Assoc.keys m.questState, Assoc.Exact k := by
    intro k hk
    obtain ⟨g, rfl⟩ := hm.graphs k hk
    exact Atom.exact_text g
  rw [Ledger.same, h.reputation, h.questState, h.relationship, hflags, h.flags.length_eq,
    Assoc.same_self (fun k _ => Assoc.exact k) hm.reputation, Assoc.same_self hgraphs hm.questState,
    Assoc.same_self (fun k _ => Assoc.exact k) hm.relationship]
  simp

end Ledger

end Questline
