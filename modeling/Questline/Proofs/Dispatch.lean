import Questline.Proofs.Availability

/-! Outcomes are applied one by one, and none of them can keep the next from being applied.  An
entry that is interrupted is closed if it has changed anything, and dropped otherwise. -/

namespace Questline

variable {cfg : Settings} {reported : Outcome → Prop} {s t : Session}

theorem Cause.Offers.kept {c : Cause} {o : Outcome} {fired : List (Cause × Outcome)}
    {acts : List Act} (h : c.Offers reported s o) (hc : Course cfg reported s acts t)
    (hcalm : Calm fired acts) : c.Offers reported t o := by
  have kept {g : String} {i : Instance} (hi : s.instance? g = some i)
      (hlife : i.lifecycle ≠ .unavailable) : ∃ j, t.instance? g = some j ∧ j.graph = i.graph ∧
        j.lifecycle = i.lifecycle ∧ j.activeNode = i.activeNode := by
    have hid := Session.id_of_instance? hi
    subst hid
    exact hc.has_kept hcalm hlife (.of_instance? hi)
  cases c with
  | choice g =>
    obtain ⟨i, n, c, hi, hlife, hn, hnode, hc, ho⟩ := h
    obtain ⟨j, hj, hgraph, hjlife, hjnode⟩ := kept hi (by simp [hlife])
    exact ⟨j, n, c, hj, hjlife.trans hlife, hgraph ▸ hn, hjnode.trans hnode, hc, ho⟩
  | entry g =>
    obtain ⟨i, n, hi, hlife, hn, hnode, ho⟩ := h
    obtain ⟨j, hj, hgraph, hjlife, hjnode⟩ := kept hi (by simp [hlife])
    exact ⟨j, n, hj, hjlife.trans hlife, hgraph ▸ hn, hjnode.trans hnode, ho⟩
  | completion g =>
    obtain ⟨i, hi, hlife, ho⟩ := h
    obtain ⟨j, hj, hgraph, hjlife, _⟩ := kept hi (by simp [hlife])
    exact ⟨j, hj, hjlife.trans hlife, hgraph ▸ ho⟩
  | failure g =>
    obtain ⟨i, hi, hlife, ho⟩ := h
    obtain ⟨j, hj, hgraph, hjlife, _⟩ := kept hi (by simp [hlife])
    exact ⟨j, hj, hjlife.trans hlife, hgraph ▸ ho⟩
  | report => exact h

namespace Step

theorem plays_report {message : String} (hm : isInternal message = false) :
    Plays cfg reported (report message) s (fun acts _ _ => Calm [] acts) fun _ _ => False := by
  have hone : Calm [] [Act.remarks message] := ⟨by simp [Act.isCalm, hm], rfl⟩
  have hcourse : Course cfg reported s [Act.remarks message] (s.remarked [message]) :=
    .single cfg (a := .remarks message) trivial
  exact (⟨_, hcourse, hone⟩ : ∃ acts, Course cfg reported s acts _ ∧ Calm [] acts)

theorem plays_applyOutcome {c : Cause} {o : Outcome} (hs : s.Working)
    (ho : c.Offers reported s o) :
    Plays cfg reported (applyOutcome cfg {} o) s (fun acts _ _ => Calm [(c, o)] acts)
      fun _ _ => False := by
  have hlawful : (Act.applies c o).Lawful reported s := ⟨hs.entry, ho⟩
  have hcourse := Course.single cfg hlawful
  have hone : Calm [(c, o)] [Act.applies c o] := ⟨by simp [Act.isCalm], rfl⟩
  have happlied := ends_of_after (x := (Act.applies c o).step cfg) (s := s)
    (P := (· = (Act.applies c o).run cfg s)) rfl
  have hremarked {acts : List Act} {t : Session} (hc : Course cfg reported s acts t)
      (hcalm : Calm [(c, o)] acts) {message : String} (hm : isInternal message = false) :
      Ends (report message) t
        (fun _ u => ∃ acts, Course cfg reported s acts u ∧ Calm [(c, o)] acts)
        fun _ u => ∃ acts, Course cfg reported s acts u ∧ False := by
    have hreport : Plays cfg reported (report message) t _ _ := plays_report hm
    refine Ends.mono hreport (fun _ _ h => ?_) fun _ _ h => ?_
    · obtain ⟨_, hc', hcalm'⟩ := h
      exact ⟨_, hc.append hc', by simpa using hcalm.append hcalm'⟩
    · obtain ⟨_, _, he⟩ := h
      exact he.elim
  have hmild (rest : String) : isInternal (o.kind.word ++ rest) = false := by
    refine isInternal_of_head ?_
    rw [String.toList_append]
    cases o.kind <;> rfl
  simp only [Act.step, noteOutcome, ends_bind, ends_modify] at happlied
  unfold applyOutcome Plays
  simp only [noteOutcome, if_true, ends_bind, ends_attempt, ends_modify]
  refine happlied.mono (fun _ t ht => ?_) fun why t ht => ?_
  · subst ht
    have hpass : Plays cfg reported refreshAvailability _ _ _ :=
      plays_refreshAvailability (hs.course hcourse hone.inner)
    refine Ends.mono hpass (fun _ u hrefreshed => ?_) fun why u hbroken => ?_
    · obtain ⟨acts, hc, hcalm⟩ := hrefreshed
      exact ⟨_, hcourse.append hc, by simpa using hone.append hcalm⟩
    · obtain ⟨acts, hc, hcalm⟩ := hbroken
      exact hremarked (hcourse.append hc) (by simpa using hone.append hcalm)
        (by simpa only [toString, String.append_assoc] using hmild _)
  · exact hremarked (ht ▸ hcourse) hone
      (by simpa only [toString, String.append_assoc] using hmild _)

theorem plays_applyEach {c : Cause} {outcomes : List Outcome} (hs : s.Working)
    (ho : ∀ o ∈ outcomes, c.Offers reported s o) :
    Plays cfg reported (applyEach cfg {} outcomes) s
      (fun acts _ _ => Calm (outcomes.map (c, ·)) acts) fun _ _ => False := by
  induction outcomes generalizing s with
  | nil => exact .pure .nil
  | cons o rest ih =>
    rw [List.forall_mem_cons] at ho
    rw [applyEach]
    refine (plays_applyOutcome hs ho.1).bind fun acts _ t hc hcalm => ?_
    refine (ih (hs.course hc hcalm.inner) fun o' ho' => (ho.2 o' ho').kept hc hcalm).mono
      (fun _ _ _ h => ?_) fun _ _ h => h
    simpa using hcalm.append h

theorem plays_applyOutcomes {c : Cause} {outcomes : List Outcome} (hs : s.Working)
    (ho : ∀ o ∈ outcomes, c.Offers reported s o) :
    Plays cfg reported (applyOutcomes cfg {} outcomes) s
      (fun acts _ _ => Calm (outcomes.map (c, ·)) acts) fun _ _ => False := by
  unfold applyOutcomes
  refine .get_bind ?_
  rw [if_pos hs.entry]
  exact plays_applyEach hs ho

end Step

/-- The entry that an act opens. -/
def Act.opening? : Act → Option (EntryKind × Option String)
  | .opens kind graph _ _ _ => some (kind, graph)
  | _ => none

/-- Acts that end an entry. -/
structure Ending (acts : List Act) (t : Session) : Prop where
  closed : t.pending = none
  ends : ∀ a ∈ acts, a = .closes ∨ a = .drops

namespace Ending

variable {acts : List Act}

theorem balanced (h : Ending acts t) (graphs : List Graph) : Balanced graphs acts := by
  refine .of_none (fun g => ?_) fun p hp g => ?_
  · rw [List.countP_eq_zero]
    intro a ha
    rcases h.ends a ha with rfl | rfl <;> exact Bool.false_ne_true
  · obtain ⟨a, ha, hap⟩ := List.mem_filterMap.1 hp
    rcases h.ends a ha with rfl | rfl <;> cases hap

theorem opens (h : Ending acts t) : acts.filterMap Act.opening? = [] := by
  rw [List.filterMap_eq_nil_iff]
  intro a ha
  rcases h.ends a ha with rfl | rfl <;> rfl

end Ending

/-- One entry has been added to the log, and none is open. -/
structure Session.Gains (s : Session) (entry : Entry) (t : Session) : Prop where
  log : t.log.entries = s.log.entries ++ [entry]
  id : entry.id = s.log.nextId
  closed : t.pending = none

namespace Step

theorem plays_commit {p : Pending} (hp : s.pending = some p) :
    Plays cfg reported commit s
      (fun acts entry t => Ending acts t ∧ t = s.closed p ∧ s.Gains entry t)
      fun _ _ => False := by
  have hcourse : Course cfg reported s [.closes] (s.closed p) :=
    Act.run_closes cfg hp ▸ .single cfg (a := .closes) (Option.isSome_iff_exists.2 ⟨p, hp⟩)
  unfold Plays Ends
  rw [commit_eq hp]
  exact ⟨_, hcourse, ⟨rfl, by simp⟩, rfl, rfl, rfl, rfl⟩

theorem plays_discard {p : Pending} (hp : s.pending = some p) (hchanges : p.hasChanges = false) :
    Plays cfg reported discard s (fun acts _ t => Ending acts t) fun _ _ => False := by
  have hcourse : Course cfg reported s [.drops] { s with pending := none } :=
    Act.run_drops cfg hp hchanges ▸ .single cfg (a := .drops) ⟨p, hp, hchanges⟩
  unfold Plays Ends
  rw [discard_eq hp hchanges]
  exact ⟨_, hcourse, rfl, by simp⟩

theorem plays_settle (hs : s.inEntry = true) :
    Plays cfg reported settle s (fun acts _ t => Ending acts t) fun _ _ => False := by
  obtain ⟨p, hp⟩ := Option.isSome_iff_exists.1 hs
  unfold settle
  refine .get_bind ?_
  rw [hp]
  dsimp only
  split
  next hchanges =>
    unfold Plays
    rw [ends_map]
    exact (plays_commit hp).mono (fun _ _ _ h => h.1) fun _ _ h => h
  next hchanges =>
    rw [Bool.not_eq_true] at hchanges
    have h : Plays cfg reported discard s _ _ := plays_discard hp hchanges
    unfold Plays Ends at *
    rw [discard_eq hp hchanges] at h
    exact h

end Step

end Questline
