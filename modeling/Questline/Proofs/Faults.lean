import Questline.Proofs.Calls

/-! How requests fail.  They clash where an entry is to be opened while another one is open, and
nowhere else: nothing that is done within an entry fails like that. -/

namespace Questline

/-- An entry was to be opened while another one was open. -/
def Fault.IsClash (why : Fault) : Prop :=
  ∃ kind graph, why = .refused (.alreadyResolving kind graph)

/-- A step that never clashes. -/
abbrev Clashless {α : Type} (x : Step α) : Prop :=
  Guarded (fun _ : Session => True) (fun why => ¬ why.IsClash) x

theorem Fault.not_isClash {why : Fault} (h : ∀ refusal, why ≠ .refused refusal) :
    ¬ why.IsClash := by
  rintro ⟨kind, graph, rfl⟩
  exact h _ rfl

namespace Clashless

variable {α : Type}

theorem settling {x : Step α} (hx : Clashless x) : Clashless (Step.settling x) := by
  intro s hs
  unfold Step.settling
  rw [Step.ends_orElseDo]
  refine (hx s hs).mono (fun _ _ h => h) fun why t hwhy => ?_
  have hsettle : Ends Step.settle t (fun _ _ => True) fun _ _ => False := by
    unfold Step.settle
    simp only [ends_bind, ends_get]
    cases hp : t.pending with
    | none => trivial
    | some p =>
      dsimp only
      split
      · rw [ends_map]
        unfold Ends
        rw [Step.commit_eq hp]
        trivial
      · trivial
  exact hsettle.mono (fun _ _ _ => hwhy) fun _ _ h => h.elim

end Clashless

namespace Scale

variable {cfg : Settings} {why : Fault}

theorem wordingOf_clashless {t : Title} (h : wordingOf t = .error why) : ¬ why.IsClash := by
  unfold wordingOf at h
  cases hwording : t.wording with
  | none =>
    rw [hwording] at h
    cases h
    exact Fault.not_isClash nofun
  | some wording =>
    rw [hwording] at h
    cases h

theorem reputationTitle_clashless {value : Int} (h : reputationTitle cfg value = .error why) :
    ¬ why.IsClash := by
  unfold reputationTitle at h
  split at h
  · cases h
    exact Fault.not_isClash nofun
  · rcases bind_eq_error.1 h with h | ⟨_, _, h⟩
    · exact wordingOf_clashless h
    · obtain ⟨t, _, title, h⟩ := exists_error_of_foldlM h
      split at h
      · exact wordingOf_clashless h
      · cases h

theorem relationshipLevel_clashless {value : Int} (h : relationshipLevel cfg value = .error why) :
    ¬ why.IsClash := by
  unfold relationshipLevel at h
  split at h
  · cases h
    exact Fault.not_isClash nofun
  · cases h

end Scale

namespace Requirement

variable {cfg : Settings} {why : Fault}

theorem compare_errsWithin (r : Requirement) : r.ErrsWithin fun why => ¬ why.IsClash := by
  intro f why h
  unfold compare at h
  split at h
  · cases hv : r.value with
    | none =>
      rw [hv] at h
      cases h
      exact Fault.not_isClash nofun
    | some v =>
      rw [hv] at h
      cases h
  all_goals cases h

theorem describe_clashless {r : Requirement} (h : r.describe cfg = .error why) :
    ¬ why.IsClash := by
  unfold describe at h
  dsimp only at h
  split at h
  case h_3 =>
    split at h
    · cases h
      exact Fault.not_isClash nofun
    · exact Scale.reputationTitle_clashless (map_eq_error.1 h)
  case h_7 =>
    split at h
    · cases h
      exact Fault.not_isClash nofun
    · exact Scale.relationshipLevel_clashless (map_eq_error.1 h)
  all_goals cases h

theorem describeAll_clashless {requirements : List Requirement}
    (h : describeAll cfg requirements = .error why) : ¬ why.IsClash := by
  obtain ⟨r, _, h⟩ := exists_error_of_mapM h
  exact describe_clashless h

end Requirement

namespace Step

variable {cfg : Settings}

theorem call_clashless (service : Service) :
    Guarded (fun _ : Host => True) (fun why => ¬ why.IsClash) (Host.call service) := by
  refine (Guarded.call_down service).mono ?_
  rintro _ ⟨_, rfl⟩
  exact Fault.not_isClash nofun

theorem refreshAvailability_clashless : Clashless refreshAvailability :=
  .get_bind fun s => Guarded.promote (I := fun _ => True)
    (fun _ service _ => call_clashless service)
    (fun _ _ r _ => r.compare_errsWithin) s.ledger

theorem commit_clashless : Clashless commit := by
  intro s _
  unfold Ends
  cases hp : s.pending with
  | none =>
    rw [commit_none hp]
    rintro ⟨_, _, h⟩
    cases h
  | some p =>
    rw [commit_eq hp]
    trivial

theorem discard_clashless : Clashless discard := by
  refine .get_bind fun s => ?_
  cases s.pending with
  | none =>
    refine .throw ?_
    rintro ⟨_, _, h⟩
    cases h
  | some p =>
    dsimp only
    split
    · refine Guarded.bind (.throw ?_) fun _ => .modify fun _ _ => trivial
      rintro ⟨_, _, h⟩
      cases h
    · exact .modify fun _ _ => trivial

theorem reasonsAgainst_clashless (l : Ledger) (n : Node) (c : Choice) :
    Clashless (reasonsAgainst cfg l n c) := by
  refine Guarded.bind (Guarded.onHost (I := fun _ => True) (.unmet
    (fun _ service _ => call_clashless service) (fun r _ => r.compare_errsWithin) l))
    fun unmet => ?_
  cases hd : Requirement.describeAll cfg unmet with
  | ok reasons => exact .pure reasons
  | error why => exact .throw (Requirement.describeAll_clashless hd)

/-- An outcome cannot fail at all, since its failure is reported. -/
theorem applyOutcome_clashless (o : Outcome) : Clashless (applyOutcome cfg {} o) := by
  unfold applyOutcome
  refine Guarded.bind (.modify fun _ _ => trivial) fun _ => Guarded.bind ?_ fun failed => ?_
  · intro s _
    rw [ends_attempt]
    exact ends_of_after trivial
  · cases failed with
    | none => exact .pure ()
    | some why => exact .modify fun _ _ => trivial

theorem applyEach_clashless (outcomes : List Outcome) : Clashless (applyEach cfg {} outcomes) := by
  induction outcomes with
  | nil => exact .pure ()
  | cons o rest ih => exact (applyOutcome_clashless o).bind fun _ => ih

theorem applyOutcomes_clashless (outcomes : List Outcome) :
    Clashless (applyOutcomes cfg {} outcomes) := by
  unfold applyOutcomes
  refine .get_bind fun s => ?_
  split
  · exact applyEach_clashless outcomes
  · refine .throw ?_
    rintro ⟨_, _, h⟩
    cases h

theorem transition_clashless (g : String) (state : Lifecycle) : Clashless (transition g state) :=
  Guarded.bind (.modify fun _ _ => trivial) fun _ => .modify fun _ _ => trivial

theorem instanceOf_clashless (g : String) : Clashless (instanceOf g) := by
  refine .get_bind fun s => ?_
  split
  · exact .pure _
  · exact .throw (Fault.not_isClash nofun)

theorem enterNode_clashless (g n : String) : Clashless (enterNode cfg g n) := by
  refine Guarded.bind (.modify fun _ _ => trivial) fun _ =>
    (instanceOf_clashless g).bind fun i => ?_
  refine Guarded.bind ?_ fun n => applyOutcomes_clashless n.entryOutcomes
  unfold nodeOf
  split
  · exact .pure _
  · exact .throw (Fault.not_isClash nofun)

theorem startGraph_clashless (i : Instance) : Clashless (startGraph cfg i) :=
  (transition_clashless _ _).bind fun _ => enterNode_clashless _ _

theorem completeGraph_clashless (i : Instance) : Clashless (completeGraph cfg i) :=
  (transition_clashless _ _).bind fun _ => applyOutcomes_clashless _

theorem failGraph_clashless (i : Instance) : Clashless (failGraph cfg i) :=
  (transition_clashless _ _).bind fun _ => applyOutcomes_clashless _

theorem stateNow_clashless (i : Instance) : Clashless (stateNow i) := by
  refine .get_bind fun s => ?_
  split <;> exact .pure _

theorem finishIfEnded_clashless (i : Instance) : Clashless (finishIfEnded cfg i) := by
  refine .get_bind fun s => ?_
  split
  · exact .pure _
  · refine (stateNow_clashless i).bind fun state => ?_
    split
    · split
      · exact (failGraph_clashless i).bind fun _ => .pure _
      · exact (completeGraph_clashless i).bind fun _ => .pure _
    · exact .pure _

theorem chainTo_clashless (g : String) : Clashless (chainTo cfg g) := by
  refine .get_bind fun s => ?_
  split
  · exact .throw (Fault.not_isClash nofun)
  next i hi =>
    refine refreshAvailability_clashless.bind fun _ => .get_bind fun t => ?_
    split
    · exact (startGraph_clashless i).bind fun _ => (finishIfEnded_clashless i).bind fun _ =>
        (stateNow_clashless i).bind fun _ => .pure _
    · exact (stateNow_clashless i).bind fun _ =>
        Guarded.bind (.modify fun _ _ => trivial) fun _ => .pure _

theorem advance_clashless (i : Instance) (c : Choice) : Clashless (advance cfg i c) := by
  refine (applyOutcomes_clashless _).bind fun _ => (finishIfEnded_clashless i).bind fun ended => ?_
  cases ended with
  | true => exact .pure _
  | false =>
    simp only [Bool.false_eq_true, if_false]
    split
    · exact (enterNode_clashless _ _).bind fun _ => (finishIfEnded_clashless i).bind fun _ =>
        .pure _
    · refine (completeGraph_clashless i).bind fun _ => .get_bind fun s => ?_
      split
      · exact chainTo_clashless _
      · exact .pure _
    · exact (completeGraph_clashless i).bind fun _ => .pure _

theorem conclude_clashless (g : String) (choice active : Option String) :
    Clashless (conclude g choice active) :=
  .get_bind fun _ => commit_clashless.bind fun _ => .get_bind fun _ => .pure _

end Step

end Questline
