import Questline.Proofs.Confinement
import Questline.Proofs.Endings

/-! How a chain is followed from a graph that has been completed to the next.  What is said about
chains is told apart from everything else that may be said on the way. -/

namespace Questline

/-- Whether a message tells of a chain that could not be followed. -/
def isChaining (message : String) : Bool := "cannot chain to ".toList.isPrefixOf message.toList

theorem isInternal_of_isChaining {message : String} (h : isChaining message = true) :
    isInternal message = false := by
  obtain ⟨rest, hrest⟩ := List.isPrefixOf_iff_prefix.1 h
  exact isInternal_of_head (by rw [← hrest]; rfl)

theorem lastEnding_eq_none {outcomes : List Outcome} :
    lastEnding outcomes = none ↔ ∀ o ∈ outcomes, o.ending? = none := by
  have hfrom (ending : Option (String × Bool)) :
      outcomes.foldl (fun ending o => o.ending?.or ending) ending = none ↔
        ending = none ∧ ∀ o ∈ outcomes, o.ending? = none := by
    induction outcomes generalizing ending with
    | nil => simp
    | cons o rest ih =>
      rw [List.foldl_cons, ih, Option.or_eq_none_iff, List.forall_mem_cons,
        and_comm (a := _ = none), and_assoc]
  exact (hfrom none).trans (by simp)

/-- What is said about chains in the entry that is being written. -/
def Session.chainings (s : Session) : List String := s.diagnostics.filter isChaining

/-- Nothing has been said about chains in between. -/
def Session.Mute (s t : Session) : Prop := t.chainings = s.chainings

namespace Session.Mute

variable {s t u : Session}

theorem refl (s : Session) : s.Mute s := rfl

theorem trans (h : s.Mute t) (h' : t.Mute u) : s.Mute u := Eq.trans h' h

theorem of_diagnostics (h : t.diagnostics = s.diagnostics) : s.Mute t := by
  rw [Mute, chainings, h, chainings]

end Session.Mute

theorem Session.chainings_remarked {s : Session} (hs : s.inEntry = true) (messages : List String) :
    (s.remarked messages).chainings = s.chainings ++ messages.filter isChaining := by
  obtain ⟨p, hp⟩ := Option.isSome_iff_exists.1 hs
  simp [chainings, diagnostics, remarked, hp]

namespace Step

variable {cfg : Settings} {α β : Type} {x : Step α}

theorem modify_mute {f : Session → Session} (h : ∀ s, (f s).diagnostics = s.diagnostics) :
    Keeps Session.Mute (modify f : Step Unit) := fun s => .of_diagnostics (h s)

theorem onHost_mute (x : HostStep α) : Keeps Session.Mute (onHost x) := by
  intro s
  rw [ends_onHost]
  unfold Ends
  split <;> rfl

theorem report_mute {message : String} (h : isChaining message = false) :
    Keeps Session.Mute (report message) := by
  intro s
  cases hs : s.pending with
  | none =>
    refine .of_diagnostics (?_ : (s.remarked [message]).diagnostics = s.diagnostics)
    simp [Session.diagnostics, Session.remarked, hs]
  | some p =>
    refine (Session.chainings_remarked (Option.isSome_iff_exists.2 ⟨p, hs⟩) [message]).trans ?_
    simp [h]

theorem ofExcept_mute (x : Except Fault α) : Keeps Session.Mute (ofExcept x) := by
  cases x with
  | ok a => exact .pure .refl a
  | error why => exact .throw .refl why

theorem attempt_mute {x : Step Unit} (hx : Keeps Session.Mute x) :
    Keeps Session.Mute (attempt x) := by
  intro s
  rw [ends_attempt]
  exact hx s

theorem transition_mute (g : String) (state : Lifecycle) :
    Keeps Session.Mute (transition g state) := by
  refine .bind .trans (modify_mute fun s => rfl) fun _ => modify_mute fun s => ?_
  unfold Session.diagnostics
  cases s.pending <;> rfl

theorem promote_mute (l : Ledger) (waiting : List Instance) :
    Keeps Session.Mute (promote l waiting) := by
  induction waiting with
  | nil => exact .pure .refl ()
  | cons i rest ih =>
    rw [promote]
    split
    · refine .bind .trans (onHost_mute _) fun met => ?_
      cases met
      · exact ih
      · exact .bind .trans (transition_mute _ _) fun _ => ih
    · exact ih

theorem refreshAvailability_mute : Keeps Session.Mute refreshAvailability :=
  .get_bind fun s => promote_mute s.ledger s.instances

theorem actOnHost_mute (o : Outcome) (target : String) (old new : Ledger) :
    Keeps Session.Mute (actOnHost o target old new) := by
  unfold actOnHost
  cases o.kind with
  | removeItem =>
    refine .bind .trans (onHost_mute _) fun taken => ?_
    cases taken with
    | true => exact .pure .refl ()
    | false => exact report_mute (by simp [isChaining, toString, List.isPrefixOf])
  | reputationDelta | setFlag | clearFlag | unlockQuest => exact .pure .refl ()
  | _ => exact onHost_mute _

theorem actOnGraphs_mute (w : Wiring) (o : Outcome) (target : String) :
    Keeps Session.Mute (actOnGraphs w o target) := by
  unfold actOnGraphs
  cases o.kind with
  | unlockQuest =>
    refine .get_bind fun s => ?_
    split
    · exact report_mute (by simp [isChaining, toString, List.isPrefixOf])
    · exact modify_mute fun _ => rfl
  | triggerEnding =>
    dsimp only
    split
    · exact .pure .refl ()
    · exact modify_mute fun _ => rfl
  | _ => exact .pure .refl ()

theorem perform_mute (cfg : Settings) (w : Wiring) (o : Outcome) :
    Keeps Session.Mute (perform cfg w o) := by
  refine .get_bind fun s => .bind .trans (ofExcept_mute _) fun new =>
    .bind .trans (modify_mute fun _ => rfl) fun _ => ?_
  have hhost : Keeps Session.Mute (do
      unless w.replaying do actOnHost o (o.target.getD "") s.ledger new) := by
    split
    · exact .pure .refl ()
    · exact actOnHost_mute _ _ _ _
  dsimp only
  split
  · exact .bind .trans (actOnGraphs_mute _ _ _) fun _ => hhost
  · exact hhost

theorem isChaining_failure (o : Outcome) (rest : String) :
    isChaining (o.kind.word ++ rest) = false := by
  rw [isChaining, String.toList_append]
  cases o.kind <;> rfl

theorem applyOutcome_mute (cfg : Settings) (w : Wiring) (o : Outcome) :
    Keeps Session.Mute (applyOutcome cfg w o) := by
  have hcarried : Keeps Session.Mute (do
      perform cfg w o
      if w.hooked then refreshAvailability) := by
    refine .bind .trans (perform_mute _ _ _) fun _ => ?_
    split
    · exact refreshAvailability_mute
    · exact .pure .refl ()
  refine .bind .trans (modify_mute fun s => ?_) fun _ => .bind .trans (attempt_mute hcarried)
    fun failed => ?_
  · unfold Session.diagnostics
    cases s.pending <;> rfl
  · cases failed with
    | none => exact .pure .refl ()
    | some why =>
      refine report_mute ?_
      simpa only [toString, String.append_assoc] using isChaining_failure o _

theorem applyOutcomes_mute (cfg : Settings) (w : Wiring) (outcomes : List Outcome) :
    Keeps Session.Mute (applyOutcomes cfg w outcomes) := by
  have heach : Keeps Session.Mute (applyEach cfg w outcomes) := by
    induction outcomes with
    | nil => exact .pure .refl ()
    | cons o rest ih => exact .bind .trans (applyOutcome_mute cfg w o) fun _ => ih
  refine .get_bind fun s => ?_
  split
  · exact heach
  · exact .throw .refl _

theorem completeGraph_mute (cfg : Settings) (i : Instance) :
    Keeps Session.Mute (completeGraph cfg i) :=
  .bind .trans (transition_mute _ _) fun _ => applyOutcomes_mute _ _ _

theorem failGraph_mute (cfg : Settings) (i : Instance) : Keeps Session.Mute (failGraph cfg i) :=
  .bind .trans (transition_mute _ _) fun _ => applyOutcomes_mute _ _ _

theorem stateNow_mute (i : Instance) : Keeps Session.Mute (stateNow i) := by
  refine .get_bind fun s => ?_
  split <;> exact .pure .refl _

theorem finishIfEnded_mute (cfg : Settings) (i : Instance) :
    Keeps Session.Mute (finishIfEnded cfg i) := by
  refine .get_bind fun s => ?_
  split
  · exact .pure .refl false
  · refine .bind .trans (stateNow_mute i) fun state => ?_
    dsimp only
    split
    · split
      · exact .bind .trans (failGraph_mute cfg i) fun _ => .pure .refl true
      · exact .bind .trans (completeGraph_mute cfg i) fun _ => .pure .refl true
    · exact .pure .refl true

theorem startGraph_mute (cfg : Settings) (i : Instance) :
    Keeps Session.Mute (startGraph cfg i) := by
  refine .bind .trans (transition_mute _ _) fun _ =>
    .bind .trans (modify_mute fun _ => rfl) fun _ => .bind .trans (.get_bind fun s => ?_) fun j =>
      .bind .trans ?_ fun n => applyOutcomes_mute _ _ _
  · split
    · exact .pure .refl _
    · exact .throw .refl _
  · unfold nodeOf
    split
    · exact .pure .refl _
    · exact .throw .refl _

theorem begin_mute (cfg : Settings) (i : Instance) : Keeps Session.Mute (do
    startGraph cfg i
    let _ ← finishIfEnded cfg i) :=
  .bind .trans (startGraph_mute cfg i) fun _ => .bind .trans (finishIfEnded_mute cfg i) fun _ =>
    .pure .refl ()

end Step

/-- A stage of an entry: what is done in it, in outline, and what is said about chains. -/
structure Stage (cfg : Settings) (s : Session) (script : List Act) (told : List String)
    (t : Session) : Prop where
  course : ∃ acts, Course cfg (fun _ => True) s acts t ∧ (∀ a ∈ acts, a.isInner = true) ∧
    outline acts = script
  told : t.chainings = s.chainings ++ told

namespace Stage

variable {cfg : Settings} {s t u : Session} {script script' : List Act} {told told' : List String}

theorem refl (s : Session) : Stage cfg s [] [] s :=
  ⟨⟨[], .nil s, by simp, rfl⟩, (List.append_nil _).symm⟩

theorem trans (h : Stage cfg s script told t) (h' : Stage cfg t script' told' u) :
    Stage cfg s (script ++ script') (told ++ told') u := by
  obtain ⟨⟨acts, hc, hinner, rfl⟩, htold⟩ := h
  obtain ⟨⟨acts', hc', hinner', rfl⟩, htold'⟩ := h'
  exact ⟨⟨acts ++ acts', hc.append hc', List.forall_mem_append.2 ⟨hinner, hinner'⟩, by simp⟩,
    by rw [htold', htold, List.append_assoc]⟩

/-- A remark about a chain is a stage of its own. -/
theorem remarked (hs : s.inEntry = true) {message : String} (hm : isChaining message = true) :
    Stage cfg s [] [message] (s.remarked [message]) := by
  refine ⟨⟨[.remarks message], .single cfg (a := .remarks message) trivial,
    by simp [Act.isInner, isInternal_of_isChaining hm], rfl⟩, ?_⟩
  rw [Session.chainings_remarked hs]
  simp [hm]

theorem leads (h : Stage cfg s script told t) (hs : s.Working) : s.Leads script t := by
  obtain ⟨⟨acts, hc, hinner, rfl⟩, _⟩ := h
  exact hc.leads hinner hs

end Stage

/-- A step that keeps within the entry, and says nothing about chains, is a stage. -/
theorem Walks.stage {cfg : Settings} {α : Type} {x : Step α} {s : Session}
    {Q : List Act → α → Session → Prop} {E : List Act → Prop}
    (h : Walks cfg (fun _ => True) x s Q E) (hx : Keeps Session.Mute x) :
    Ends x s (fun a t => ∃ script, Stage cfg s script [] t ∧ Q script a t) fun _ _ => True := by
  refine (Ends.and h (hx s)).mono ?_ fun _ _ _ => trivial
  rintro a t ⟨⟨acts, hc, hinner, hq⟩, hmute⟩
  exact ⟨_, ⟨⟨acts, hc, hinner, rfl⟩, by rw [List.append_nil]; exact hmute⟩, hq⟩

/-- A graph to which a chain can be followed: it can be started, perhaps only now. -/
def Instance.CanFollow (l : Ledger) (h : Host) (i : Instance) : Prop :=
  i.lifecycle = .available ∨ i.isDue l h = true ∨
    i.lifecycle = .completed ∧ i.graph.repeatable = true

/-- A chain is followed just if it can be, and otherwise that is said. -/
def Session.Chains (s : Session) (g : String) (script : List Act) (told : List String) : Prop :=
  ∃ i, s.instance? g = some i ∧
    (i.CanFollow s.ledger s.host ∧ i.graph.Begins none script ∧ told = [] ∨
      ¬ i.CanFollow s.ledger s.host ∧ script = [] ∧
        told = [s!"cannot chain to {g}, it is {i.lifecycle.word}"])

namespace Session

variable {s t : Session} {g : String} {i : Instance}

theorem instance?_opened (s : Session) (names : List String) (g : String) :
    (s.opened names).instance? g = (s.instance? g).map fun i =>
      if i.graph.id ∈ names then { i with lifecycle := .available, activeNode := none } else i := by
  unfold instance? opened
  rw [List.find?_map]
  congr 2
  funext i
  by_cases hi : i.graph.id ∈ names <;> simp [hi]

/-- Where a graph is after a pass. -/
theorem instance?_passed (hdistinct : s.graphNames.Nodup) (hi : s.instance? g = some i)
    (ht : Asked (s.opened s.due) t) : t.instance? g = some
      (if i.isDue s.ledger s.host then { i with lifecycle := .available, activeNode := none }
        else i) := by
  have hopened := s.instance?_opened s.due g
  rw [hi, Option.map_some] at hopened
  obtain ⟨outages, rfl⟩ := ht
  exact hopened.trans (by simp only [mem_due hdistinct (mem_of_instance? hi)])

theorem canStart_passed (hdistinct : s.graphNames.Nodup) (hgoing : s.ending = none)
    (hi : s.instance? g = some i) (ht : Asked (s.opened s.due) t) :
    t.canStart g = true ↔ i.CanFollow s.ledger s.host := by
  have htgoing : t.ending = none := by
    obtain ⟨_, rfl⟩ := ht
    exact hgoing
  rw [canStart, instance?_passed hdistinct hi ht, htgoing, Instance.CanFollow]
  cases i.isDue s.ledger s.host <;> simp

end Session

/-- How a choice that leads to another graph goes on, by what is done in outline and what is said
about chains.  The chain is considered where a session is reached in which the graph of the choice
has been completed.  An ending that is triggered before keeps it from being considered. -/
inductive Choice.LeadsOn (c : Choice) (i : Instance) (target : String)
    (reached : Session → Prop) : List Act → List String → Prop
  | considered {m : Session} {j : Instance} {later : List Act} {told : List String} :
      (∀ o ∈ c.outcomes ++ i.graph.completion, o.ending? = none) → reached m →
      m.instance? i.graph.id = some j → j.lifecycle = .completed → m.Chains target later told →
      LeadsOn c i target reached (i.graph.taking c ++ i.graph.completing ++ later) told
  | ended {script : List Act} : ¬ (∀ o ∈ c.outcomes ++ i.graph.completion, o.ending? = none) →
      (∀ a ∈ script, a.Within (· = i.graph.id)) → script.filterMap Act.begun? = [] →
      LeadsOn c i target reached script []

theorem Choice.LeadsOn.mono {c : Choice} {i : Instance} {target : String}
    {reached reached' : Session → Prop} {script : List Act} {told : List String}
    (h : c.LeadsOn i target reached script told) (hreached : ∀ m, reached m → reached' m) :
    c.LeadsOn i target reached' script told := by
  cases h with
  | considered hgoing hm hj hlife hchains =>
    exact .considered hgoing (hreached _ hm) hj hlife hchains
  | ended hended hwithin hbegun => exact .ended hended hwithin hbegun

/-- A stage in which a graph has been completed after the choice. -/
theorem Stage.completed {cfg : Settings} {s t : Session} {i : Instance} {c : Choice}
    {told : List String} (h : Stage cfg s (i.graph.taking c ++ i.graph.completing) told t)
    (hi : s.instance? i.graph.id = some i) (hlife : i.lifecycle = .inProgress) :
    ∃ j, t.instance? i.graph.id = some j ∧ j.lifecycle = .completed := by
  obtain ⟨⟨acts, hc, _, houtline⟩, _⟩ := h
  obtain ⟨k, hk, ht⟩ := hc.instance?_outline hi
  obtain rfl := hk.same (by simp [hlife])
  rw [houtline, Instance.through_append] at ht
  exact ⟨_, ht, ((k.through (k.graph.taking c)).through_moved (by simp) _ _ _).1⟩

namespace Step

variable {cfg : Settings} {s t : Session}

theorem ends_chainTo (hs : s.Working) (hgoing : s.ending = none) (g : String) :
    Ends (chainTo cfg g) s
      (fun _ t => ∃ script told, Stage cfg s script told t ∧ s.Chains g script told)
      fun _ _ => True := by
  unfold chainTo
  rw [ends_bind, ends_get]
  cases hi : s.instance? g with
  | none => trivial
  | some i =>
    have hid := Session.id_of_instance? hi
    subst hid
    have hpass : Walks cfg (fun _ => True) refreshAvailability s _ _ := walks_refreshAvailability hs
    dsimp only
    rw [ends_bind]
    refine ((hpass.stage refreshAvailability_mute).and (ends_refreshAvailability s)).mono ?_
      fun _ _ _ => trivial
    rintro _ t ⟨⟨_, hstage, rfl⟩, hpassed, _⟩
    have ht := hstage.leads hs
    have hgoing' : t.ending = none := ht.ending.trans hgoing
    have hthere := Session.instance?_passed hs.sound.distinct hi hpassed
    have hcan := Session.canStart_passed hs.sound.distinct hgoing hi hpassed
    rw [ends_bind, ends_get]
    by_cases hfollow : i.CanFollow s.ledger s.host
    · have hlists := (Session.Has.of_instance? hi).lists.congr ht.graphs
      have hbegin : Walks cfg (fun _ => True) (do
          startGraph cfg i
          let _ ← finishIfEnded cfg i) t _ _ :=
        walks_begin ht.working hlists (change_of_canStart (hcan.2 hfollow))
      rw [if_pos (hcan.2 hfollow), ends_congr (y := (do
          startGraph cfg i
          let _ ← finishIfEnded cfg i) >>= fun _ => do
            pure (if (← stateNow i) = .inProgress then some i.graph.id else none)) (t := t)
        (by simp), ends_bind]
      refine (hbegin.stage (begin_mute cfg i)).mono ?_ fun _ _ _ => trivial
      rintro _ u ⟨script, hstage', hbegun⟩
      obtain ⟨j, hj, _⟩ := hlists.congr (hstage'.leads ht.working).graphs
      rw [ends_stateNow_bind hj]
      rw [hgoing'] at hbegun
      exact ⟨_, _, hstage.trans hstage', i, hi, .inl ⟨hfollow, hbegun, rfl⟩⟩
    · have hnot : ¬ i.isDue s.ledger s.host = true := fun hdue => hfollow (.inr (.inl hdue))
      rw [if_neg (hcan.not.2 hfollow), ends_stateNow_bind hthere, if_neg hnot]
      refine ⟨_, _, hstage.trans (.remarked ht.working.entry ?_), i, hi, .inr ⟨hfollow, rfl, rfl⟩⟩
      simp [isChaining, toString, List.isPrefixOf]

/-- A graph that leads to another is completed, and then the chain is considered, unless the story
has ended by then. -/
theorem ends_completeAndChain {i : Instance} (hs : s.Working) (hplaying : s.IsPlaying i.graph)
    (target : String) :
    Ends (do
        completeGraph cfg i
        if (← get).ending.isNone then chainTo cfg target else pure none) s
      (fun active t => ∃ m, Stage cfg s i.graph.completing [] m ∧
        completeGraph cfg i s = .ok () m ∧ (m.ending.isSome = true ∧ t = m ∨
          m.ending = none ∧ chainTo cfg target m = .ok active t ∧
            ∃ script told, Stage cfg m script told t ∧ m.Chains target script told))
      fun _ _ => True := by
  have hcomplete : Walks cfg (fun _ => True) (completeGraph cfg i) s _ _ :=
    walks_completeGraph hs hplaying
  rw [ends_bind]
  refine ((hcomplete.stage (completeGraph_mute cfg i)).and (ends_run _ s)).mono ?_
    fun _ _ _ => trivial
  rintro _ m ⟨⟨_, hcompleted, rfl⟩, hrun⟩
  rw [ends_bind, ends_get]
  cases hending : m.ending with
  | none =>
    rw [if_pos Option.isNone_none]
    refine ((ends_chainTo (hcompleted.leads hs).working hending target).and (ends_run _ m)).mono ?_
      fun _ _ _ => trivial
    rintro active t ⟨hchained, hfollowed⟩
    exact ⟨m, hcompleted, hrun, .inr ⟨hending, hfollowed, hchained⟩⟩
  | some ending =>
    rw [if_neg (by simp)]
    exact ⟨m, hcompleted, hrun, .inl ⟨by rw [hending]; rfl, rfl⟩⟩

/-- A choice that leads to another graph goes on with the chain, unless an ending has been triggered
before. -/
theorem ends_advance {i : Instance} {n : Node} {c : Choice} {target : String} (hs : s.Working)
    (hgoing : s.ending = none) (hi : s.instance? i.graph.id = some i)
    (hlife : i.lifecycle = .inProgress) (hn : n ∈ i.graph.nodes) (hnode : i.activeNode = some n.id)
    (hc : c ∈ n.choices) (hnext : c.next = .graph target) :
    Ends (advance cfg i c) s
      (fun active t => ∃ script told, Stage cfg s script told t ∧ c.LeadsOn i target
        (fun m => m.graphs = s.graphs ∧
          (applyOutcomes cfg {} c.outcomes >>= fun _ => completeGraph cfg i) s = .ok () m ∧
          chainTo cfg target m = .ok active t) script told)
      fun _ _ => True := by
  have happlied : Walks cfg (fun _ => True) (applyOutcomes cfg {} c.outcomes) s _ _ :=
    walks_applyOutcomes (c := .choice i.graph.id) hs fun o ho =>
      ⟨i, n, c, hi, hlife, hn, hnode, hc, ho⟩
  unfold advance
  rw [ends_bind]
  refine ((happlied.stage (applyOutcomes_mute cfg {} c.outcomes)).and (ends_run _ s)).mono ?_
    fun _ _ _ => trivial
  rintro _ t ⟨⟨_, htaken, hscript, hkept⟩, hrun⟩
  have hscript : _ = i.graph.taking c := hscript
  subst hscript
  have ht := htaken.leads hs
  have hhas := hkept i (by simp [hlife]) (.of_instance? hi)
  have hplaying := hhas.isPlaying hlife
  have hending : t.ending = lastEnding c.outcomes := by
    rw [ht.ending, hgoing, endingOf_eq_lastEnding, Graph.appliedBy_taking]
  have hfinish : Walks cfg (fun _ => True) (finishIfEnded cfg i) t _ _ :=
    walks_finishIfEnded ht.working hplaying
  rw [ends_bind]
  refine (hfinish.stage (finishIfEnded_mute cfg i)).mono ?_ fun _ _ _ => trivial
  rintro ended u ⟨_, hclosed, rfl, hended, hsame⟩
  cases ended with
  | true =>
    -- the choice has ended the story
    refine ⟨_, _, htaken.trans hclosed, .ended (fun hnone => ?_) ?_ ?_⟩
    · have hopen : t.ending = none := hending.trans
        (lastEnding_eq_none.2 fun o ho => hnone o (List.mem_append_left _ ho))
      rw [hopen] at hended
      cases hended
    · have hclosing : ∀ a ∈ i.graph.closed t.ending [], a.Within (· = i.graph.id) :=
        Graph.closed_within rfl (List.forall_mem_nil _)
      exact List.forall_mem_append.2 ⟨i.graph.taking_within c, hclosing⟩
    · rw [Graph.closing_of_isSome hended.symm]
      simp
  | false =>
    obtain rfl := hsame rfl
    rw [if_neg Bool.false_ne_true, hnext]
    dsimp only
    refine (ends_completeAndChain ht.working hplaying target).mono ?_ fun _ _ _ => trivial
    rintro active v ⟨m, hcompleted, hrun', hv⟩
    have hstage := htaken.trans hcompleted
    have hm := hstage.leads hs
    have hmending : m.ending = lastEnding (c.outcomes ++ i.graph.completion) := by
      rw [hm.ending, hgoing, endingOf_eq_lastEnding, appliedBy_append, Graph.appliedBy_taking,
        Graph.appliedBy_completing]
    obtain ⟨hmended, rfl⟩ | ⟨hmgoing, hfollowed, later, told, hchained, hchains⟩ := hv
    · -- the completion has ended it
      refine ⟨_, _, hstage, .ended (fun hnone => ?_) ?_ (by simp)⟩
      · rw [hmending, lastEnding_eq_none.2 hnone] at hmended
        cases hmended
      · exact List.forall_mem_append.2 ⟨i.graph.taking_within c, Graph.completing_within rfl⟩
    · have hunended := lastEnding_eq_none.1 (hmending.symm.trans hmgoing)
      obtain ⟨j, hj, hjlife⟩ := hstage.completed hi hlife
      exact ⟨_, _, hstage.trans hchained,
        .considered hunended ⟨hm.graphs, (run_bind hrun).trans hrun', hfollowed⟩ hj hjlife hchains⟩

/-- What is done of a choice before its chain is considered. -/
def upToChain (cfg : Settings) (g choice : String) (i : Instance) (n : Node) (c : Choice) :
    Step Unit := do
  let _ ← reasonsAgainst cfg (← get).ledger n c
  openEntry .choice (some g) (some n.id) (some choice) none
  applyOutcomes cfg {} c.outcomes
  completeGraph cfg i

/-- What is done of a choice from there on. -/
def fromChain (cfg : Settings) (g choice target : String) : Step Resolution := do
  let active ← chainTo cfg target
  refreshAvailability
  conclude g (some choice) active

theorem ends_conclude {p : Pending} (hp : s.pending = some p) (g : String)
    (choice active : Option String) :
    Ends (conclude g choice active) s
      (fun r t => r.diagnostics = s.diagnostics ∧ t = s.closed p ∧
        ∃ entry, r.entry = some entry ∧ s.Gains entry t) fun _ _ => False := by
  rw [conclude, ends_bind, ends_get, ends_bind]
  unfold Ends
  rw [commit_eq hp]
  exact ⟨rfl, rfl, _, rfl, rfl, rfl, rfl⟩

/-- How a choice that leads to another graph is taken once nothing speaks against it. -/
theorem ends_taking {choice target : String} {i : Instance} {n : Node} {c : Choice}
    (hs : s.Agrees) (hsound : s.Sound) (hidle : s.pending = none)
    (hfaces : s.Faces i.graph.id choice i n c) (hnext : c.next = .graph target) :
    Ends (writing .choice i.graph.id (some n.id) (some choice) (do
        let active ← advance cfg i c
        refreshAvailability
        pure active) id) s
      (fun r t => ∃ entry acts, r.entry = some entry ∧ s.Gains entry t ∧
        Course cfg (fun _ => True) s acts t ∧ c.LeadsOn i target
          (fun m => m.graphs = s.graphs ∧ (do
              openEntry .choice (some i.graph.id) (some n.id) (some choice) none
              applyOutcomes cfg {} c.outcomes
              completeGraph cfg i) s = .ok () m ∧
            fromChain cfg i.graph.id choice target m = .ok r t)
          (outline acts) (r.diagnostics.filter isChaining)) fun _ _ => True := by
  obtain ⟨hn, hactive⟩ := Instance.of_node? hfaces.node
  have hc := List.mem_of_find?_eq_some hfaces.choice
  have hopens : Course cfg (fun _ => True) s [.opens .choice i.graph.id n.id choice none] _ :=
    .single cfg hidle
  rw [Act.run_opens hidle] at hopens
  have hworking := working_opened hs hsound
    { kind := .choice, graph := some i.graph.id, node := some n.id, choice := some choice }
  have hadvance : Ends (advance cfg i c) _ _ _ :=
    ends_advance hworking hfaces.going hfaces.found hfaces.playing hn hactive hc hnext
  rw [writing, ends_openEntry_bind hidle, ends_bind, settling, ends_orElseDo, ends_bind]
  refine hadvance.mono ?_ fun _ _ _ => ends_of_after trivial
  rintro active x ⟨script, told, hadvanced, hleads⟩
  have hpass : Walks cfg (fun _ => True) refreshAvailability x _ _ :=
    walks_refreshAvailability (hadvanced.leads hworking).working
  rw [ends_bind]
  refine ((hpass.stage refreshAvailability_mute).and (ends_run _ x)).mono ?_
    fun _ _ _ => ends_of_after trivial
  rintro _ y ⟨⟨_, hpassed, rfl⟩, hpassrun⟩
  have hstage := hadvanced.trans hpassed
  obtain ⟨p, hp⟩ := Option.isSome_iff_exists.1 (hstage.leads hworking).working.entry
  obtain ⟨⟨inner, hcourse, hinner, houtline⟩, htold⟩ := hstage
  refine ((ends_conclude hp i.graph.id (some choice) active).and (ends_run _ y)).mono ?_
    fun _ _ h => h.1.elim
  rintro r t ⟨⟨hdiagnostics, rfl, entry, hentry, hgains⟩, hrun⟩
  have hcloses : Course cfg (fun _ => True) y [.closes] (y.closed p) :=
    Act.run_closes cfg hp ▸ .single cfg (a := .closes) (Option.isSome_iff_exists.2 ⟨p, hp⟩)
  have hoverall : outline ([Act.opens .choice i.graph.id n.id choice none] ++
      (inner ++ [Act.closes])) = script := by
    simpa [outline, Act.isStride] using houtline
  have hsaid : r.diagnostics.filter isChaining = told := by
    rw [hdiagnostics]
    exact htold.trans (by simp [Session.chainings, Session.diagnostics])
  refine ⟨entry, _, hentry, hgains.of_log (hcourse.log_kept hinner),
    hopens.append (hcourse.append hcloses), ?_⟩
  rw [hoverall, hsaid]
  refine hleads.mono ?_
  rintro m ⟨hgraphs, hreached, hchained⟩
  refine ⟨hgraphs, ?_, ?_⟩
  · exact (run_bind (openEntry_eq hidle ..)).trans hreached
  · exact (run_bind hchained).trans ((run_bind hpassrun).trans hrun)

/-- How a choice that leads to another graph is made. -/
theorem ends_choose {g choice target : String} {i : Instance} {n : Node} {c : Choice}
    (hs : s.Agrees) (hsound : s.Sound) (hidle : s.pending = none)
    (hfaces : s.Faces g choice i n c) (hnext : c.next = .graph target) :
    Ends (choose cfg g choice) s
      (fun r t => ∃ entry acts, r.entry = some entry ∧ s.Gains entry t ∧
        Course cfg (fun _ => True) s acts t ∧ c.LeadsOn i target
          (fun m => m.graphs = s.graphs ∧ upToChain cfg g choice i n c s = .ok () m ∧
            fromChain cfg g choice target m = .ok r t)
          (outline acts) (r.diagnostics.filter isChaining)) fun _ _ => True := by
  rw [choose_eq, ends_bind]
  have hlooks : Looks (offered g choice) s _ (Fault.IsIllegal (s.Refuses cfg g choice)) :=
    looks_offered hs g choice
  refine Ends.mono hlooks ?_ fun _ _ _ => trivial
  rintro ⟨j, m, d⟩ t ⟨rfl, hfaces'⟩
  obtain ⟨rfl, rfl, rfl⟩ := hfaces.unique hfaces'
  have hid := Session.id_of_instance? hfaces.found
  subst hid
  have hreasons : Plays cfg (fun _ => True) (reasonsAgainst cfg t.ledger m d) t _ _ :=
    plays_reasonsAgainst t.ledger m d
  rw [take, ends_bind, ends_get, ends_bind]
  refine (Ends.and hreasons (ends_run _ t)).mono ?_ fun _ _ _ => trivial
  rintro reasons u ⟨⟨asks, hasks, hcalm, hasked, _⟩, hrun⟩
  cases reasons with
  | cons => trivial
  | nil =>
    obtain ⟨hsame, hsound', hidle', hfaces', hlog, hugraphs⟩ : u.Agrees ∧ u.Sound ∧
        u.pending = none ∧ u.Faces j.graph.id choice j m d ∧ u.log = t.log ∧
          u.graphs = t.graphs := by
      obtain ⟨outages, rfl⟩ := hasked
      exact ⟨hs.of_same rfl rfl, hsound.congr rfl, hidle, ⟨hfaces.going, hfaces.found,
        hfaces.playing, hfaces.node, hfaces.choice⟩, rfl, rfl⟩
    refine (ends_taking hsame hsound' hidle' hfaces' hnext).mono ?_ fun _ _ h => h
    rintro r v ⟨entry, acts, hentry, hgains, hcourse, hleads⟩
    refine ⟨entry, asks ++ acts, hentry, hgains.of_log hlog, hasks.append hcourse, ?_⟩
    rw [outline_append, hcalm.outline_eq]
    refine hleads.mono ?_
    rintro m ⟨hgraphs, hreached, hchained⟩
    exact ⟨hgraphs.trans hugraphs, (run_bind hrun).trans hreached, hchained⟩

end Step

/-- The outcomes that are applied when a graph in progress comes to its end with the story. -/
def Graph.outcomesAtEnd (g : Graph) : Option (String × Bool) → List Outcome
  | none => []
  | some (_, true) => g.failure
  | some (_, false) => g.completion

namespace Graph

variable (g : Graph) (ending : Option (String × Bool))

@[simp] theorem appliedBy_closing : appliedBy (g.closing ending) = g.outcomesAtEnd ending := by
  unfold closing outcomesAtEnd
  split
  · rfl
  · exact g.appliedBy_failing
  · exact g.appliedBy_completing

@[simp] theorem filterMap_begun?_closing : (g.closing ending).filterMap Act.begun? = [] := by
  unfold closing
  split
  · rfl
  · exact g.filterMap_begun?_failing
  · exact g.filterMap_begun?_completing

end Graph

namespace Instance

variable {i : Instance} {acts : List Act}

/-- A graph that is begun is in progress at the node that is entered. -/
theorem through_beginning (i : Instance) {g : Graph} (hg : i.graph = g) (n : Node) :
    (i.through (g.beginning n)).lifecycle = .inProgress ∧
      (i.through (g.beginning n)).activeNode = some n.id := by
  subst hg
  unfold Graph.beginning Graph.entering
  rw [through_cons, through_cons]
  obtain ⟨hlife, hnode⟩ := through_script ((Act.enters i.graph.id n.id).onInstance
    ((Act.moves i.graph.id .inProgress).onInstance i)) (.entry i.graph.id) n.entryOutcomes
  rw [hlife, hnode]
  simp [Act.onInstance]

theorem through_within {P : String → Prop} (h : ∀ a ∈ acts, a.Within P) (hi : ¬ P i.graph.id) :
    (i.through acts).lifecycle = i.lifecycle := by
  induction acts generalizing i with
  | nil => rfl
  | cons a rest ih =>
    rw [List.forall_mem_cons] at h
    rw [through_cons, ih h.2 (by rwa [Act.onInstance_graph])]
    cases a with
    | applies c o => exact i.upon_lifecycle o
    | moves g state => rw [Act.onInstance, if_neg fun hg : i.graph.id = g => hi (hg ▸ h.1)]
    | enters g n => rw [Act.onInstance, if_neg fun hg : i.graph.id = g => hi (hg ▸ h.1)]
    | _ => rfl

end Instance

/-- What a chain to a graph has come to, when it is considered after some outcomes: the graph has
been started if the chain can be followed, and otherwise that has been said. -/
inductive Instance.Chained (i : Instance) (m : Session) (before : List Outcome) (r : Resolution)
    (entry : Entry) (t : Session) : Prop
  | started {n : Node} : i.CanFollow m.ledger m.host → entry.begun = [i.graph.id] →
      n ∈ i.graph.nodes → n.id = i.graph.start →
      entry.outcomes = (before ++ n.entryOutcomes ++
        i.graph.outcomesAtEnd (lastEnding n.entryOutcomes)).map Outcome.toTable →
      (lastEnding n.entryOutcomes = none → ∃ j, t.instance? i.graph.id = some j ∧
        j.lifecycle = .inProgress ∧ j.activeNode = some i.graph.start) →
      r.diagnostics.filter isChaining = [] → Chained i m before r entry t
  | left : ¬ i.CanFollow m.ledger m.host → entry.begun = [] →
      entry.outcomes = before.map Outcome.toTable →
      r.diagnostics.filter isChaining =
        [s!"cannot chain to {i.graph.id}, it is {i.lifecycle.word}"] →
      Chained i m before r entry t

/-- How a choice that leads to another graph goes on, as its entry and its answer tell. -/
theorem Engine.Consistent.leadsOn {cfg : Settings} {graphs : List Graph} {e : Engine}
    (h : e.Consistent graphs) {g choice target : String} {i : Instance} {n : Node} {c : Choice}
    {entry : Entry} (hfaces : e.session.Faces g choice i n c) (hnext : c.next = .graph target)
    (haccepted : ((Call.choose g choice).ask cfg e).1.Accepts entry) :
    ∃ r script told, ((Call.choose g choice).ask cfg e).1 = .resolved r ∧
      ((Call.choose g choice).after cfg e).diagnostics = e.diagnostics ++ r.diagnostics ∧
      entry.outcomes = (appliedBy script).map Outcome.toTable ∧
      entry.begun = script.filterMap Act.begun? ∧ r.diagnostics.filter isChaining = told ∧
      (∀ k j, e.session.instance? k = some j → ∃ j', j.Perhaps j' ∧
        ((Call.choose g choice).after cfg e).session.instance? k = some (j'.through script)) ∧
      c.LeadsOn i target (fun m => m.graphs = e.session.graphs ∧
          Step.upToChain cfg g choice i n c e.session = .ok () m ∧
          Step.fromChain cfg g choice target m = .ok r
            ((Call.choose g choice).after cfg e).session) script told := by
  obtain ⟨hidle, -, -⟩ := h.granted rfl haccepted
  obtain ⟨written, acts, hwritten, hgains, hcourse, hleads⟩ := of_granted haccepted.1
    (Step.ends_choose h.agrees h.sound hidle hfaces hnext)
  obtain rfl : written = entry := Option.some.inj (hwritten.symm.trans haccepted.2)
  obtain ⟨houtcomes, htransitions⟩ := hgains.told hidle hcourse
  rw [flatMap_notes_eq] at houtcomes
  exact ⟨_, _, _, rfl, diagnostics_request .., houtcomes, Entry.begun_eq htransitions, rfl,
    fun k j hj => hcourse.instance?_outline hj, hleads⟩

/-- Whatever has been asked before, when a choice that leads to another graph is taken, its graph is
completed, and then the chain is followed just if the other graph can be started, perhaps only now;
otherwise that is said.  If an ending has been triggered before, the chain is not even considered,
and the other graph becomes available at most. -/
theorem chain_followed_if_possible (cfg : Settings) {graphs : List Graph} {host : Host}
    {clock : Clock} {built : Engine} (hbuilt : Engine.ofGraphs graphs host clock = .ok built)
    (calls : List Call) {g choice target : String} {i : Instance} {n : Node} {c : Choice}
    {entry : Entry} (hfaces : (built.afterAll cfg calls).session.Faces g choice i n c)
    (hnext : c.next = .graph target)
    (haccepted : ((Call.choose g choice).ask cfg (built.afterAll cfg calls)).1.Accepts entry) :
    let e := built.afterAll cfg calls
    let e' := (Call.choose g choice).after cfg e
    ∃ r, ((Call.choose g choice).ask cfg e).1 = .resolved r ∧
      e'.diagnostics = e.diagnostics ++ r.diagnostics ∧
      ((∀ o ∈ c.outcomes ++ i.graph.completion, o.ending? = none) → ∃ m j k,
        Step.upToChain cfg g choice i n c e.session = .ok () m ∧
        Step.fromChain cfg g choice target m = .ok r e'.session ∧
        m.instance? g = some j ∧ j.lifecycle = .completed ∧ m.instance? target = some k ∧
        k.Chained m (c.outcomes ++ i.graph.completion) r entry e'.session) ∧
      (¬ (∀ o ∈ c.outcomes ++ i.graph.completion, o.ending? = none) →
        entry.begun = [] ∧ r.diagnostics.filter isChaining = [] ∧
        (target ≠ g → ∀ j, e.session.instance? target = some j →
          ∃ k, e'.session.instance? target = some k ∧ (k.lifecycle = j.lifecycle ∨
            j.lifecycle = .unavailable ∧ k.lifecycle = .available))) := by
  intro e e'
  obtain ⟨r, script, told, hask, hdiagnostics, houtcomes, hbegun, htold, hplaces, hleads⟩ :=
    ((Engine.Consistent.ofGraphs hbuilt).afterAll cfg calls).leadsOn hfaces hnext haccepted
  have hid := Session.id_of_instance? hfaces.found
  subst hid
  refine ⟨r, hask, hdiagnostics, fun hunended => ?_, fun hended => ?_⟩
  · cases hleads with
    | ended hended => exact absurd hunended hended
    | @considered m j later _ _ hreached hj hlife hchains =>
      obtain ⟨hgraphs, hreached, hchained⟩ := hreached
      obtain ⟨k, hk, hchain⟩ := hchains
      have hkid := Session.id_of_instance? hk
      subst hkid
      refine ⟨m, j, k, hreached, hchained, hj, hlife, hk, ?_⟩
      obtain ⟨hfollow, @⟨nd, hmem, hstart⟩, rfl⟩ | ⟨hleft, rfl, rfl⟩ := hchain
      · refine .started hfollow ?_ hmem hstart ?_ (fun hopen => ?_) htold
        · simp [hbegun, Graph.closed]
        · simp [houtcomes, Graph.closed, endingOf_eq_lastEnding]
        · have hthere := Session.instance?_congr hgraphs k.graph.id
          rw [hk, Option.map_some, eq_comm, Option.map_eq_some_iff] at hthere
          obtain ⟨j₀, hj₀, hgraph⟩ := hthere
          obtain ⟨j', hperhaps, hplace⟩ := hplaces _ _ hj₀
          rw [Graph.closed, endingOf_eq_lastEnding, Graph.appliedBy_beginning, hopen,
            Graph.closing, List.append_nil, Instance.through_append] at hplace
          have hplayed : (j'.through (i.graph.taking c ++ i.graph.completing)).graph = k.graph := by
            rw [Instance.through_graph, hperhaps.graph, hgraph]
          obtain ⟨hlife', hnode⟩ := Instance.through_beginning _ hplayed nd
          exact ⟨_, hplace, hlife', hnode.trans (congrArg some hstart)⟩
      · refine .left hleft ?_ ?_ htold
        · simp [hbegun]
        · simp [houtcomes]
  · cases hleads with
    | considered hunended => exact absurd hunended hended
    | ended _ hwithin hnone =>
      refine ⟨hbegun.trans hnone, htold, fun hne j hj => ?_⟩
      obtain ⟨j', hperhaps, hplace⟩ := hplaces target j hj
      refine ⟨_, hplace, ?_⟩
      rw [Instance.through_within hwithin
        (by rwa [hperhaps.graph, Session.id_of_instance? hj])]
      obtain rfl | ⟨hlife, rfl⟩ := hperhaps
      · exact .inl rfl
      · exact .inr ⟨hlife, rfl⟩

/-- A hunt, and the feast that follows just if the hunt has been completed. -/
def Content.hunt : Content :=
  [("hunt", .record [
    ("title", "Hunt"), ("start", "wood"), ("branch", "crew"),
    ("nodes", .list [
      .record [("id", "wood"), ("text", "In the wood."), ("choices", .list [
        .record [("id", "return"), ("text", "Return."), ("next_graph", "feast"),
          ("outcomes", .list [.record [("kind", "give_item"), ("item", "deer")]])]])]]),
    ("completion_outcomes", .list [.record [("kind", "set_flag"), ("flag", "fed")]])]),
   ("feast", .record [
    ("title", "Feast"), ("start", "hall"), ("branch", "crew"),
    ("requirements", .list [.record [("kind", "quest_completed"), ("quest", "hunt")]]),
    ("nodes", .list [
      .record [("id", "hall"), ("text", "In the hall."),
        ("entry_outcomes", .list [.record [("kind", "set_flag"), ("flag", "merry")]]),
        ("choices", .list [.record [("id", "leave"), ("text", "Leave.")]])]])])]

/-- The feast becomes available only by the hunt that leads to it, and is followed. -/
theorem chain_followed_if_possible_hunt :
    let calls : List Call := [.newGame false, .start "hunt"]
    let e := (Engine.fresh .hunt {}).afterAll .builtIn calls
    let c : Call := .choose "hunt" "return"
    let e' := c.after .builtIn e
    ∃ graphs i n d entry, Engine.ofGraphs graphs {} (.ticking 0 1) = .ok (.fresh .hunt {}) ∧
      e.session.Faces "hunt" "return" i n d ∧ d.next = .graph "feast" ∧
      (c.ask .builtIn e).1.Accepts entry ∧ e.session.graphsIn .unavailable = ["feast"] ∧
      entry.begun = ["feast"] ∧ e'.session.graphsIn .completed = ["hunt"] ∧
      e'.session.graphsIn .inProgress = ["feast"] ∧
      ∃ r m, ∃ k : Instance,
        k.Chained m (d.outcomes ++ i.graph.completion) r entry e'.session := by
  intro calls e c e'
  obtain ⟨graphs, _, hbuilt⟩ := Engine.ofGraphs_fresh {}
    (show (Content.load .builtIn .hunt []).toOption.isSome = true by decide +kernel)
  obtain ⟨entry, haccepts⟩ := Answer.exists_accepts
    (show (c.ask .builtIn e).1.written?.isSome = true by decide +kernel)
  have hbegun : (c.ask .builtIn e).1.written?.all (·.begun = ["feast"]) = true := by decide +kernel
  rw [Answer.accepts_iff.1 haccepts, Option.all_some, decide_eq_true_eq] at hbegun
  obtain ⟨-, -, hgranted⟩ :=
    ((Engine.Consistent.ofGraphs hbuilt).afterAll .builtIn calls).granted rfl haccepts
  obtain ⟨_, _, ⟨i, n, d, hfaces, _⟩, _⟩ := hgranted.told
  change e.session.Faces "hunt" "return" i n d at hfaces
  have hleads : (e.session.instance? "hunt").all (fun i => i.node?.all fun n =>
      (n.choice? "return").all fun d => d.next = .graph "feast" ∧
        ∀ o ∈ d.outcomes ++ i.graph.completion, o.ending? = none) = true := by decide +kernel
  simp only [hfaces.found, hfaces.node, hfaces.choice, Option.all_some, decide_eq_true_eq] at hleads
  obtain ⟨hnext, hunended⟩ := hleads
  obtain ⟨r, _, _, hchained, _⟩ :=
    chain_followed_if_possible .builtIn hbuilt calls hfaces hnext haccepts
  obtain ⟨m, _, k, _, _, _, _, _, hk⟩ := hchained hunended
  exact ⟨graphs, i, n, d, entry, hbuilt, hfaces, hnext, haccepts, by decide +kernel, hbegun,
    by decide +kernel, by decide +kernel, r, m, k, hk⟩

end Questline
