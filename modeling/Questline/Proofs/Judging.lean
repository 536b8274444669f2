import Questline.Proofs.Availability
import Questline.Session.Walk

/-! Judging choices.  The reasons against a choice are its gates that are not met, and whoever looks
at a node is shown just these. -/

namespace Questline

/-- The name that the message begins with. -/
def IllegalChoice.subject? : IllegalChoice → Option String
  | .alreadyCompleted graph | .notAvailable graph _ | .notInProgress graph _
  | .cannotAbandon graph _ => some graph
  | .notLegal choice _ => some choice
  | .storyEnded _ | .unknownGraph _ | .noSuchChoice _ _ _ => none

/-- A request is turned down because the story does not allow it. -/
def Fault.IsIllegal (refuses : IllegalChoice → Prop) (why : Fault) : Prop :=
  ∃ refusal, why = .illegal refusal ∧ refuses refusal

/-- The settings have words for all requirements. -/
def Settings.Describes (cfg : Settings) : Prop :=
  ∀ r : Requirement, r.Formed → ∃ text, r.describe cfg = .ok text

namespace Choice

/-- The gates of a choice that are not met. -/
def unmet (l : Ledger) (host : Host) (n : Node) (c : Choice) : List Requirement :=
  (n.gates c).filter fun r => !r.holds l host

/-- A choice as it is shown while the story goes on. -/
def shown (cfg : Settings) (l : Ledger) (host : Host) (n : Node) (c : Choice) :
    Except Fault PresentedChoice :=
  (Requirement.describeAll cfg (c.unmet l host n)).map fun reasons =>
    { id := c.id, text := c.text, reasons }

end Choice

/-- The node where a graph stands. -/
def Instance.node? (i : Instance) : Option Node := i.activeNode.bind i.graph.node?

namespace Session

/-- A choice of a node as it is shown. -/
def shownAt (cfg : Settings) (s : Session) (n : Node) (c : Choice) : Except Fault PresentedChoice :=
  match s.ending with
  | some (ending, _) => .ok { id := c.id, text := c.text, reasons := [endedReason ending] }
  | none => c.shown cfg s.ledger s.host n

/-- What is shown of a graph that is registered. -/
def Shows (cfg : Settings) (s : Session) (g : String) (shown : Option PresentedNode) : Prop :=
  ∃ i, s.instance? g = some i ∧ ((i.node? = none ∧ shown = none) ∨
    ∃ n choices, i.node? = some n ∧ n.choices.mapM (s.shownAt cfg n) = .ok choices ∧ shown = some
      { graph := g, node := n.id, title := n.title, text := n.text, speaker := n.speaker
        legal := choices.filter (·.isLegal), illegal := choices.filter (!·.isLegal) })

end Session

namespace Instance

variable {i : Instance} {n : Node} {l : Ledger}

theorem of_node? (h : i.node? = some n) : n ∈ i.graph.nodes ∧ i.activeNode = some n.id := by
  obtain ⟨id, hactive, hn⟩ := Option.bind_eq_some_iff.1 h
  obtain ⟨hmem, rfl⟩ := Graph.mem_of_node? hn
  exact ⟨hmem, hactive⟩

theorem Placed.node?_isSome (h : i.Placed l) : i.node?.isSome = i.activeNode.isSome := by
  cases hactive : i.activeNode with
  | none =>
    rw [node?, hactive, Option.bind_none]
    rfl
  | some id =>
    rw [node?, hactive, Option.bind_some, Graph.node?_isSome, h.node id hactive]
    rfl

end Instance

theorem Requirement.describeAll_eq_nil {cfg : Settings} {requirements : List Requirement}
    {texts : List String} (h : describeAll cfg requirements = .ok texts) :
    texts = [] ↔ requirements = [] := by
  cases requirements with
  | nil =>
    cases h
    simp
  | cons r rest =>
    rw [describeAll, List.mapM_cons] at h
    obtain ⟨text, _, h⟩ := bind_eq_ok.1 h
    obtain ⟨others, _, h⟩ := bind_eq_ok.1 h
    cases h
    simp

/-- A step that only looks at the session, and fails in some ways only. -/
def Looks {α : Type} (x : Step α) (s : Session) (P : α → Prop) (F : Fault → Prop) : Prop :=
  Ends x s (fun a t => t = s ∧ P a) fun why t => t = s ∧ F why

variable {cfg : Settings} {reported : Outcome → Prop} {s : Session}

namespace Looks

variable {α β : Type} {x : Step α} {f : α → Step β} {P : α → Prop} {Q : β → Prop}
variable {F : Fault → Prop}

theorem pure {a : α} (h : P a) : Looks (pure a) s P F := ⟨rfl, h⟩

theorem throw {why : Fault} (h : F why) : Looks (throw why : Step α) s P F := ⟨rfl, h⟩

theorem mono {P' : α → Prop} {F' : Fault → Prop} (h : Looks x s P F) (hP : ∀ a, P a → P' a)
    (hF : ∀ why, F why → F' why) : Looks x s P' F' :=
  Ends.mono h (fun _ _ h => ⟨h.1, hP _ h.2⟩) fun _ _ h => ⟨h.1, hF _ h.2⟩

theorem get_bind {f : Session → Step β} (h : Looks (f s) s Q F) : Looks (get >>= f) s Q F := h

theorem andThen (hx : Looks x s P F) (hf : ∀ a, P a → Looks (f a) s Q F) :
    Looks (x >>= f) s Q F := by
  unfold Looks
  rw [ends_bind]
  exact Ends.mono hx (fun a t ⟨ht, hP⟩ => ht ▸ hf a hP) fun _ _ h => h

theorem bind {Q : List Act → β → Session → Prop} {E : List Act → Session → Prop}
    (hx : Looks x s P F) (hE : E [] s) (hf : ∀ a, P a → Plays cfg reported (f a) s Q E) :
    Plays cfg reported (x >>= f) s Q E := by
  unfold Plays
  rw [ends_bind]
  refine Ends.mono hx (fun a t ⟨ht, hP⟩ => ht ▸ hf a hP) fun _ t ⟨ht, _⟩ => ?_
  subst ht
  exact ⟨[], .nil _, hE⟩

end Looks

namespace Step

theorem looks_checkNotEnded : Looks checkNotEnded s (fun _ => s.ending = none)
    (Fault.IsIllegal fun why => ∃ ending failed, s.ending = some (ending, failed) ∧
      why = .storyEnded ending) := by
  unfold checkNotEnded
  refine .get_bind ?_
  split
  next ending failed hending => exact .throw ⟨_, rfl, ending, failed, hending, rfl⟩
  next hending => exact .pure hending

theorem looks_instanceOf (g : String) : Looks (instanceOf g) s (fun i => s.instance? g = some i)
    (Fault.IsIllegal fun why => s.instance? g = none ∧ why = .unknownGraph g) := by
  unfold instanceOf
  refine .get_bind ?_
  split
  next i hi => exact .pure hi
  next hnone => exact .throw ⟨_, rfl, hnone, rfl⟩

/-- The active node of a graph is one of its nodes. -/
theorem looks_activeNodeOf {i : Instance} {l : Ledger} {F : Fault → Prop} (hi : i.Placed l) :
    Looks (activeNodeOf i) s (fun n? => n? = i.node?) F := by
  unfold activeNodeOf Instance.node?
  split
  next hnone => exact .pure (by rw [hnone, Option.bind_none])
  next id hactive =>
    have hnode := hi.node id hactive
    rw [← Graph.node?_isSome, Option.isSome_iff_exists] at hnode
    obtain ⟨n, hn⟩ := hnode
    have hfound : nodeOf i id = Pure.pure n := by rw [nodeOf, hn]
    rw [hfound, map_pure]
    exact .pure (by rw [hactive, Option.bind_some, hn])

theorem plays_unmet (l : Ledger) (requirements : List Requirement) :
    Plays cfg reported (onHost (Requirement.unmet l requirements)) s
      (fun acts unmet t => Calm [] acts ∧ Asked s t ∧
        unmet = requirements.filter fun r => !r.holds l s.host)
      fun acts t => Calm [] acts ∧ Asked s t := by
  induction requirements generalizing s with
  | nil => exact .pure ⟨.nil, .refl s, rfl⟩
  | cons r rest ih =>
    rw [Requirement.unmet, onHost_bind]
    refine (plays_evaluate r l).bind fun acts met t _ ⟨hcalm, hasked, hmet⟩ => ?_
    rw [onHost_bind]
    refine (ih.mono (fun _ _ _ h => h) fun _ _ h => ⟨hcalm.append h.1, hasked.trans h.2⟩).bind
      fun acts' others u _ ⟨hcalm', hasked', hothers⟩ => ?_
    refine .pure ⟨hcalm.append (hcalm'.append .nil), hasked.trans hasked', ?_⟩
    obtain ⟨outages, rfl⟩ := hasked
    simp only [Requirement.holds_outages] at hothers
    rw [hmet, hothers, List.filter_cons]
    cases r.holds l s.host <;> rfl

theorem plays_reasonsAgainst (l : Ledger) (n : Node) (c : Choice) :
    Plays cfg reported (reasonsAgainst cfg l n c) s
      (fun acts reasons t => Calm [] acts ∧ Asked s t ∧
        Requirement.describeAll cfg (c.unmet l s.host n) = .ok reasons)
      fun acts t => Calm [] acts ∧ Asked s t := by
  unfold reasonsAgainst
  refine (plays_unmet l _).bind fun acts unmet t _ ⟨hcalm, hasked, hunmet⟩ => ?_
  have hunmet : unmet = c.unmet l s.host n := hunmet
  rw [← hunmet]
  cases Requirement.describeAll cfg unmet with
  | ok reasons => exact .pure ⟨hcalm.append .nil, hasked, rfl⟩
  | error why => exact .throw ⟨hcalm.append .nil, hasked⟩

theorem plays_judge (l : Ledger) (n : Node) (choices : List Choice) :
    Plays cfg reported (judge cfg l n choices) s
      (fun acts shown t => Calm [] acts ∧ Asked s t ∧
        choices.mapM (Choice.shown cfg l s.host n) = .ok shown)
      fun acts t => Calm [] acts ∧ Asked s t := by
  induction choices generalizing s with
  | nil => exact .pure ⟨.nil, .refl s, rfl⟩
  | cons c rest ih =>
    rw [judge]
    refine (plays_reasonsAgainst l n c).bind fun acts reasons t _ ⟨hcalm, hasked, hreasons⟩ => ?_
    refine (ih.mono (fun _ _ _ h => h) fun _ _ h => ⟨hcalm.append h.1, hasked.trans h.2⟩).bind
      fun acts' others u _ ⟨hcalm', hasked', hothers⟩ => ?_
    refine .pure ⟨hcalm.append (hcalm'.append .nil), hasked.trans hasked', ?_⟩
    have hsame : Choice.shown cfg l t.host n = Choice.shown cfg l s.host n := by
      obtain ⟨outages, rfl⟩ := hasked
      funext c
      simp only [Choice.shown, Choice.unmet, Requirement.holds_outages]
    rw [List.mapM_cons, ← hsame, hothers, hsame, Choice.shown, hreasons]
    rfl

theorem plays_present (hs : s.Agrees) (g : String) :
    Plays cfg reported (present cfg g) s
      (fun acts shown t => Calm [] acts ∧ Asked s t ∧ s.Shows cfg g shown)
      fun acts t => Calm [] acts ∧ Asked s t := by
  unfold present
  refine (looks_instanceOf g).bind ⟨.nil, .refl s⟩ fun i hi => ?_
  have hplaced := hs.placed i (Session.mem_of_instance? hi)
  refine (looks_activeNodeOf (F := fun _ => True) hplaced).bind ⟨.nil, .refl s⟩
    fun n? hn => ?_
  cases n? with
  | none => exact .pure ⟨.nil, .refl s, i, hi, .inl ⟨hn.symm, rfl⟩⟩
  | some n =>
    have hshown {choices : List PresentedChoice}
        (hchoices : n.choices.mapM (s.shownAt cfg n) = .ok choices) : s.Shows cfg g (some
          { graph := g, node := n.id, title := n.title, text := n.text, speaker := n.speaker
            legal := choices.filter (·.isLegal), illegal := choices.filter (!·.isLegal) }) :=
      ⟨i, hi, .inr ⟨n, choices, hn.symm, hchoices, rfl⟩⟩
    refine .get_bind ?_
    unfold Session.shownAt at hshown
    split
    next ending failed hending =>
      rw [hending] at hshown
      exact .pure ⟨.nil, .refl s, hshown List.mapM_pure⟩
    next hending =>
      rw [hending] at hshown
      refine (plays_judge s.ledger n n.choices).bind fun acts choices t _ ⟨hcalm, hasked, h⟩ => ?_
      exact .pure ⟨hcalm.append .nil, hasked, hshown h⟩

end Step

namespace Guarded

/-- Where facts can be had, the reasons against a choice can be told. -/
theorem reasonsAgainst (hcfg : cfg.Describes) {n : Node} {c : Choice}
    (h : ∀ r ∈ n.gates c, r.Formed) (l : Ledger) :
    Guarded (fun s : Session => s.host.Answering) (fun _ => False)
      (Step.reasonsAgainst cfg l n c) := by
  intro s hs
  have hunmet := (unmet (fun _ _ => .call_answering)
    (fun r hr => (h r hr).judgeable.errsWithin _) l).onHost s hs
  have hasked : Plays cfg (fun _ => True) (Step.onHost (Requirement.unmet l (n.gates c))) s _ _ :=
    Step.plays_unmet l _
  unfold Step.reasonsAgainst
  rw [ends_bind]
  refine (hunmet.and hasked).mono (fun unmet t ⟨ht, _, _, _, _, hfiltered⟩ => ?_) fun _ _ h => h.1
  obtain ⟨texts, htexts⟩ : ∃ texts, Requirement.describeAll cfg unmet = .ok texts :=
    exists_ok_of_mapM fun r hr => hcfg r (h r (List.mem_of_mem_filter (hfiltered ▸ hr)))
  rw [htexts]
  exact ht

theorem judge (hcfg : cfg.Describes) {n : Node} {choices : List Choice}
    (h : ∀ c ∈ choices, ∀ r ∈ n.gates c, r.Formed) (l : Ledger) :
    Guarded (fun s : Session => s.host.Answering) (fun _ => False)
      (Step.judge cfg l n choices) := by
  induction choices with
  | nil => exact .pure []
  | cons c rest ih =>
    rw [List.forall_mem_cons] at h
    exact (reasonsAgainst hcfg h.1 l).bind fun _ => (ih h.2).bind fun _ => .pure _

end Guarded

/-- Where facts can be had, any graph that is registered can be shown. -/
theorem Step.present_ok (hs : s.Agrees) (hanswers : s.host.Answering) (hcfg : cfg.Describes)
    (hgates : ∀ g ∈ s.graphs, ∀ n ∈ g.nodes, ∀ c ∈ n.choices, ∀ r ∈ n.gates c, r.Formed)
    {g : String} {i : Instance} (hi : s.instance? g = some i) :
    Ends (present cfg g) s (fun _ _ => True) fun _ _ => False := by
  have hmem := Session.mem_of_instance? hi
  unfold present
  rw [ends_bind]
  refine Ends.mono (looks_instanceOf g) (fun j t ⟨ht, hj⟩ => ?_) fun _ _ ⟨_, _, _, hnone, _⟩ => ?_
  · subst ht
    cases hi.symm.trans hj
    rw [ends_bind]
    refine Ends.mono (looks_activeNodeOf (F := fun _ => False) (hs.placed i hmem))
      (fun n? t ⟨ht, hn⟩ => ?_) fun _ _ h => h.2
    subst ht
    cases n? with
    | none => trivial
    | some n =>
      have hnode := (Instance.of_node? hn.symm).1
      dsimp only
      rw [ends_bind, ends_get]
      split
      next => trivial
      next =>
        rw [ends_bind]
        exact (Guarded.judge hcfg (hgates _ (List.mem_map_of_mem hmem) n hnode) t.ledger t
          hanswers).mono (fun _ _ _ => trivial) fun _ _ h => h
  · cases hi.symm.trans hnone

end Questline
