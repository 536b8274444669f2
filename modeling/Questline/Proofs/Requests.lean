import Questline.Proofs.Judging
import Questline.Proofs.Walk

/-! Every request looks first, then writes one entry as its script says.  The entry is closed in the
end, whether the request succeeds or fails, and the request can fail on the way only where something
is missing that playing may need. -/

namespace Questline

/-- What a request does that may open one entry. -/
structure Request (entry : EntryKind × Option String) (s : Session) (acts : List Act)
    (t : Session) : Prop where
  balanced : Balanced s.graphs acts
  closed : s.pending = none → t.pending = none
  opens : (acts.filterMap Act.opening?).Sublist [entry]
  unturned : ∀ a ∈ acts, ∀ host, a ≠ .turns host

/-- An answer says that no graph is active, or names one that is in progress and where it stands. -/
def Resolution.Points (r : Resolution) (t : Session) : Prop :=
  (r.activeGraph = none ∧ r.activeNode = none) ∨
    ∃ g n i, r.activeGraph = some g ∧ r.activeNode = some n ∧ t.instance? g = some i ∧
      i.lifecycle = .inProgress ∧ i.activeNode = some n

/-- A request has been granted with an entry. -/
structure Resolution.Grants (r : Resolution) (entry : Entry) (t : Session) : Prop where
  accepted : r.accepted = true
  entry : r.entry = some entry
  active : r.Points t
  mild : ∀ m ∈ r.diagnostics, isInternal m = false

/-- Everything is there that a request may need: no entry is open, what playing may need is there,
and every gate of a choice can be told. -/
structure Session.Ready (cfg : Settings) (s : Session) : Prop where
  idle : s.pending = none
  sure : s.Sure
  gates : ∀ g ∈ s.graphs, ∀ n ∈ g.nodes, ∀ c ∈ n.choices, ∀ r ∈ n.gates c, r.Formed
  described : cfg.Describes

/-- A step handles a request: it writes an entry as the script says, or at most it asks the host and
refuses.  Only where something is missing it may break off within the script, or for other
reasons. -/
def Handles (cfg : Settings) (reported : Outcome → Prop) (x : Step Resolution) (s : Session)
    (entry : EntryKind × Option String) (script : List Act → Prop)
    (refuses : IllegalChoice → Prop) : Prop :=
  Ends x s
    (fun r t => ∃ acts, Course cfg reported s acts t ∧ Request entry s acts t ∧
      script (outline acts) ∧ ∃ written, s.Gains written t ∧ r.Grants written t)
    fun why t => ∃ acts, Course cfg reported s acts t ∧ Request entry s acts t ∧
      (Asked s t ∧ (s.Ready cfg → why.IsIllegal refuses) ∨
        s.pending = none ∧ script (outline acts) ∧ ¬ s.Sure)

/-- A choice of the node where a graph in progress stands. -/
structure Session.Faces (s : Session) (g choice : String) (i : Instance) (n : Node) (c : Choice) :
    Prop where
  going : s.ending = none
  found : s.instance? g = some i
  playing : i.lifecycle = .inProgress
  node : i.node? = some n
  choice : n.choice? choice = some c

theorem Session.Faces.unique {s : Session} {g choice : String} {i j : Instance} {n m : Node}
    {c d : Choice} (h : s.Faces g choice i n c) (h' : s.Faces g choice j m d) :
    j = i ∧ m = n ∧ d = c := by
  cases h.found.symm.trans h'.found
  cases h.node.symm.trans h'.node
  cases h.choice.symm.trans h'.choice
  exact ⟨rfl, rfl, rfl⟩

/-- How a choice is refused: because the story is over, or for its gates that are not met, if there
is nothing else. -/
structure Session.Refuses (cfg : Settings) (s : Session) (g choice : String)
    (why : IllegalChoice) : Prop where
  subject : ∀ name ∈ why.subject?, name = g ∨ name = choice
  ended : ∀ ending failed, s.ending = some (ending, failed) → why = .storyEnded ending
  gated : ∀ i n c, s.Faces g choice i n c → ∃ reasons, reasons ≠ [] ∧
    Requirement.describeAll cfg (c.unmet s.ledger s.host n) = .ok reasons ∧
    why = .notLegal choice reasons

theorem Session.Refuses.of_unfaced {cfg : Settings} {s : Session} {g choice : String}
    {why : IllegalChoice} (hending : s.ending = none)
    (hsubject : ∀ name ∈ why.subject?, name = g ∨ name = choice)
    (h : ∀ i n c, ¬ s.Faces g choice i n c) : s.Refuses cfg g choice why :=
  ⟨hsubject, fun _ _ he => by (cases hending.symm.trans he), fun i n c hc => absurd hc (h i n c)⟩

variable {cfg : Settings} {reported : Outcome → Prop} {s t u : Session}
variable {entry : EntryKind × Option String} {acts acts' : List Act}

section Inner

variable (hinner : ∀ a ∈ acts, a.isInner = true)
include hinner

theorem filterMap_opening?_of_inner : acts.filterMap Act.opening? = [] := by
  rw [List.filterMap_eq_nil_iff]
  intro a ha
  have hinner := hinner a ha
  cases a <;> first | rfl | cases hinner

theorem unturned_of_inner : ∀ a ∈ acts, ∀ host, a ≠ .turns host := by
  rintro a ha host rfl
  cases hinner _ ha

end Inner

theorem Session.Gains.of_log {written : Entry} (h : s.Gains written u) (hlog : s.log = t.log) :
    t.Gains written u :=
  ⟨hlog ▸ h.log, hlog ▸ h.id, h.closed⟩

namespace Request

theorem idle : Request entry s [] s := ⟨.nil, id, by simp, by simp⟩

theorem asked (h : Request entry t acts' u) (hcalm : Calm [] acts) (hasked : Asked s t) :
    Request entry s (acts ++ acts') u := by
  have hclosed : s.pending = none → t.pending = none := by
    obtain ⟨_, rfl⟩ := hasked
    exact id
  have hgraphs : t.graphs = s.graphs := by
    obtain ⟨_, rfl⟩ := hasked
    rfl
  refine ⟨(hcalm.balanced (by simp)).append (hgraphs ▸ h.balanced), h.closed ∘ hclosed, ?_, ?_⟩
  · rw [List.filterMap_append, filterMap_opening?_of_inner hcalm.inner]
    exact h.opens
  · exact fun a ha => (List.mem_append.1 ha).elim (unturned_of_inner hcalm.inner a) (h.unturned a)

theorem of_ending {kind : EntryKind} {graph node choice source : Option String}
    {inner : List Act} (hinner : ∀ a ∈ inner, a.isInner = true)
    (hbalanced : Balanced s.graphs (outline inner)) (hend : Ending acts t) :
    Request (kind, graph) s ([.opens kind graph node choice source] ++ (inner ++ acts)) t := by
  have hopens : Balanced s.graphs [.opens kind graph node choice source] :=
    .of_none (fun _ => rfl) (by simp [Act.application?])
  constructor
  · exact hopens.append ((balanced_outline.1 hbalanced).append (hend.balanced _))
  · exact fun _ => hend.closed
  · change ((kind, graph) :: (inner ++ acts).filterMap Act.opening?).Sublist _
    rw [List.filterMap_append, filterMap_opening?_of_inner hinner, hend.opens]
    exact List.Sublist.refl _
  · intro a ha
    simp only [List.mem_append, List.mem_singleton] at ha
    rcases ha with rfl | ha | ha
    · simp
    · exact unturned_of_inner hinner a ha
    · rcases hend.ends a ha with rfl | rfl <;> simp

end Request

theorem outline_request {kind : EntryKind} {graph node choice source : Option String}
    (inner : List Act) (hend : Ending acts t) :
    outline ([.opens kind graph node choice source] ++ (inner ++ acts)) = outline inner := by
  have hnone : outline acts = [] := by
    rw [outline, List.filter_eq_nil_iff]
    intro a ha
    rcases hend.ends a ha with rfl | rfl <;> exact Bool.false_ne_true
  rw [outline_append, outline_append, hnone, List.append_nil]
  rfl

namespace Handles

variable {α : Type} {x : Step α} {f : α → Step Resolution} {P : α → Prop}
variable {script : List Act → Prop} {refuses : IllegalChoice → Prop}

theorem throw {why : IllegalChoice} (h : refuses why) :
    Handles cfg reported (throw (.illegal why)) s entry script refuses :=
  ⟨[], .nil s, .idle, .inl ⟨.refl s, fun _ => ⟨why, rfl, h⟩⟩⟩

theorem get_bind {f : Session → Step Resolution}
    (h : Handles cfg reported (f s) s entry script refuses) :
    Handles cfg reported (get >>= f) s entry script refuses := h

theorem looked (hx : Looks x s P (Fault.IsIllegal refuses))
    (hf : ∀ a, P a → Handles cfg reported (f a) s entry script refuses) :
    Handles cfg reported (x >>= f) s entry script refuses := by
  unfold Handles
  rw [ends_bind]
  refine Ends.mono hx (fun a t ⟨ht, hP⟩ => ht ▸ hf a hP) fun why t ⟨ht, hwhy⟩ => ?_
  subst ht
  exact ⟨[], .nil _, .idle, .inl ⟨.refl _, fun _ => hwhy⟩⟩

/-- The host may be asked before anything is written. -/
theorem bind_asked
    (hx : Plays cfg reported x s (fun acts a t => Calm [] acts ∧ Asked s t ∧ P a)
      fun acts t => Calm [] acts ∧ Asked s t)
    (hready : Ends x s (fun _ _ => s.Ready cfg → True) fun _ _ => ¬ s.Ready cfg)
    (hf : ∀ a t, Asked s t → P a → Handles cfg reported (f a) t entry script refuses) :
    Handles cfg reported (x >>= f) s entry script refuses := by
  unfold Handles
  rw [ends_bind]
  refine (Ends.and hx hready).mono (fun a t ⟨⟨acts, hc, hcalm, hasked, hP⟩, _⟩ => ?_)
    fun why t ⟨⟨acts, hc, hcalm, hasked⟩, hno⟩ => ?_
  · have halike := hc.host_alike (unturned_of_inner hcalm.inner)
    have houtline (acts' : List Act) : outline (acts ++ acts') = outline acts' := by
      rw [outline_append, hcalm.outline_eq]
      rfl
    refine Ends.mono (hf a t hasked hP)
      (fun r u ⟨acts', hc', hrequest, hl, written, hgains, hgrants⟩ => ?_)
      fun why u ⟨acts', hc', hrequest, hfailed⟩ => ?_
    · refine ⟨acts ++ acts', hc.append hc', hrequest.asked hcalm hasked,
        (houtline acts').symm ▸ hl, written, hgains.of_log ?_, hgrants⟩
      obtain ⟨_, rfl⟩ := hasked
      rfl
    · refine ⟨acts ++ acts', hc.append hc', hrequest.asked hcalm hasked, hfailed.imp
        (fun ⟨hasked', hwhy⟩ => ⟨hasked.trans hasked', fun hready => hwhy ?_⟩)
        fun ⟨hidle, hl, hno⟩ => ⟨?_, (houtline acts').symm ▸ hl, fun hsure => hno ?_⟩⟩
      · obtain ⟨hidle, hsure, hgates, hcfg⟩ := hready
        refine ⟨?_, hsure.of_alike hc.graphs halike, hc.graphs ▸ hgates, hcfg⟩
        obtain ⟨_, rfl⟩ := hasked
        exact hidle
      · obtain ⟨_, rfl⟩ := hasked
        exact hidle
      · exact hsure.of_alike hc.graphs halike
  · refine ⟨acts, hc, ?_, .inl ⟨hasked, fun hready => absurd hready hno⟩⟩
    simpa using Request.idle.asked hcalm hasked

/-- The course that a request runs through, however it ends. -/
theorem plays {x : Step Resolution} (h : Handles cfg reported x s entry script refuses) :
    Plays cfg reported x s (fun acts _ t => Request entry s acts t)
      fun acts t => Request entry s acts t :=
  Ends.mono h (fun _ _ ⟨acts, hc, hrequest, _⟩ => ⟨acts, hc, hrequest⟩)
    fun _ _ ⟨acts, hc, hrequest, _⟩ => ⟨acts, hc, hrequest⟩

/-- With everything there that it may need, a request is refused only as the story has it. -/
theorem refused {x : Step Resolution} (h : Handles cfg reported x s entry script refuses)
    (hready : s.Ready cfg) : Ends x s (fun _ _ => True) fun why _ => why.IsIllegal refuses :=
  Ends.mono h (fun _ _ _ => trivial) fun _ _ ⟨_, _, _, h⟩ =>
    h.elim (fun h => h.2 hready) fun h => absurd hready.sure h.2.2

end Handles

namespace Step

theorem working_opened (hs : s.Agrees) (hsound : s.Sound) (p : Pending) :
    ({ s with pending := some p } : Session).Working :=
  ⟨hs.of_same rfl rfl, hsound.congr rfl, rfl⟩

/-- An entry that is interrupted is ended all the same. -/
theorem plays_settling {α : Type} {body : Step α} {Q : List Act → α → Session → Prop}
    {E : List Act → Prop} (hs : s.Working) (hbody : Walks cfg reported body s Q E) :
    Plays cfg reported (settling body) s
      (fun acts a t => (∀ b ∈ acts, b.isInner = true) ∧ Q (outline acts) a t)
      fun acts t => ∃ inner ending, acts = inner ++ ending ∧ (∀ b ∈ inner, b.isInner = true) ∧
        E (outline inner) ∧ Ending ending t := by
  unfold settling Plays
  rw [ends_orElseDo]
  refine Ends.mono hbody (fun _ _ h => h) fun why t ⟨inner, hc, hinner, he⟩ => ?_
  have hsettle : Plays cfg reported settle t _ _ := plays_settle (hs.course hc hinner).entry
  exact Ends.mono hsettle
    (fun _ u ⟨ending, hc', hend⟩ => ⟨_, hc.append hc', inner, ending, rfl, hinner, he, hend⟩)
    fun _ _ ⟨_, _, he⟩ => he.elim

theorem openEntry_eq (hp : s.pending = none) (kind : EntryKind)
    (graph node choice source : Option String) : openEntry kind graph node choice source s =
      .ok () { s with pending := some { kind, graph, node, choice, source } } := by
  unfold openEntry
  rw [run_get, hp]
  rfl

theorem ends_openEntry_bind {β : Type} (hp : s.pending = none) {kind : EntryKind}
    {graph node choice source : Option String} {rest : Step β} {Q : β → Session → Prop}
    {E : Fault → Session → Prop} :
    Ends (openEntry kind graph node choice source >>= fun _ => rest) s Q E ↔
      Ends rest { s with pending := some { kind, graph, node, choice, source } } Q E := by
  rw [ends_bind]
  unfold Ends
  rw [openEntry_eq hp]

theorem openEntry_eq_error {p : Pending} (hp : s.pending = some p) (kind : EntryKind)
    (graph node choice source : Option String) : openEntry kind graph node choice source s =
      .error (.refused (.alreadyResolving p.kind p.graph)) s := by
  unfold openEntry
  rw [run_get, hp]
  rfl

theorem plays_openEntry {β : Type} {kind : EntryKind} {graph node choice source : Option String}
    {rest : Step β} {Q : List Act → β → Session → Prop} {E : List Act → Session → Prop}
    (hopen : s.inEntry = true → E [] s)
    (hrest : s.pending = none → Plays cfg reported rest
      { s with pending := some { kind, graph, node, choice, source } }
      (fun acts => Q ([.opens kind graph node choice source] ++ acts))
      fun acts => E ([.opens kind graph node choice source] ++ acts)) :
    Plays cfg reported (openEntry kind graph node choice source >>= fun _ => rest) s Q E := by
  cases hp : s.pending with
  | some p =>
    refine .congr (y := throw (.refused (.alreadyResolving p.kind p.graph))) ?_
      (.throw (hopen (Option.isSome_iff_exists.2 ⟨p, hp⟩)))
    simp only [bind, EStateM.bind, openEntry_eq_error hp]
    rfl
  | none =>
    have hcourse := Course.single cfg (a := .opens kind graph node choice source)
      (show Act.Lawful reported s _ from hp)
    rw [Act.run_opens hp] at hcourse
    have hrest := hrest hp
    unfold Plays at *
    rw [ends_openEntry_bind hp]
    exact Ends.mono hrest (fun _ _ ⟨_, hc, hq⟩ => ⟨_, hcourse.append hc, hq⟩)
      fun _ _ ⟨_, hc, he⟩ => ⟨_, hcourse.append hc, he⟩

/-- A request that writes an entry, and ends it whatever happens. -/
theorem plays_entry {α β : Type} {kind : EntryKind} {graph node choice source : Option String}
    {body : Step α} {finish : α → Step β} {R : β → Session → Session → Prop} {P : Prop}
    (script : List Act → Prop) (hs : s.Agrees) (hsound : s.Sound)
    (hscript : ∀ l, script l → Balanced s.graphs l)
    (hbody : Walks cfg reported body
      { s with pending := some { kind, graph, node, choice, source } } (fun l _ _ => script l)
      fun l => script l ∧ P)
    (hfinish : ∀ a t p, t.Working → t.pending = some p → p.Mild →
      Plays cfg reported (finish a) t (fun acts b u => Ending acts u ∧ R b t u)
        fun _ _ => False) :
    Plays cfg reported (do
        openEntry kind graph node choice source
        let a ← settling body
        finish a) s
      (fun acts b u => Request (kind, graph) s acts u ∧ script (outline acts) ∧
        ∃ t, t.log = s.log ∧ R b t u)
      fun acts u => Request (kind, graph) s acts u ∧
        (s.inEntry = true ∧ u = s ∨ s.pending = none ∧ script (outline acts) ∧ P) := by
  have hworking := working_opened hs hsound { kind, graph, node, choice, source }
  refine plays_openEntry (fun hopen => ⟨.idle, .inl ⟨hopen, rfl⟩⟩) fun hidle => Plays.bind
    ((plays_settling hworking hbody).mono (fun _ _ _ h => h) ?_)
    fun inner a t hc ⟨hinner, hl⟩ => ?_
  · rintro _ t ⟨inner, ending, rfl, hinner, ⟨hl, hno⟩, hend⟩
    refine ⟨.of_ending hinner (hscript _ hl) hend, .inr ⟨hidle, ?_, hno⟩⟩
    rwa [outline_request inner hend]
  · obtain ⟨p, hp, hcont⟩ := hc.entry_kept hinner rfl
    have hmild : p.Mild := hcont.mild (by simp [Pending.Mild])
    refine (hfinish a t p (hworking.course hc hinner) hp hmild).mono
      (fun ending b u ⟨hend, hR⟩ => ?_) fun _ _ he => he.elim
    refine ⟨.of_ending hinner (hscript _ hl) hend, ?_, t, hc.log_kept hinner, hR⟩
    rwa [outline_request inner hend]

theorem plays_conclude {p : Pending} (hs : s.Working) (hp : s.pending = some p) (hmild : p.Mild)
    (g : String) (choice active : Option String) :
    Plays cfg reported (conclude g choice active) s
      (fun acts r t => Ending acts t ∧ ∃ written, s.Gains written t ∧ r.Grants written t)
      fun _ _ => False := by
  unfold conclude
  refine .get_bind ((plays_commit hp).bind fun acts written t _ ⟨hend, ht, hgains⟩ =>
    .get_bind (.pure ⟨by rwa [List.append_nil], written, hgains, rfl, rfl, ?_, ?_⟩))
  · have hagrees : t.Agrees := ht ▸ hs.agrees.of_same rfl rfl
    cases hnode : active.bind fun g => (t.instance? g).bind (·.activeNode) with
    | none => exact .inl ⟨rfl, rfl⟩
    | some n =>
      obtain ⟨h, hactive, hn⟩ := Option.bind_eq_some_iff.1 hnode
      obtain ⟨i, hi, hn⟩ := Option.bind_eq_some_iff.1 hn
      have hplaced := hagrees.placed i (Session.mem_of_instance? hi)
      exact .inr ⟨h, n, i, hactive, rfl, hi, hplaced.active.1 (by rw [hn]; rfl), hn⟩
  · have hdiagnostics : s.diagnostics = p.diagnostics := by rw [Session.diagnostics, hp]
    exact hdiagnostics ▸ hmild

/-- Writes an entry for a graph and answers the request. -/
def writing {α : Type} (kind : EntryKind) (graph : String) (node choice : Option String)
    (body : Step α) (active : α → Option String) : Step Resolution := do
  openEntry kind (some graph) node choice none
  let a ← settling body
  conclude graph choice (active a)

theorem handles_writing {α : Type} {kind : EntryKind} {g : String} {node choice : Option String}
    {body : Step α} {active : α → Option String} {script : List Act → Prop}
    {refuses : IllegalChoice → Prop} (hs : s.Agrees) (hsound : s.Sound)
    (hscript : ∀ l, script l → Balanced s.graphs l)
    (hbody : Walks cfg reported body
      { s with pending := some { kind, graph := some g, node, choice, source := none } }
      (fun l _ _ => script l) fun l => script l ∧ ¬ s.Sure) :
    Handles cfg reported (writing kind g node choice body active) s (kind, some g) script
      refuses := by
  have hentry : Plays cfg reported (writing kind g node choice body active) s _ _ :=
    plays_entry script hs hsound hscript hbody fun a t p ht hp hmild =>
      plays_conclude ht hp hmild g choice (active a)
  unfold Handles
  refine Ends.mono hentry
    (fun _ _ ⟨acts, hc, hrequest, hl, t, hlog, written, hgains, hgrants⟩ => ?_)
    fun _ _ ⟨acts, hc, hrequest, hfailed⟩ => ?_
  · exact ⟨acts, hc, hrequest, hl, written, hgains.of_log hlog, hgrants⟩
  · refine ⟨acts, hc, hrequest, hfailed.imp_left fun ⟨hopen, ht⟩ =>
      ⟨ht ▸ .refl _, fun hready => ?_⟩⟩
    rw [Session.inEntry, hready.idle] at hopen
    cases hopen

/-- Looks for a graph while the story goes on. -/
def found (graph : String) : Step Instance := do
  checkNotEnded
  instanceOf graph

/-- Looks for a graph that can be started. -/
def startable (graph : String) : Step Instance := do
  let i ← found graph
  unless (← get).canStart graph do
    if i.lifecycle = .completed then throw (.illegal (.alreadyCompleted graph))
    throw (.illegal (.notAvailable graph i.lifecycle))
  pure i

/-- Looks for a graph that can be given up. -/
def abandonable (graph : String) : Step Instance := do
  let i ← found graph
  unless i.lifecycle = .available ∨ i.lifecycle = .inProgress do
    throw (.illegal (.cannotAbandon graph i.lifecycle))
  pure i

/-- Looks for a choice of the node where a graph in progress stands. -/
def offered (graph choice : String) : Step (Instance × Node × Choice) := do
  let i ← found graph
  unless i.lifecycle = .inProgress do throw (.illegal (.notInProgress graph i.lifecycle))
  match ← activeNodeOf i with
  | none => throw .unexpected
  | some n =>
    match n.choice? choice with
    | none => throw (.illegal (.noSuchChoice choice graph n.id))
    | some c => pure (i, n, c)

theorem start_eq (g : String) : start cfg g = startable g >>= fun i =>
    writing .start g (some i.graph.start) none (do
      startGraph cfg i
      let _ ← finishIfEnded cfg i) fun _ => some g := by
  unfold start startable found writing
  simp only [bind_assoc]
  congr 1
  funext _
  congr 1
  funext i
  congr 1
  funext s
  split
  next => rfl
  next => split <;> rfl

theorem abandon_eq (g : String) : abandon cfg g = abandonable g >>= fun i =>
    writing .abandon g i.activeNode none (do
      failGraph cfg i
      refreshAvailability) fun _ => none := by
  unfold abandon abandonable found writing
  simp only [bind_assoc]
  congr 1
  funext _
  congr 1
  funext i
  split <;> rfl

/-- Takes a choice that is offered, unless there are reasons against it. -/
def take (cfg : Settings) (graph choice : String) : Instance × Node × Choice → Step Resolution
  | (i, n, c) => do
    match ← reasonsAgainst cfg (← get).ledger n c with
    | [] => writing .choice graph (some n.id) (some choice) (do
        let active ← advance cfg i c
        refreshAvailability
        pure active) id
    | reasons => throw (.illegal (.notLegal choice reasons))

theorem choose_eq (g choice : String) :
    choose cfg g choice = offered g choice >>= take cfg g choice := by
  unfold choose offered found take writing
  simp only [bind_assoc]
  congr 1
  funext _
  congr 1
  funext i
  split
  next =>
    rw [bind_assoc]
    congr 1
    funext n?
    cases n? with
    | none => rfl
    | some n =>
      dsimp only
      cases n.choice? choice <;> rfl
  next => rfl

theorem looks_found (g : String) : Looks (found g) s
    (fun i => s.ending = none ∧ s.instance? g = some i)
    (Fault.IsIllegal fun why => why.subject? = none ∧
      (s.ending = none ∧ s.instance? g = none ∨
        ∃ ending failed, s.ending = some (ending, failed) ∧ why = .storyEnded ending)) := by
  unfold found
  refine (looks_checkNotEnded.mono (fun _ h => h) ?_).andThen fun _ hending =>
    (looks_instanceOf g).mono (fun _ hi => ⟨hending, hi⟩) ?_
  · rintro _ ⟨_, rfl, ending, failed, hending, rfl⟩
    exact ⟨_, rfl, rfl, .inr ⟨ending, failed, hending, rfl⟩⟩
  · rintro _ ⟨_, rfl, hnone, rfl⟩
    exact ⟨_, rfl, rfl, .inl ⟨hending, hnone⟩⟩

theorem looks_startable (g : String) : Looks (startable g) s
    (fun i => s.instance? g = some i ∧ s.canStart g = true)
    (Fault.IsIllegal fun why => ∀ name ∈ why.subject?, name = g) := by
  unfold startable
  refine ((looks_found g).mono (fun _ h => h) ?_).andThen fun i ⟨_, hi⟩ => .get_bind ?_
  · rintro _ ⟨_, rfl, hnone, _⟩
    exact ⟨_, rfl, by simp [hnone]⟩
  split
  next hcan => exact .pure ⟨hi, hcan⟩
  next => split <;> exact .throw ⟨_, rfl, by simp [IllegalChoice.subject?]⟩

theorem looks_abandonable (g : String) : Looks (abandonable g) s
    (fun i => s.instance? g = some i ∧ (i.lifecycle = .available ∨ i.lifecycle = .inProgress))
    (Fault.IsIllegal fun why => ∀ name ∈ why.subject?, name = g) := by
  unfold abandonable
  refine ((looks_found g).mono (fun _ h => h) ?_).andThen fun i ⟨_, hi⟩ => ?_
  · rintro _ ⟨_, rfl, hnone, _⟩
    exact ⟨_, rfl, by simp [hnone]⟩
  split
  next hlife => exact .pure ⟨hi, hlife⟩
  next => exact .throw ⟨_, rfl, by simp [IllegalChoice.subject?]⟩

theorem looks_offered (hs : s.Agrees) (g choice : String) : Looks (offered g choice) s
    (fun (i, n, c) => s.Faces g choice i n c) (Fault.IsIllegal (s.Refuses cfg g choice)) := by
  unfold offered
  refine ((looks_found g).mono (fun _ h => h) ?_).andThen fun i ⟨hending, hi⟩ => ?_
  · rintro _ ⟨why, rfl, hnone, ⟨hending, hi⟩ | ⟨ending, failed, hending, rfl⟩⟩
    · exact ⟨_, rfl, .of_unfaced hending (by simp [hnone]) fun i n c hc => by
        cases hi.symm.trans hc.found⟩
    · refine ⟨_, rfl, by simp [hnone], fun e f he => ?_, fun i n c hc => ?_⟩
      · cases hending.symm.trans he
        rfl
      · cases hending.symm.trans hc.going
  have hsame {j : Instance} {n : Node} {c : Choice} (hc : s.Faces g choice j n c) : j = i :=
    Option.some.inj (hc.found.symm.trans hi)
  split
  case isFalse hlife =>
    exact .throw ⟨_, rfl, .of_unfaced hending (by simp [IllegalChoice.subject?])
      fun j n c hc => hlife (hsame hc ▸ hc.playing)⟩
  case isTrue hlife =>
  have hplaced := hs.placed i (Session.mem_of_instance? hi)
  refine (looks_activeNodeOf hplaced).andThen fun n? hn => ?_
  cases n? with
  | none =>
    have hstands := hplaced.node?_isSome
    rw [← hn, hplaced.active.2 hlife] at hstands
    cases hstands
  | some n =>
    dsimp only
    split
    next hnone =>
      refine .throw ⟨_, rfl, .of_unfaced hending nofun fun j m c hc => ?_⟩
      cases hsame hc
      cases hn.trans hc.node
      cases hnone.symm.trans hc.choice
    next c hc => exact .pure ⟨hending, hi, hlife, hn.symm, hc⟩

/-- Starting a graph begins it. -/
theorem handles_start (hs : s.Agrees) (hsound : s.Sound) (g : String) :
    Handles cfg reported (start cfg g) s (.start, some g)
      (fun l => ∃ i, s.instance? g = some i ∧ i.graph.Begins none l)
      fun why => ∀ name ∈ why.subject?, name = g := by
  rw [start_eq]
  refine .looked (looks_startable g) fun i ⟨hi, hcan⟩ =>
    handles_writing hs hsound (fun l ⟨j, hj, hl⟩ => ?_) ?_
  · exact hl.balanced (s.graphNames_eq ▸ hsound.distinct)
      (List.mem_map_of_mem (Session.mem_of_instance? hj))
  have hid := Session.id_of_instance? hi
  subst hid
  have hending : s.ending = none := by
    rw [Session.canStart, hi, Bool.and_eq_true, Option.isNone_iff_eq_none] at hcan
    exact hcan.1
  have hworking := working_opened hs hsound
    { kind := .start, graph := some i.graph.id, node := some i.graph.start }
  have hlists : Session.Lists _ i := (Session.Has.of_instance? hi).lists
  exact (walks_begin hworking hlists (change_of_canStart hcan)).mono
    (fun l _ _ hl => ⟨i, hi, hending ▸ hl⟩) fun _ h => h.elim

/-- The entry of a graph that is given up goes on with its failing. -/
theorem walks_abandoned {i : Instance} (hs : s.Agrees) (hsound : s.Sound)
    (hi : s.instance? i.graph.id = some i)
    (hlife : i.lifecycle = .available ∨ i.lifecycle = .inProgress) :
    Walks cfg reported (failGraph cfg i)
      { s with
        pending := some { kind := .abandon, graph := some i.graph.id, node := i.activeNode } }
      (fun l _ _ => l = i.graph.failing) fun _ => False := by
  refine walks_failGraph (working_opened hs hsound _) (Session.Has.of_instance? hi).lists
    fun j hj => ?_
  have hsame : j = i := Option.some.inj (hj.symm.trans hi)
  subst hsame
  exact hlife.elim (fun h => .abandoned h rfl rfl rfl) .failed

/-- A graph that is abandoned fails. -/
theorem handles_abandon (hs : s.Agrees) (hsound : s.Sound) (g : String) :
    Handles cfg reported (abandon cfg g) s (.abandon, some g)
      (fun l => ∃ i, s.instance? g = some i ∧ l = i.graph.failing)
      fun why => ∀ name ∈ why.subject?, name = g := by
  rw [abandon_eq]
  refine .looked (looks_abandonable g) fun i ⟨hi, hlife⟩ =>
    handles_writing hs hsound (fun l ⟨j, _, hl⟩ => hl ▸ j.graph.balanced_failing) ?_
  have hid := Session.id_of_instance? hi
  subst hid
  refine (walks_abandoned hs hsound hi hlife).bind (working_opened hs hsound _) nofun
    fun l _ t ht hl => (walks_refreshAvailability ht.working).mono (fun l' _ _ hl' => ?_)
      fun l' ⟨hl', hno⟩ => ?_
  · exact ⟨i, hi, by simp [hl, hl']⟩
  · exact ⟨⟨i, hi, by simp [hl, hl']⟩, fun hsure =>
      hno (ht.sure (hsure.of_alike rfl (.of_outages rfl)))⟩

/-- A choice whose gates are all met is followed. -/
theorem handles_choose (hs : s.Agrees) (hsound : s.Sound) (g choice : String) :
    Handles cfg reported (choose cfg g choice) s (.choice, some g)
      (fun l => ∃ i n c, s.Faces g choice i n c ∧ c.unmet s.ledger s.host n = [] ∧
        c.Follows s.graphs i.graph l)
      (s.Refuses cfg g choice) := by
  rw [choose_eq]
  refine .looked (looks_offered hs g choice) fun (i, n, c) hfaces => ?_
  have hid := Session.id_of_instance? hfaces.found
  subst hid
  have hmem := Session.mem_of_instance? hfaces.found
  have hgraph : i.graph ∈ s.graphs := List.mem_map_of_mem hmem
  obtain ⟨hn, hactive⟩ := Instance.of_node? hfaces.node
  have hc : c ∈ n.choices := List.mem_of_find?_eq_some hfaces.choice
  unfold take
  refine .get_bind (.bind_asked (plays_reasonsAgainst s.ledger n c) (Ends.imp fun hready => ?_)
    fun reasons t hasked hreasons => ?_)
  · exact (Guarded.reasonsAgainst hready.described (hready.gates _ hgraph n hn c hc) s.ledger s
      hready.sure.answering).mono (fun _ _ _ => trivial) fun _ _ h => h
  split
  next =>
    have hunmet := (Requirement.describeAll_eq_nil hreasons).1 rfl
    obtain ⟨outages, rfl⟩ := hasked
    refine handles_writing (hs.of_same rfl rfl) (hsound.congr rfl)
      (fun l ⟨j, m, d, hd, _, hl⟩ => ?_) ?_
    · exact hl.balanced (s.graphNames_eq ▸ hsound.distinct)
        (List.mem_map_of_mem (Session.mem_of_instance? hd.found))
    have hworking := working_opened (s := { s with host := { s.host with outages } })
      (hs.of_same rfl rfl) (hsound.congr rfl)
      { kind := .choice, graph := some i.graph.id, node := some n.id, choice := some choice }
    refine (walks_advance hworking hfaces.going hfaces.found hfaces.playing hn hactive hc).bind
      hworking (fun l ⟨hl, hno⟩ => ⟨⟨i, n, c, hfaces, hunmet, hl⟩, fun hsure =>
        hno (hsure.of_alike rfl (.of_outages rfl))⟩)
        fun l _ u hu (hl : c.Follows s.graphs i.graph l) => ?_
    refine (walks_refreshAvailability hu.working).bind hu.working (fun l' ⟨hl', hno⟩ => ?_)
      fun l' _ _ _ hl' => .pure ⟨i, n, c, hfaces, hunmet, by simpa [hl'] using hl⟩
    exact ⟨⟨i, n, c, hfaces, hunmet, by simpa [hl'] using hl⟩, fun hsure =>
      hno (hu.sure (hsure.of_alike rfl (.of_outages rfl)))⟩
  next hne =>
    refine .throw ⟨by simp [IllegalChoice.subject?], fun _ _ he => ?_, fun j m d hd => ?_⟩
    · cases hfaces.going.symm.trans he
    · obtain ⟨rfl, rfl, rfl⟩ := hfaces.unique hd
      exact ⟨reasons, hne, hreasons, rfl⟩

/-- Outcomes are always applied to the end, unless they come in the middle of something else. -/
theorem plays_applyAsEntry {outcomes : List Outcome} (hs : s.Agrees) (hsound : s.Sound)
    (ho : ∀ o ∈ outcomes, reported o) (source : Option String) :
    Plays cfg reported (applyAsEntry cfg {} outcomes .external none none none source) s
      (fun acts written t => Request (.external, none) s acts t ∧
        outline acts = Cause.report.script outcomes ∧ s.Gains written t)
      fun acts t => Request (.external, none) s acts t ∧ s.inEntry = true ∧ t = s := by
  unfold applyAsEntry
  have happlied : Walks cfg reported (applyOutcomes cfg {} outcomes) _ _ _ :=
    walks_applyOutcomes (c := .report) (working_opened hs hsound { kind := .external, source }) ho
  refine (plays_entry (· = Cause.report.script outcomes) (P := False) hs hsound
    (fun _ hl => hl ▸ Cause.balanced_script (by simp) _)
    (happlied.mono (fun _ _ _ h => h.1) fun _ h => h.elim) fun _ t p _ hp _ =>
      (plays_commit hp).mono (fun _ _ _ h => ⟨h.1, h.2.2⟩) fun _ _ h => h).mono
    (fun _ _ _ ⟨hrequest, hl, t, hlog, hgains⟩ => ⟨hrequest, hl, hgains.of_log hlog⟩)
    fun _ _ ⟨hrequest, h⟩ => ⟨hrequest, h.resolve_right fun h => h.2.2⟩

theorem plays_refresh (hs : s.Agrees) (hsound : s.Sound) :
    Plays cfg reported (do
        openEntry .refresh none none none none
        settling refreshAvailability
        if (← get).hasPendingChanges then
          let _ ← commit
        else discard) s
      (fun acts _ t => Request (.refresh, none) s acts t ∧ outline acts = [])
      fun acts t => Request (.refresh, none) s acts t ∧ (t = s ∨ outline acts = []) := by
  have hpass : Walks cfg reported refreshAvailability _ _ _ :=
    walks_refreshAvailability (working_opened hs hsound { kind := .refresh })
  refine (plays_entry (· = []) (R := fun _ _ _ => True) (P := ¬ s.Sure) hs hsound
    (fun _ hl => hl ▸ .nil) (hpass.mono (fun _ _ _ h => h) fun _ h => ⟨h.1, fun hsure =>
      h.2 (hsure.of_alike rfl (.of_outages rfl))⟩) fun _ t p ht hp _ => .get_bind ?_).mono
    (fun _ _ _ h => ⟨h.1, h.2.1⟩) fun _ _ ⟨hrequest, hfailed⟩ =>
      ⟨hrequest, hfailed.imp And.right fun h => h.2.1⟩
  split
  next =>
    refine (plays_commit hp).bind fun acts _ u _ ⟨hend, _⟩ => .pure ⟨?_, trivial⟩
    rwa [List.append_nil]
  next hchanges =>
    refine (plays_discard hp ?_).mono (fun _ _ _ h => ⟨h, trivial⟩) fun _ _ h => h
    simpa [Session.hasPendingChanges, hp] using hchanges

/-- The first entry of a new game.  It stays open when the host fails. -/
theorem plays_begin (hs : s.Agrees) (hsound : s.Sound) :
    Plays cfg reported (do
        openEntry .newGame none none none none
        refreshAvailability
        let _ ← commit) s
      (fun acts _ t => Request (.newGame, none) s acts t)
      fun acts _ => ∀ a ∈ acts, ∀ host, a ≠ .turns host := by
  have hworking := working_opened hs hsound { kind := .newGame }
  refine plays_openEntry (fun _ => nofun) fun _ =>
    Plays.bind ((plays_refreshAvailability hworking).mono (fun _ _ _ h => h) fun acts _ hcalm =>
      List.forall_mem_cons.2 ⟨nofun, unturned_of_inner hcalm.inner⟩)
      fun inner _ t hc hcalm => ?_
  obtain ⟨p, hp⟩ := Option.isSome_iff_exists.1 (hworking.course hc hcalm.inner).entry
  refine ((plays_commit hp).mono (fun _ _ _ h => h) fun _ _ h => h.elim).bind
    fun acts _ u _ ⟨hend, _⟩ => .pure ?_
  rw [List.append_nil]
  exact .of_ending hcalm.inner (balanced_outline.2 (hcalm.balanced (by simp))) hend

end Step

end Questline
