import Questline.Proofs.Promotion

/-! A choice that is taken and a graph that is given up end with a pass over the availability of
graphs.  Nothing changes after it on which a requirement bears, so the next pass opens nothing. -/

namespace Questline

namespace Session

variable {s t : Session}

theorem Quiet.congr (h : s.Quiet) (hinstances : t.instances = s.instances)
    (hledger : t.ledger = s.ledger) (hhost : t.host = s.host) : t.Quiet := by
  obtain ⟨hnone, hjudged⟩ := h
  constructor
  · rw [due, hinstances, hledger, hhost]
    exact hnone
  · rw [Judged, hinstances, hledger, hhost]
    exact hjudged

/-- A pass from where instances and ledger agree leaves nothing behind that is due. -/
theorem Working.quiet (h : s.Working) : Ends Step.refreshAvailability s
    (fun _ t => t.Quiet ∧ t.inEntry = true) fun _ _ => True := by
  refine (Step.ends_refreshAvailability s).mono (fun _ t ⟨hopened, _, hjudged⟩ => ?_)
    fun _ _ _ => trivial
  refine ⟨h.agrees.isRecorded.quiet hjudged hopened, ?_⟩
  obtain ⟨outages, rfl⟩ := hopened
  rw [inEntry, opened, Option.isSome_map]
  exact h.entry

end Session

namespace Step

variable {cfg : Settings} {s : Session}

/-- What holds when the body of a request is done, and is not touched by closing its entry, holds
when the request is done. -/
theorem ends_writing {α : Type} {kind : EntryKind} {g : String} {node choice : Option String}
    {body : Step α} {active : α → Option String} {Q : Session → Prop}
    (hQ : ∀ t p, Q t → Q (t.closed p))
    (hbody : Ends body
      { s with pending := some { kind, graph := some g, node, choice, source := none } }
      (fun _ t => Q t ∧ t.inEntry = true) fun _ _ => True) :
    Ends (writing kind g node choice body active) s
      (fun _ t => Q t ∧ t.pending = none) fun _ _ => True := by
  unfold writing
  cases hidle : s.pending with
  | some p =>
    rw [ends_bind]
    unfold Ends
    rw [openEntry_eq_error hidle]
    trivial
  | none =>
    rw [ends_openEntry_bind hidle, ends_bind, settling, ends_orElseDo]
    refine hbody.mono (fun a t ⟨hdone, hentry⟩ => ?_) fun _ _ _ => ?_
    · obtain ⟨p, hp⟩ := Option.isSome_iff_exists.1 hentry
      rw [conclude, ends_bind, ends_get, ends_bind]
      unfold Ends
      rw [commit_eq hp]
      exact ⟨hQ t p hdone, rfl⟩
    · exact ends_of_after trivial

/-- A request whose body ends quiet ends quiet, with its entry closed. -/
theorem writing_quiet {α : Type} {kind : EntryKind} {g : String} {node choice : Option String}
    {body : Step α} {active : α → Option String}
    (hbody : Ends body
      { s with pending := some { kind, graph := some g, node, choice, source := none } }
      (fun _ t => t.Quiet ∧ t.inEntry = true) fun _ _ => True) :
    Ends (writing kind g node choice body active) s
      (fun _ t => t.Quiet ∧ t.pending = none) fun _ _ => True :=
  ends_writing (fun _ _ hquiet => hquiet.congr rfl rfl rfl) hbody

theorem choose_quiet (hs : s.Agrees) (hsound : s.Sound) (g choice : String) :
    Ends (choose cfg g choice) s (fun _ t => t.Quiet ∧ t.pending = none) fun _ _ => True := by
  rw [choose_eq, ends_bind]
  have hlooks : Looks (offered g choice) s _ (Fault.IsIllegal (s.Refuses cfg g choice)) :=
    looks_offered hs g choice
  refine Ends.mono hlooks (fun (i, n, c) t ⟨ht, hfaces⟩ => ?_) fun _ _ _ => trivial
  subst ht
  have hid := Session.id_of_instance? hfaces.found
  subst hid
  obtain ⟨hn, hactive⟩ := Instance.of_node? hfaces.node
  have hc : c ∈ n.choices := List.mem_of_find?_eq_some hfaces.choice
  rw [take, ends_bind, ends_get, ends_bind]
  have hreasons : Plays cfg (fun _ => True) (reasonsAgainst cfg t.ledger n c) t _ _ :=
    plays_reasonsAgainst t.ledger n c
  refine Ends.mono hreasons (fun reasons u ⟨_, _, _, hasked, _⟩ => ?_) fun _ _ _ => trivial
  obtain ⟨outages, rfl⟩ := hasked
  cases reasons with
  | cons => trivial
  | nil =>
    have hworking := working_opened (s := { t with host := { t.host with outages } })
      (hs.of_same rfl rfl) (hsound.congr rfl)
      { kind := .choice, graph := some i.graph.id, node := some n.id, choice := some choice }
    have hadvance : Walks cfg (fun _ => True) (advance cfg i c) _ _ _ :=
      walks_advance hworking hfaces.going hfaces.found hfaces.playing hn hactive hc
    refine writing_quiet ?_
    rw [ends_bind]
    refine Ends.mono hadvance (fun _ u ⟨_, hcourse, hinner, _⟩ => ?_) fun _ _ _ => trivial
    rw [ends_bind]
    exact (hworking.course hcourse hinner).quiet

theorem abandon_quiet (hs : s.Agrees) (hsound : s.Sound) (g : String) :
    Ends (abandon cfg g) s (fun _ t => t.Quiet ∧ t.pending = none) fun _ _ => True := by
  rw [abandon_eq, ends_bind]
  refine Ends.mono (looks_abandonable g) (fun i t ⟨ht, hi, hlife⟩ => ?_) fun _ _ _ => trivial
  subst ht
  have hid := Session.id_of_instance? hi
  subst hid
  have hfail : Walks cfg (fun _ => True) (failGraph cfg i) _ _ _ :=
    walks_abandoned hs hsound hi hlife
  refine writing_quiet ?_
  rw [ends_bind]
  refine Ends.mono hfail (fun _ u ⟨_, hcourse, hinner, _⟩ => ?_) fun _ _ _ => trivial
  exact ((working_opened hs hsound _).course hcourse hinner).quiet

end Step

/-- A request that is granted has run to its end. -/
theorem Engine.of_granted {g : String} {choice : Option String} {x : Step Resolution}
    {e : Engine} {Q : Resolution → Session → Prop} (h : (request g choice x e).1.accepted = true)
    (hx : Ends x e.session Q fun _ _ => True) :
    Q (request g choice x e).1 (request g choice x e).2.session := by
  unfold Ends at hx
  unfold request at *
  cases hrun : x e.session with
  | ok r t =>
    rw [hrun] at hx
    exact hx
  | error why t =>
    rw [hrun] at h
    cases h

theorem Engine.session_of_granted {g : String} {choice : Option String} {x : Step Resolution}
    {e : Engine} {Q : Session → Prop} (h : (request g choice x e).1.accepted = true)
    (hx : Ends x e.session (fun _ t => Q t) fun _ _ => True) :
    Q (request g choice x e).2.session := of_granted h hx

/-- Whatever has been asked before, once a choice is taken or a graph given up no graph is left
that is due, and a pass of its own opens nothing and writes nothing. -/
theorem nothing_due_after_request (cfg : Settings) {graphs : List Graph} {host : Host}
    {clock : Clock} {e : Engine} (h : Engine.ofGraphs graphs host clock = .ok e)
    (calls : List Call) {c : Call} {r : Resolution}
    (hc : (∃ g choice, c = .choose g choice) ∨ ∃ g, c = .abandon g)
    (hr : (c.ask cfg (e.afterAll cfg calls)).1 = .resolved r) (haccepted : r.accepted = true)
    (hanswers : (e.afterAll cfg calls).session.host.Answering) :
    let e' := c.after cfg (e.afterAll cfg calls)
    (∀ i ∈ e'.session.instances, ¬ (i.lifecycle = .unavailable ∧
      (i.graph.locked = false ∨ i.unlocked = true) ∧
        ∀ r ∈ i.graph.requirements, r.holds e'.session.ledger e'.session.host = true)) ∧
    ∃ t, Engine.refresh e' = .ok [] { e' with session := t } ∧ Asked e'.session t := by
  intro e'
  have hconsistent := (Engine.Consistent.ofGraphs h).afterAll cfg calls
  have hconsistent' : e'.Consistent graphs := hconsistent.after c
  have hquiet : e'.session.Quiet ∧ e'.session.pending = none := by
    obtain ⟨g, choice, rfl⟩ | ⟨g, rfl⟩ := hc <;> cases hr
    · exact Engine.session_of_granted haccepted
        (Step.choose_quiet hconsistent.agrees hconsistent.sound g choice)
    · exact Engine.session_of_granted haccepted
        (Step.abandon_quiet hconsistent.agrees hconsistent.sound g)
  obtain ⟨hquiet, hidle⟩ := hquiet
  have hanswers' : e'.session.host.Answering := by
    obtain ⟨hplay, hturn⟩ : c.isPlay = true ∧ ∀ host, c ≠ .turn host := by
      obtain ⟨g, choice, rfl⟩ | ⟨g, rfl⟩ := hc <;> exact ⟨rfl, nofun⟩
    obtain ⟨acts, hruns⟩ := hconsistent.runs cfg hplay fun host he => absurd he (hturn host)
    exact hruns.answering hturn hanswers
  constructor
  · intro i hi hdue
    have hmem := (Session.mem_due hconsistent'.sound.distinct hi).2 (Instance.isDue_eq_true.2 hdue)
    rw [hquiet.none_due] at hmem
    cases hmem
  · obtain ⟨t, hrun, hasked⟩ :=
      Engine.refresh_ok hidle hconsistent'.sound.distinct hquiet.judged hanswers'
    rw [Session.refreshed, if_pos hquiet.none_due] at hasked
    rw [hquiet.none_due] at hrun
    exact ⟨t, hrun, hasked⟩

/-- The patrol is walked to its end, where no badge can be given and the parade is due. -/
theorem nothing_due_after_request_patrol :
    let patrol : Graph := { Graph.patrol with
      repeatable := false, completion := [{ kind := .giveItem, target := some "badge" }] }
    let parade : Graph := { Graph.patrol with
      id := "parade", requirements := [⟨.questCompleted, "patrol", .holds, none⟩] }
    let calls : List Call := [.newGame false, .start "patrol", .choose "patrol" "walk",
      .turn (({} : Host).breakService .giveItem none)]
    let c : Call := .choose "patrol" "again"
    ∃ e r t, Engine.ofGraphs [patrol, parade] {} (.ticking 0 1) = .ok e ∧
      (c.ask .builtIn (e.afterAll .builtIn calls)).1 = .resolved r ∧ r.accepted = true ∧
      (c.after .builtIn (e.afterAll .builtIn calls)).session.graphsIn .available = ["parade"] ∧
      Engine.refresh (c.after .builtIn (e.afterAll .builtIn calls)) =
        .ok [] { c.after .builtIn (e.afterAll .builtIn calls) with session := t } := by
  intro patrol parade calls c
  let e : Engine := { session := { Session.start {} (.ticking 0 1) with
    instances := [{ graph := patrol }, { graph := parade }] } }
  have hchecked : (Graph.checkAll [patrol, parade] [] [] []).2.isEmpty = true := by decide +kernel
  have hbuilt : Engine.ofGraphs [patrol, parade] {} (.ticking 0 1) = .ok e :=
    Engine.register_of_checked (e := { session := .start {} (.ticking 0 1) })
      (List.isEmpty_iff.1 hchecked)
  have hanswers : (e.afterAll .builtIn calls).session.host.Answering :=
    (Host.Answering.of_up rfl).breakService Requirement.service?_ne_giveItem none
  let r := (Engine.choose .builtIn "patrol" "again" (e.afterAll .builtIn calls)).1
  have hr : (c.ask .builtIn (e.afterAll .builtIn calls)).1 = .resolved r := by
    simp only [c, Call.ask, Prod.map_fst, r]
  have haccepted : r.accepted = true := by decide +kernel
  obtain ⟨_, t, hrefresh, _⟩ := nothing_due_after_request .builtIn hbuilt calls
    (c := c) (.inl ⟨_, _, rfl⟩) hr haccepted hanswers
  exact ⟨e, r, t, hbuilt, hr, haccepted, by decide +kernel, hrefresh⟩

end Questline
