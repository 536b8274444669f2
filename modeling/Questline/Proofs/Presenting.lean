import Questline.Proofs.Visiting
import Questline.Proofs.Wording

/-! What is shown can be done.  A choice that is shown as legal is taken when it is asked for, one
that is shown as illegal is refused for the reasons shown with it, and no other choice is taken. -/

namespace Questline

/-- Every requirement holds in both games or in neither. -/
def Host.LooksLike (h h' : Host) : Prop :=
  ∀ (r : Requirement) (l : Ledger), r.holds l h' = r.holds l h

/-- Nothing is shown of a graph that stands nowhere; else its active node is, with all its choices
in their order, the legal ones apart from the others. -/
def Session.Displays (s : Session) (g : String) : Option PresentedNode → Prop
  | none => ∀ i, s.instance? g = some i → i.activeNode = none
  | some shown => ∃ i n, s.instance? g = some i ∧ i.node? = some n ∧
      shown.graph = g ∧ shown.node = n.id ∧ ∃ choices : List PresentedChoice,
        choices.map (fun c => (c.id, c.text)) = n.choices.map (fun c => (c.id, c.text)) ∧
        shown.legal = choices.filter (·.isLegal) ∧ shown.illegal = choices.filter (!·.isLegal)

/-- A request for a choice comes out as what is shown says. -/
structure Resolution.AsShown (r : Resolution) (s : Session) (choice : String)
    (shown : Option PresentedNode) : Prop where
  accepted : r.accepted = true ↔ ∃ node ∈ shown, ∃ c ∈ node.legal, c.id = choice
  refused : ∀ node ∈ shown, ∀ c ∈ node.illegal, c.id = choice → r.accepted = false ∧
    r.diagnostics = match s.ending with
      | some _ => c.reasons
      | none => [choice ++ " is not legal: " ++ ", ".intercalate c.reasons]

variable {cfg : Settings} {s : Session} {g : String}

theorem Choice.unmet_looksLike {host host' : Host} (h : host.LooksLike host') (l : Ledger)
    (n : Node) (c : Choice) : c.unmet l host' n = c.unmet l host n := by
  unfold unmet
  congr 1
  funext r
  rw [h r l]

namespace Session

variable {n : Node} {c : Choice} {p : PresentedChoice}

theorem faces_host {host : Host} {choice : String} {i : Instance} :
    ({ s with host } : Session).Faces g choice i n c ↔ s.Faces g choice i n c :=
  ⟨fun ⟨hending, hi, hlife, hn, hc⟩ => ⟨hending, hi, hlife, hn, hc⟩,
    fun ⟨hending, hi, hlife, hn, hc⟩ => ⟨hending, hi, hlife, hn, hc⟩⟩

theorem named_of_shownAt (h : s.shownAt cfg n c = .ok p) : p.id = c.id ∧ p.text = c.text := by
  unfold shownAt at h
  split at h
  · cases h
    exact ⟨rfl, rfl⟩
  · obtain ⟨_, _, rfl⟩ := map_eq_ok.1 h
    exact ⟨rfl, rfl⟩

theorem reasons_of_ended {ending : String} {failed : Bool}
    (hending : s.ending = some (ending, failed)) (h : s.shownAt cfg n c = .ok p) :
    p.reasons = [endedReason ending] := by
  rw [shownAt, hending] at h
  cases h
  rfl

theorem reasons_of_going (hending : s.ending = none) (h : s.shownAt cfg n c = .ok p) :
    Requirement.describeAll cfg (c.unmet s.ledger s.host n) = .ok p.reasons := by
  rw [shownAt, hending] at h
  obtain ⟨_, hreasons, rfl⟩ := map_eq_ok.1 h
  exact hreasons

theorem going_of_legal (h : s.shownAt cfg n c = .ok p) (hlegal : p.isLegal = true) :
    s.ending = none := by
  cases hending : s.ending with
  | none => rfl
  | some ending =>
    rw [PresentedChoice.isLegal, reasons_of_ended hending h] at hlegal
    cases hlegal

theorem isLegal_iff (hending : s.ending = none) (h : s.shownAt cfg n c = .ok p) :
    p.isLegal = true ↔ c.unmet s.ledger s.host n = [] := by
  rw [PresentedChoice.isLegal, List.isEmpty_iff]
  exact Requirement.describeAll_eq_nil (reasons_of_going hending h)

theorem choice?_of_shown {choices : List PresentedChoice} (hdistinct : (n.choices.map (·.id)).Nodup)
    (hchoices : n.choices.mapM (s.shownAt cfg n) = .ok choices) (hp : p ∈ choices) :
    ∃ c, n.choice? p.id = some c ∧ s.shownAt cfg n c = .ok p := by
  obtain ⟨c, hc, hcp⟩ := (mem_of_mapM hchoices).2 p hp
  refine ⟨c, ?_, hcp⟩
  rw [(named_of_shownAt hcp).1]
  exact find?_of_distinct hdistinct hc

/-- What is shown of a graph, which need not be registered. -/
def ShowsAny (cfg : Settings) (s : Session) (g : String) (shown : Option PresentedNode) : Prop :=
  s.instance? g = none ∧ shown = none ∨ s.Shows cfg g shown

section Shows

variable {shown : Option PresentedNode} {node : PresentedNode} {choice : String} (hs : s.Agrees)
include hs

theorem ShowsAny.displays (h : s.ShowsAny cfg g shown) : s.Displays g shown := by
  rcases h with ⟨hnone, rfl⟩ | ⟨i, hi, ⟨hnone, rfl⟩ | ⟨n, choices, hn, hchoices, rfl⟩⟩
  · intro i hi
    cases hnone.symm.trans hi
  · intro j hj
    cases hi.symm.trans hj
    have hplaced := hs.placed i (mem_of_instance? hi)
    rw [← Option.isNone_iff_eq_none, ← Option.not_isSome, ← hplaced.node?_isSome, hnone]
    rfl
  · refine ⟨i, n, hi, hn, rfl, rfl, choices, map_of_mapM (fun c p hp => ?_) hchoices, rfl, rfl⟩
    obtain ⟨hid, htext⟩ := named_of_shownAt hp
    rw [hid, htext]

variable (hdistinct : ∀ h ∈ s.graphs, ∀ m ∈ h.nodes, (m.choices.map (·.id)).Nodup)
include hdistinct

/-- A choice that is shown while the story goes on is one to be faced. -/
theorem ShowsAny.faces (h : s.ShowsAny cfg g (some node)) (hp : p ∈ node.legal ∨ p ∈ node.illegal) :
    ∃ i n c, s.shownAt cfg n c = .ok p ∧ (s.ending = none → s.Faces g p.id i n c) ∧
      (p ∈ node.legal → p.isLegal = true) ∧ (p ∈ node.illegal → p.isLegal = false) := by
  obtain ⟨_, hnone⟩ | ⟨i, hi, ⟨_, hnone⟩ | ⟨n, choices, hn, hchoices, hsame⟩⟩ := h
  · cases hnone
  · cases hnone
  cases hsame
  have hmem := mem_of_instance? hi
  obtain ⟨hnode, hactive⟩ := Instance.of_node? hn
  have hlisted : p ∈ choices := hp.elim List.mem_of_mem_filter List.mem_of_mem_filter
  obtain ⟨c, hc, hcp⟩ := choice?_of_shown (hdistinct _ (List.mem_map_of_mem hmem) n hnode) hchoices
    hlisted
  refine ⟨i, n, c, hcp, fun hending => ⟨hending, hi, ?_, hn, hc⟩, ?_, ?_⟩
  · exact (hs.placed i hmem).active.1 (by rw [hactive]; rfl)
  · exact fun h => (List.mem_filter.1 h).2
  · exact fun h => by simpa using (List.mem_filter.1 h).2

/-- The legal choices are the ones that nothing stands against. -/
theorem ShowsAny.legal_iff (h : s.ShowsAny cfg g shown) :
    (∃ node ∈ shown, ∃ p ∈ node.legal, p.id = choice) ↔
      ∃ i n c, s.Faces g choice i n c ∧ c.unmet s.ledger s.host n = [] := by
  constructor
  · rintro ⟨node, rfl, p, hp, rfl⟩
    obtain ⟨i, n, c, hcp, hfaces, hlegal, _⟩ := h.faces hs hdistinct (.inl hp)
    have hending := going_of_legal hcp (hlegal hp)
    exact ⟨i, n, c, hfaces hending, (isLegal_iff hending hcp).1 (hlegal hp)⟩
  · rintro ⟨i, n, c, hfaces, hopen⟩
    obtain ⟨hnone, _⟩ | ⟨j, hj, hshown⟩ := h
    · cases hnone.symm.trans hfaces.found
    cases hfaces.found.symm.trans hj
    rcases hshown with ⟨hnone, _⟩ | ⟨m, choices, hm, hchoices, rfl⟩
    · cases hfaces.node.symm.trans hnone
    cases hfaces.node.symm.trans hm
    obtain ⟨p, hp, hcp⟩ := (mem_of_mapM hchoices).1 c (List.mem_of_find?_eq_some hfaces.choice)
    refine ⟨_, rfl, p, List.mem_filter.2 ⟨hp, (isLegal_iff hfaces.going hcp).2 hopen⟩, ?_⟩
    rw [(named_of_shownAt hcp).1]
    simpa using List.find?_some hfaces.choice

/-- Whoever takes choices that nothing stands against, and refuses others for what does, does as is
shown. -/
theorem ShowsAny.asShown {r : Resolution} (h : s.ShowsAny cfg g shown)
    (hr : (r.accepted = true ∧ ∃ i n c, s.Faces g choice i n c ∧ c.unmet s.ledger s.host n = []) ∨
      ∃ why, s.Refuses cfg g choice why ∧ r = .rejected g (some choice) why.message) :
    r.AsShown s choice shown := by
  have hlegal : (∃ node ∈ shown, ∃ p ∈ node.legal, p.id = choice) ↔ _ :=
    h.legal_iff hs hdistinct
  rcases hr with ⟨haccepted, htaken⟩ | ⟨why, hwhy, rfl⟩
  · refine ⟨⟨fun _ => hlegal.2 htaken, fun _ => haccepted⟩, ?_⟩
    -- only one choice goes by the name, so the one that was taken cannot be listed as illegal
    rintro node rfl p hp rfl
    obtain ⟨i, n, c, hcp, hfaces, _, hillegal⟩ := h.faces hs hdistinct (.inr hp)
    obtain ⟨j, m, d, hd, hopen⟩ := htaken
    obtain ⟨rfl, rfl, rfl⟩ := (hfaces hd.going).unique hd
    cases (hillegal hp).symm.trans ((isLegal_iff hd.going hcp).2 hopen)
  · refine ⟨⟨nofun, fun hl => ?_⟩, ?_⟩
    · obtain ⟨i, n, c, hfaces, hopen⟩ := hlegal.1 hl
      obtain ⟨reasons, hsome, hreasons, _⟩ := hwhy.gated i n c hfaces
      exact absurd ((Requirement.describeAll_eq_nil hreasons).2 hopen) hsome
    · rintro node rfl p hp rfl
      obtain ⟨i, n, c, hcp, hfaces, _⟩ := h.faces hs hdistinct (.inr hp)
      refine ⟨rfl, ?_⟩
      cases hending : s.ending with
      | some ending =>
        rw [hwhy.ended _ _ hending, reasons_of_ended hending hcp]
        rfl
      | none =>
        obtain ⟨reasons, _, hreasons, rfl⟩ := hwhy.gated i n c (hfaces hending)
        cases hreasons.symm.trans (reasons_of_going hending hcp)
        rfl

end Shows

end Session

variable {e : Engine}

/-- Any graph can be shown while the facts can be had, and at most the host is asked. -/
theorem Engine.Sturdy.presents (h : e.Sturdy) (hanswers : e.session.host.Answering)
    (hcfg : cfg.Describes) (g : String) : ∃ shown outages, e.session.ShowsAny cfg g shown ∧
      Engine.present cfg (some g) e = .ok shown
        { e with session := { e.session with host := { e.session.host with outages } } } := by
  rw [present_some]
  cases hi : e.session.instance? g with
  | none => exact ⟨none, e.session.host.outages, .inl ⟨hi, rfl⟩, rfl⟩
  | some i =>
    have hagrees := h.consistent.agrees
    have hplays : Plays cfg (fun _ => True) (Step.present cfg g) e.session _ _ :=
      Step.plays_present hagrees g
    have hboth := (Step.present_ok hagrees hanswers hcfg h.gates hi).and hplays
    obtain ⟨shown, _, hrun, -, _, _, _, ⟨outages, rfl⟩, hshows⟩ :=
      Ends.exists_ok (hboth.mono (fun _ _ h => h) fun _ _ h => h.1)
    refine ⟨shown, outages, .inr hshows, ?_⟩
    rw [if_pos (Option.isSome_some), onSession, hrun]

/-- What is shown of a graph, if anything is. -/
def Engine.shown? (cfg : Settings) (g : String) (e : Engine) : Option PresentedNode :=
  match present cfg (some g) e with
  | .ok shown _ => shown
  | .error _ _ => none

theorem Engine.present_of_shown {cfg : Settings} {g : String} {e : Engine} {node : PresentedNode}
    (h : e.shown? cfg g = some node) : ∃ e', present cfg (some g) e = .ok (some node) e' := by
  unfold shown? at h
  split at h
  next shown e' hpresent => exact ⟨e', h ▸ hpresent⟩
  next => cases h

end Questline
