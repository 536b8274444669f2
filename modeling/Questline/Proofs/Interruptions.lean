import Questline.Proofs.Transitions
import Questline.Proofs.Visiting

/-! What an interrupted request leaves behind when no entry tells of it.  An interruption settles
what has been put on record, so all that can be left behind is what never goes on record: the step
of a graph from one node to the next. -/

namespace Questline

/-- An act of which no entry tells. -/
def Act.IsTacit (a : Act) : Prop := a.notes = [] ∧ a.changes = []

/-- A choice has been followed to a node of its graph, both without outcomes. -/
def Call.Strays (s t : Session) : Call → Prop
  | .choose g choice => ∃ i n c m, s.Faces g choice i n c ∧ c.outcomes = [] ∧
      c.next = .node m.id ∧ m ∈ i.graph.nodes ∧ m.entryOutcomes = [] ∧
      t.instances = (s.updateInstance g fun i => { i with activeNode := some m.id }).instances
  | _ => False

/-- A session after acts of which no entry tells. -/
structure Session.Drifts (s : Session) (script : List Act) (t : Session) : Prop where
  tacit : ∀ a ∈ script, a.IsTacit
  ledger : t.ledger = s.ledger
  ending : t.ending = s.ending
  instances : t.instances = script.foldl (fun instances a => instances.map a.onInstance) s.instances

variable {cfg : Settings} {reported : Outcome → Prop} {s t : Session} {acts : List Act}

namespace Act.IsTacit

variable {a : Act}

theorem kept (cfg : Settings) (h : a.IsTacit) (ha : a.Lawful reported s) :
    (a.run cfg s).ledger = s.ledger ∧ (a.run cfg s).ending = s.ending := by
  have hmakes := makes cfg ha
  generalize a.run cfg s = t at hmakes ⊢
  cases hmakes with
  | applies => cases h.1
  | moves => cases h.2
  | _ => exact ⟨rfl, rfl⟩

/-- Of these acts only a step to a node goes on with the story. -/
theorem onInstance_eq (h : a.IsTacit) (hstride : a.isStride = false) (i : Instance) :
    a.onInstance i = i := by
  cases a with
  | applies => cases h.1
  | moves => cases h.2
  | enters => cases hstride
  | opens | asks | remarks | closes | drops | turns => rfl

end Act.IsTacit

namespace Course

theorem drifts (h : Course cfg reported s acts t) (htacit : ∀ a ∈ acts, a.IsTacit) :
    s.Drifts (outline acts) t := by
  induction h with
  | nil s => exact ⟨List.forall_mem_nil _, rfl, rfl, rfl⟩
  | @cons s t a acts ha _ ih =>
    rw [List.forall_mem_cons] at htacit
    obtain ⟨hledger, hending⟩ := htacit.1.kept cfg ha
    obtain ⟨hscript, hledger', hending', hinstances⟩ := ih htacit.2
    rw [Act.instances_run ha] at hinstances
    cases hstride : a.isStride with
    | true =>
      rw [outline_cons hstride]
      exact ⟨List.forall_mem_cons.2 ⟨htacit.1, hscript⟩, hledger'.trans hledger,
        hending'.trans hending, hinstances⟩
    | false =>
      have hsame : s.instances.map a.onInstance = s.instances :=
        (List.map_congr_left fun i _ => htacit.1.onInstance_eq hstride i).trans (List.map_id _)
      rw [hsame] at hinstances
      have houtline : outline (a :: acts) = outline acts :=
        List.filter_cons_of_neg (by rw [hstride]; exact Bool.false_ne_true)
      rw [houtline]
      exact ⟨hscript, hledger'.trans hledger, hending'.trans hending, hinstances⟩

theorem log_grows (h : Course cfg reported s acts t) : s.log.entries <+: t.log.entries := by
  refine h.keeps (I := fun u => s.log.entries <+: u.log.entries) (fun a u hu ha => ?_)
    List.prefix_rfl
  rcases a.run_history cfg ha with ⟨hsame, _⟩ | ⟨p, _, _, hrun⟩
  · rwa [hsame]
  · rw [hrun]
    exact hu.trans (List.prefix_append _ _)

/-- What is done while no entry is left open stands in the entries that are added to the log. -/
theorem told (h : Course cfg reported s acts t) (hidle : s.pending = none)
    (hclosed : t.pending = none) : ∃ told, t.log.entries = s.log.entries ++ told ∧
      told.flatMap (·.transitions) = acts.flatMap (·.changes) ∧
      told.flatMap (·.outcomes) = acts.flatMap (·.notes) := by
  obtain ⟨told, htold⟩ := h.log_grows
  have hnoted := h.noted_eq
  have hchanges := h.changes_eq
  unfold Session.noted EventLog.noted at hnoted
  unfold Session.changes EventLog.changes at hchanges
  rw [hidle, hclosed, ← htold] at hnoted hchanges
  exact ⟨told, htold.symm, by simpa using hchanges, by simpa using hnoted⟩

/-- If no entry is added to the log, none tells of any act. -/
theorem tacit_of_unlogged (h : Course cfg reported s acts t) (hidle : s.pending = none)
    (hclosed : t.pending = none) (hlog : t.log.entries.length = s.log.entries.length) :
    ∀ a ∈ acts, a.IsTacit := by
  obtain ⟨told, htold, htransitions, houtcomes⟩ := h.told hidle hclosed
  have hnone : told = [] := by
    rw [htold, List.length_append] at hlog
    exact List.eq_nil_of_length_eq_zero (by omega)
  rw [hnone, List.flatMap_nil, eq_comm, List.flatMap_eq_nil_iff] at htransitions houtcomes
  exact fun a ha => ⟨houtcomes a ha, htransitions a ha⟩

end Course

section Scripts

variable {graphs : List Graph} {g : Graph} {script : List Act}

theorem Cause.eq_nil_of_tacit {c : Cause} {outcomes : List Outcome}
    (h : ∀ a ∈ c.script outcomes, a.IsTacit) : outcomes = [] := by
  cases outcomes with
  | nil => rfl
  | cons o rest => cases (h _ List.mem_cons_self).1

theorem Graph.Begins.not_tacit {ending : Option (String × Bool)} (h : g.Begins ending script) :
    ¬ ∀ a ∈ script, a.IsTacit := by
  obtain ⟨_, _⟩ := h
  exact fun htacit => by cases (htacit _ List.mem_cons_self).2

theorem Graph.failing_not_tacit (g : Graph) : ¬ ∀ a ∈ g.failing, a.IsTacit :=
  fun htacit => by cases (htacit _ List.mem_cons_self).2

/-- No entry tells of a choice just where neither it nor the node to which it leads has outcomes. -/
theorem Choice.Follows.of_tacit {c : Choice} (h : c.Follows graphs g script)
    (htacit : ∀ a ∈ script, a.IsTacit) : c.outcomes = [] ∧ ∃ n ∈ g.nodes, c.next = .node n.id ∧
      n.entryOutcomes = [] ∧ script = [.enters g.id n.id] := by
  have hcompleting : ¬ ∀ a ∈ g.completing, a.IsTacit := fun htacit => by
    cases (htacit _ List.mem_cons_self).2
  cases h with
  | ended hended =>
    rw [Graph.closed, List.forall_mem_append] at htacit
    have hnone := Cause.eq_nil_of_tacit htacit.1
    -- only an outcome of the choice can have ended the story
    rw [Graph.taking, hnone] at hended
    cases hended
  | @entered n hgoing hnext hn =>
    rw [Graph.closed, List.forall_mem_append, List.forall_mem_append, Graph.entering,
      List.forall_mem_cons] at htacit
    have hnone := Cause.eq_nil_of_tacit htacit.1.1
    have hquiet := Cause.eq_nil_of_tacit htacit.1.2.2
    refine ⟨hnone, n, hn, hnext, hquiet, ?_⟩
    rw [Graph.closed, Graph.taking, Graph.entering, hnone, hquiet]
    rfl
  | completed =>
    exact absurd (List.forall_mem_append.1 htacit).2 hcompleting
  | chained =>
    exact absurd (List.forall_mem_append.1 (List.forall_mem_append.1 htacit).1).2 hcompleting

end Scripts

/-- A request that is declined without an entry has at most asked the host, or drifts along its
script. -/
theorem Handles.declined {e : Engine} {x : Step Resolution} {entry : EntryKind × Option String}
    {script : List Act → Prop} {refuses : IllegalChoice → Prop} {g : String}
    {choice : Option String} (hx : Handles cfg reported x e.session entry script refuses)
    (hrejected : (Engine.request g choice x e).1.accepted = false)
    (hlog : (Questline.after x e.session).log.entries.length = e.session.log.entries.length) :
    Asked e.session (Questline.after x e.session) ∨
      ∃ l, script l ∧ e.session.Drifts l (Questline.after x e.session) := by
  unfold Handles Ends at hx
  unfold Engine.request at hrejected
  unfold Questline.after at hlog ⊢
  cases hrun : x e.session with
  | ok r t =>
    rw [hrun] at hx hrejected
    obtain ⟨_, _, _, _, _, _, hgrants⟩ := hx
    cases hrejected.symm.trans hgrants.accepted
  | error why t =>
    rw [hrun] at hx hlog
    obtain ⟨acts, hc, hrequest, ⟨hasked, _⟩ | ⟨hidle, hl, _⟩⟩ := hx
    · exact .inl hasked
    · have htacit := hc.tacit_of_unlogged hidle (hrequest.closed hidle) hlog
      exact .inr ⟨_, hl, hc.drifts htacit⟩

/-- A request that is declined without an entry changes nothing, whatever services fail in the
middle, except that a choice without outcomes may have led to a node without outcomes. -/
theorem declined_without_entry (cfg : Settings) {graphs : List Graph} {host : Host} {clock : Clock}
    {built : Engine} (hbuilt : Engine.ofGraphs graphs host clock = .ok built) (calls : List Call)
    {c : Call} {r : Resolution} (hr : (c.ask cfg (built.afterAll cfg calls)).1 = .resolved r)
    (hrejected : r.accepted = false)
    (hlog : (c.after cfg (built.afterAll cfg calls)).session.log.entries.length =
      (built.afterAll cfg calls).session.log.entries.length) :
    let s := (built.afterAll cfg calls).session
    let t := (c.after cfg (built.afterAll cfg calls)).session
    t.ledger = s.ledger ∧ t.ending = s.ending ∧ (t.instances = s.instances ∨ c.Strays s t) := by
  have h := (Engine.Consistent.ofGraphs hbuilt).afterAll cfg calls
  generalize built.afterAll cfg calls = e at *
  have hasked {t : Session} (ht : Asked e.session t) :
      t.ledger = e.session.ledger ∧ t.ending = e.session.ending ∧
        (t.instances = e.session.instances ∨ c.Strays e.session t) := by
    obtain ⟨_, rfl⟩ := ht
    exact ⟨rfl, rfl, .inl rfl⟩
  unfold Call.after at *
  rcases Call.of_resolved hr with ⟨g, rfl⟩ | ⟨g, choice, rfl⟩ | ⟨g, rfl⟩
  case inl =>
    cases hr
    rw [Call.ask, Prod.map_snd, id, Engine.start, Engine.session_request] at hlog ⊢
    have hstart : Handles cfg (fun _ => True) (Step.start cfg g) e.session _ _ _ :=
      Step.handles_start h.agrees h.sound g
    obtain hnone | ⟨l, ⟨_, _, hl⟩, hdrifts⟩ := hstart.declined hrejected hlog
    · exact hasked hnone
    · exact absurd hdrifts.tacit hl.not_tacit
  case inr.inl =>
    cases hr
    rw [Call.ask, Prod.map_snd, id, Engine.choose, Engine.session_request] at hlog ⊢
    have hchoose : Handles cfg (fun _ => True) (Step.choose cfg g choice) e.session _ _ _ :=
      Step.handles_choose h.agrees h.sound g choice
    obtain hnone | ⟨l, ⟨i, n, d, hfaces, _, hl⟩, hdrifts⟩ := hchoose.declined hrejected hlog
    · exact hasked hnone
    · obtain ⟨houtcomes, m, hm, hnext, hquiet, rfl⟩ := hl.of_tacit hdrifts.tacit
      have hid := Session.id_of_instance? hfaces.found
      subst hid
      exact ⟨hdrifts.ledger, hdrifts.ending, .inr ⟨i, n, d, m, hfaces, houtcomes, hnext, hm, hquiet,
        hdrifts.instances⟩⟩
  case inr.inr =>
    cases hr
    rw [Call.ask, Prod.map_snd, id, Engine.abandon, Engine.session_request] at hlog ⊢
    have habandon : Handles cfg (fun _ => True) (Step.abandon cfg g) e.session _ _ _ :=
      Step.handles_abandon h.agrees h.sound g
    obtain hnone | ⟨l, ⟨i, _, rfl⟩, hdrifts⟩ := habandon.declined hrejected hlog
    · exact hasked hnone
    · exact absurd hdrifts.tacit i.graph.failing_not_tacit

/-- The errand is gone on with while nobody can tell whether the player has a badge. -/
def Engine.onErrand : Engine :=
  (fresh .errand {}).afterAll .builtIn
    [.newGame false, .start "errand", .turn (({} : Host).breakService .hasItem none)]

theorem declined_without_entry_errand :
    let s := Engine.onErrand.session
    let t := ((Call.choose "errand" "go").after .builtIn .onErrand).session
    t.ledger = s.ledger ∧ t.ending = s.ending ∧
      (t.instances = s.instances ∨ (Call.choose "errand" "go").Strays s t) := by
  obtain ⟨graphs, _, hbuilt⟩ := Engine.ofGraphs_fresh {}
    (show (Content.load .builtIn .errand []).toOption.isSome = true by decide +kernel)
  have hrejected : (Engine.choose .builtIn "errand" "go" .onErrand).1.accepted = false := by
    decide +kernel
  have hlog : ((Call.choose "errand" "go").after .builtIn .onErrand).session.log.entries.length =
      Engine.onErrand.session.log.entries.length := by decide +kernel
  exact declined_without_entry .builtIn hbuilt _ rfl hrejected hlog

/-- The errand has gone on from the camp to the hut, although the choice has been declined and no
entry tells of it. -/
theorem errand_strays :
    let e := Engine.onErrand
    let e' := (Call.choose "errand" "go").after .builtIn e
    Visited .builtIn e ∧ (Engine.choose .builtIn "errand" "go" e).1.accepted = false ∧
      e'.session.log.entries.length = e.session.log.entries.length ∧
      e.session.activeNodes = [("errand", "camp")] ∧
      e'.session.activeNodes = [("errand", "hut")] :=
  ⟨(Visited.fresh {} (by decide +kernel)).afterAll (by simp), by decide +kernel, by decide +kernel,
    by decide +kernel, by decide +kernel⟩

end Questline
