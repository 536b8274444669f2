import Questline.Proofs.Faltering

/-! What starting a graph leaves waiting though it is due.  No pass over the availability of graphs
comes at the end of it, so a graph is left behind by a move that no outcome follows. -/

namespace Questline

/-- A requirement that can tell a completed graph from one that is not asks for what is so. -/
theorem Requirement.comparator_of_holds {r : Requirement} {l : Ledger} {h : Host} (hr : r.Formed)
    (hkind : r.kind = .questCompleted) (hholds : r.holds l h = true) :
    r.comparator = if l.stateOf r.subject = .completed then .holds else .fails := by
  have hnumeric := hr.comparator
  rw [hkind] at hnumeric
  unfold holds compare fact at hholds
  rw [hkind] at hholds
  cases hcomparator : r.comparator <;> rw [hcomparator] at hnumeric hholds
  · cases hnumeric
  · cases hnumeric
  all_goals simp_all [Fact.isTrue]

/-- An entry is open in which everything that is played goes well. -/
structure Session.Healthy (s : Session) : Prop where
  working : s.Working
  sure : s.Sure
  up : s.host.Up
  regular : ∀ g ∈ s.graphs, g.Regular

/-- One graph has gone on, and waits for nothing.  Nothing else has changed on which a requirement
bears. -/
structure Session.Advances (s : Session) (g : String) (state : Lifecycle) (t : Session) : Prop where
  others : ∀ i ∈ t.instances, Step.isWaiting i = true → i ∈ s.instances
  ledger : t.ledger = s.ledger.setState g state
  host : t.host = s.host
  ending : t.ending = s.ending

namespace Graph.Regular

variable {g : Graph} (h : g.Regular)
include h

theorem completion : ∀ o ∈ g.completion, o.Regular :=
  fun o ho => h.outcome o (by simp [allOutcomes, ho])

theorem failure : ∀ o ∈ g.failure, o.Regular :=
  fun o ho => h.outcome o (by simp [allOutcomes, ho])

theorem entry {id : String} {nd : Node} (hnd : g.node? id = some nd) :
    ∀ o ∈ nd.entryOutcomes, o.Regular := by
  intro o ho
  refine h.outcome o (List.mem_append_right _ (List.mem_flatMap.2 ⟨nd, (mem_of_node? hnd).1, ?_⟩))
  exact List.mem_append_left _ ho

end Graph.Regular

namespace Session

variable {cfg : Settings} {reported : Outcome → Prop} {s t : Session} {acts : List Act}
variable {g : String} {state : Lifecycle}

theorem Healthy.course (h : s.Healthy) (hc : Course cfg reported s acts t)
    (hinner : ∀ a ∈ acts, a.isInner = true) : t.Healthy := by
  have hleads := hc.leads hinner h.working
  exact ⟨hleads.working, hleads.sure h.sure, hleads.host.up h.up, hleads.graphs ▸ h.regular⟩

theorem Healthy.leads (h : s.Healthy) (hleads : s.Leads acts t) : t.Healthy :=
  ⟨hleads.working, hleads.sure h.sure, hleads.host.up h.up, hleads.graphs ▸ h.regular⟩

theorem advances_moved (s : Session) (g : String) (hstate : state ≠ .unavailable) :
    s.Advances g state (s.moved g state) := by
  refine ⟨fun j hj hwaiting => ?_, rfl, rfl, rfl⟩
  obtain ⟨i, hi, rfl⟩ := List.mem_map.1 hj
  split at hwaiting
  next => simp [Step.isWaiting, hstate] at hwaiting
  next hother => rwa [if_neg hother]

/-- What is due once a graph has gone on, and was not before, waits for the graph to be completed,
or not to be, and that has just come about. -/
theorem Advances.due (h : s.Advances g state t) (hnone : s.due = []) {i : Instance}
    (hi : i ∈ t.instances) (hdue : i.isDue t.ledger t.host = true) :
    ¬ (state = .completed ↔ s.ledger.stateOf g = .completed) ∧ ∃ r ∈ i.graph.requirements,
      r.kind = .questCompleted ∧ r.subject = g ∧ r.holds t.ledger t.host = true := by
  have hwaiting := hdue
  rw [Instance.isDue, Bool.and_eq_true] at hwaiting
  have hbefore : ¬ i.isDue s.ledger s.host = true :=
    due_eq_nil.1 hnone i (h.others i hi hwaiting.1)
  have halikeBut : t.ledger.AlikeBut (fun r => r.kind = .questCompleted ∧ r.subject = g)
      s.ledger := by
    rw [h.ledger]
    exact s.ledger.alikeBut_setState g state
  constructor
  · intro hsame
    have halike : t.ledger.Alike s.ledger := by
      intro r host
      by_cases hr : r.kind = .questCompleted ∧ r.subject = g
      · unfold Requirement.fact
        rw [hr.1, h.ledger]
        dsimp only
        rw [Ledger.stateOf_setState, if_pos hr.2, hr.2]
        simp [hsame]
      · exact halikeBut r hr host
    refine hbefore ?_
    rw [← Instance.isDue_congr halike s.host.outages, ← hdue, h.host]
  · rw [h.host] at hdue
    obtain hdue | ⟨r, hr, hkind, hsubject⟩ := Instance.isDue_of_alikeBut halikeBut hdue
    · exact absurd hdue hbefore
    · exact ⟨r, hr, hkind, hsubject, h.host ▸ (Instance.isDue_eq_true.1 hdue).2.2 r hr⟩

theorem Advances.due_eq_nil (h : s.Advances g state t) (hnone : s.due = [])
    (hsame : state = .completed ↔ s.ledger.stateOf g = .completed) : t.due = [] :=
  Session.due_eq_nil.2 fun _ hi hdue => (h.due hnone hi hdue).1 hsame

end Session

/-- What has come about for a graph that has been started, with no outcome to follow: it is not
completed any more, or the story's end has completed it. -/
inductive Instance.Turns (j : Instance) (t : Session) : Comparator → Prop
  | restarted {nd : Node} : j.lifecycle = .completed → j.graph.node? j.graph.start = some nd →
      nd.entryOutcomes = [] → t.ending = none → Turns j t .fails
  | completed : t.ending.isSome = true → t.ledger.stateOf j.graph.id = .completed →
      j.graph.completion = [] → Turns j t .holds

/-- A graph waits for just that. -/
def Instance.Awaits (i j : Instance) (t : Session) : Prop :=
  ∃ r ∈ i.graph.requirements, r.kind = .questCompleted ∧ r.subject = j.graph.id ∧
    j.Turns t r.comparator

theorem Instance.Awaits.congr {i j : Instance} {t u : Session} (h : i.Awaits j t)
    (hledger : u.ledger = t.ledger) (hending : u.ending = t.ending) : i.Awaits j u := by
  obtain ⟨r, hr, hkind, hsubject, hturns⟩ := h
  refine ⟨r, hr, hkind, hsubject, ?_⟩
  generalize r.comparator = c at *
  cases hturns with
  | restarted hlife hnd hnil hgoing => exact .restarted hlife hnd hnil (hending.trans hgoing)
  | completed hended hstate hnil =>
    exact .completed (hending ▸ hended) (hledger ▸ hstate) hnil

namespace Step

variable {cfg : Settings} {s t : Session} {outcomes : List Outcome} {i : Instance}

/-- Outcomes that follow something are followed by a pass, if there are any. -/
theorem ends_thenApply {x : Step Unit} (hx : x s = .ok () t) (ht : t.Healthy)
    (ho : ∀ o ∈ outcomes, o.Regular) :
    Ends (x >>= fun _ => applyOutcomes cfg {} outcomes) s
      (fun _ u => outcomes = [] ∧ u = t ∨ u.Quiet) fun _ _ => False := by
  rw [ends_bind]
  unfold Ends
  rw [hx]
  exact (ends_applyOutcomes ht.working ht.sure ho).mono (fun _ _ h => h.quiet ht.up)
    fun _ _ h => h

/-- A graph that is started leaves nothing behind that is due, if outcomes follow. -/
theorem ends_startGraph (hs : s.Healthy) (hi : s.instance? i.graph.id = some i)
    (hchange : Change s i .inProgress) :
    Ends (startGraph cfg i) s
      (fun _ t => (∃ nd, i.graph.node? i.graph.start = some nd ∧ nd.entryOutcomes = [] ∧
        s.Advances i.graph.id .inProgress t) ∨ t.Quiet) fun _ _ => False := by
  have hmem := Session.mem_of_instance? hi
  obtain ⟨nd, hnd⟩ := Option.isSome_iff_exists.1
    ((Graph.node?_isSome).trans (hs.working.sound.graphs i hmem).start)
  have hmoves : (Act.moves i.graph.id .inProgress).Lawful (fun _ => True) s :=
    ⟨hs.working.entry, i, hi, hchange⟩
  have hrun : (Act.moves i.graph.id .inProgress).run cfg s = s.moved i.graph.id .inProgress :=
    Act.run_moves i.graph.id .inProgress
  have hthere := Act.instance?_run cfg hmoves i.graph.id
  have hmoved := hs.course (.single cfg hmoves) (by simp [Act.isInner])
  rw [hi, Option.map_some, Act.onInstance, if_pos rfl, if_pos rfl, hrun] at hthere
  rw [hrun] at hmoved
  have henters : (Act.enters i.graph.id i.graph.start).Lawful (fun _ => True)
      (s.moved i.graph.id .inProgress) :=
    ⟨hmoved.working.entry, _, hthere, rfl, (hs.working.sound.graphs i hmem).start⟩
  have hbegun : startGraph cfg i s =
      enterNode cfg i.graph.id i.graph.start (s.moved i.graph.id .inProgress) := by
    rw [← hrun]
    exact (enterNode_again i.graph.id i.graph.start).symm
  have hentered : ((s.moved i.graph.id .inProgress).updateInstance i.graph.id fun k =>
      { k with activeNode := some i.graph.start }).Healthy :=
    hmoved.course (.single cfg henters) (by simp [Act.isInner])
  have hregular := (hs.regular i.graph (List.mem_map_of_mem hmem)).entry hnd
  rw [ends_congr (hbegun.trans (enterNode_eq hthere hnd))]
  refine (ends_thenApply rfl hentered hregular).mono (fun _ t ht => ht.imp_left ?_) fun _ _ h => h
  rintro ⟨hnil, ht⟩
  subst ht
  refine ⟨nd, hnd, hnil, fun j hj hwaiting => ?_, rfl, rfl, rfl⟩
  simp only [Session.updateInstance, Session.moved, Session.recorded, List.map_map] at hj
  obtain ⟨k, hk, rfl⟩ := List.mem_map.1 hj
  by_cases hid : k.graph.id = i.graph.id
  · simp [hid, isWaiting] at hwaiting
  · simpa [hid] using hk

/-- Where the story has ended, the graph that is played comes to its end.  That leaves something
behind that is due only where no outcome follows its being completed. -/
theorem ends_finishIfEnded (hs : s.Healthy) (hi : s.IsPlaying i.graph)
    (hquiet : s.ending.isSome = true → s.Quiet) :
    Ends (finishIfEnded cfg i) s
      (fun _ t => t = s ∧ s.ending = none ∨ t.due = [] ∨
        s.ending.isSome = true ∧ i.graph.completion = [] ∧ s.Advances i.graph.id .completed t)
      fun _ _ => False := by
  obtain ⟨j, hj, hgraph, hlife⟩ := hi
  have hregular : i.graph.Regular :=
    hgraph ▸ hs.regular j.graph (List.mem_map_of_mem (Session.mem_of_instance? hj))
  have hplaying : s.ledger.stateOf i.graph.id = .inProgress := by
    rw [← hlife, hs.working.agrees.isRecorded j (Session.mem_of_instance? hj), hgraph]
  -- the graph comes to its end, and its last outcomes follow
  have ends {state : Lifecycle} {last : List Outcome} (hchange : Change s j state)
      (hstate : state ≠ .inProgress) (hlast : ∀ o ∈ last, o.Regular) :
      Ends (transition i.graph.id state >>= fun _ => applyOutcomes cfg {} last) s
        (fun _ t => last = [] ∧ s.Advances i.graph.id state t ∨ t.Quiet) fun _ _ => False := by
    have hlawful : (Act.moves i.graph.id state).Lawful (fun _ => True) s :=
      ⟨hs.working.entry, j, hj, hchange⟩
    have hmoved := hs.course (.single cfg hlawful) (by simp [Act.isInner])
    rw [Act.run_moves] at hmoved
    have hbut : state ≠ .unavailable := by
      rintro rfl
      cases hchange
    refine (ends_thenApply (transition_eq hstate i.graph.id s) hmoved hlast).mono
      (fun _ t ht => ht.imp_left ?_) fun _ _ h => h
    rintro ⟨hnil, rfl⟩
    exact ⟨hnil, s.advances_moved _ hbut⟩
  unfold finishIfEnded
  rw [ends_bind, ends_get]
  cases hending : s.ending with
  | none => exact .inl ⟨rfl, rfl⟩
  | some ended =>
    obtain ⟨ending, failed⟩ := ended
    have hnone := (hquiet (by rw [hending]; rfl)).none_due
    dsimp only
    rw [ends_stateNow_bind hj, if_pos hlife]
    cases failed with
    | true =>
      rw [if_pos rfl, failGraph, ends_bind]
      refine (ends (.failed hlife) (by decide) hregular.failure).mono (fun _ t ht => .inr (.inl ?_))
        fun _ _ h => h
      obtain ⟨-, hadvances⟩ | hquiet := ht
      · exact hadvances.due_eq_nil hnone (by simp [hplaying])
      · exact hquiet.none_due
    | false =>
      rw [if_neg Bool.false_ne_true, completeGraph, ends_bind]
      refine (ends (.completed hlife) (by decide) hregular.completion).mono (fun _ t ht => .inr ?_)
        fun _ _ h => h
      obtain hadvances | hquiet := ht
      · exact .inr ⟨rfl, hadvances⟩
      · exact .inl hquiet.none_due

/-- What is due once a graph has been started, and was not before, waits for what has come about
for it with no outcome to follow. -/
theorem ends_begin (hs : s.Healthy) (hgoing : s.ending = none) (hnone : s.due = [])
    (hi : s.instance? i.graph.id = some i) (hchange : Change s i .inProgress) :
    Ends (do
        startGraph cfg i
        let _ ← finishIfEnded cfg i) s
      (fun _ t => (∀ k ∈ t.instances, k.isDue t.ledger t.host = true → k.Awaits i t) ∧
        t.inEntry = true) fun _ _ => False := by
  have hrecorded := hs.working.agrees.isRecorded i (Session.mem_of_instance? hi)
  have hwalks : Walks cfg (fun _ => True) (startGraph cfg i) s _ _ :=
    walks_startGraph hs.working (Session.Has.of_instance? hi).lists fun j hj =>
      Option.some.inj (hi.symm.trans hj) ▸ hchange
  rw [ends_bind]
  refine (Ends.and hwalks (ends_startGraph hs hi hchange)).mono ?_ fun _ _ h => h.2.elim
  rintro _ t ⟨⟨acts, hc, hinner, _, hplaying⟩, hstarted⟩
  have ht := hs.course hc hinner
  have hquiet (hended : t.ending.isSome = true) : t.Quiet := by
    obtain ⟨_, _, _, hadvances⟩ | hquiet := hstarted
    · simp [hadvances.ending, hgoing] at hended
    · exact hquiet
  have hfinishes : Walks cfg (fun _ => True) (finishIfEnded cfg i) t _ _ :=
    walks_finishIfEnded ht.working hplaying
  rw [ends_bind]
  refine (Ends.and hfinishes (ends_finishIfEnded ht hplaying hquiet)).mono ?_ fun _ _ h => h.2
  rintro _ u ⟨⟨acts', hc', hinner', _⟩, hu⟩
  have hhealthy := ht.course hc' hinner'
  refine ⟨fun k hk hdue => ?_, hhealthy.working.entry⟩
  have formed {r : Requirement} (hr : r ∈ k.graph.requirements) : r.Formed :=
    (hhealthy.regular k.graph (List.mem_map_of_mem hk)).requirement r (List.mem_append_left _ hr)
  obtain ⟨rfl, hgoing'⟩ | hnil | ⟨hended, hnil, hadvances⟩ := hu
  · obtain ⟨nd, hnd, hnil, hadvances⟩ | hquiet := hstarted
    · obtain ⟨hturned, r, hr, hkind, hsubject, hholds⟩ := hadvances.due hnone hk hdue
      refine ⟨r, hr, hkind, hsubject, ?_⟩
      rw [Requirement.comparator_of_holds (formed hr) hkind hholds, hsubject, hadvances.ledger,
        Ledger.stateOf_setState, if_pos rfl, if_neg (by decide)]
      exact .restarted (by simpa [hrecorded] using hturned) hnd hnil hgoing'
    · exact absurd hdue (Session.due_eq_nil.1 hquiet.none_due k hk)
  · exact absurd hdue (Session.due_eq_nil.1 hnil k hk)
  · obtain ⟨-, r, hr, hkind, hsubject, hholds⟩ := hadvances.due (hquiet hended).none_due hk hdue
    have hcompleted : u.ledger.stateOf i.graph.id = .completed := by
      rw [hadvances.ledger, Ledger.stateOf_setState, if_pos rfl]
    refine ⟨r, hr, hkind, hsubject, ?_⟩
    rw [Requirement.comparator_of_holds (formed hr) hkind hholds, hsubject, if_pos hcompleted]
    exact .completed (hadvances.ending ▸ hended) hcompleted hnil

theorem start_awaits (hs : s.Agrees) (hsound : s.Sound) (hsure : s.Sure) (hup : s.host.Up)
    (hregular : ∀ g ∈ s.graphs, g.Regular) (hnone : s.due = []) (g : String) :
    Ends (start cfg g) s
      (fun _ t => (∀ k ∈ t.instances, k.isDue t.ledger t.host = true →
        ∃ i, s.instance? g = some i ∧ k.Awaits i t) ∧ t.pending = none) fun _ _ => True := by
  rw [start_eq, ends_bind]
  refine Ends.mono (looks_startable g) ?_ fun _ _ _ => trivial
  rintro i t ⟨rfl, hi, hcan⟩
  have hid := Session.id_of_instance? hi
  subst hid
  have hgoing : t.ending = none := by
    rw [Session.canStart, hi, Bool.and_eq_true, Option.isNone_iff_eq_none] at hcan
    exact hcan.1
  have hhealthy (p : Pending) : Session.Healthy { t with pending := some p } :=
    ⟨working_opened hs hsound p, hsure.of_alike rfl (.of_outages rfl), hup, hregular⟩
  have hchange (p : Pending) : Change { t with pending := some p } i .inProgress :=
    change_of_canStart (s := { t with pending := some p }) hcan i hi
  refine ends_writing (Q := fun u => ∀ k ∈ u.instances, k.isDue u.ledger u.host = true →
    ∃ j, t.instance? i.graph.id = some j ∧ k.Awaits j u) (fun u p hu k hk hdue => ?_) ?_
  · obtain ⟨j, hj, hawaits⟩ := hu k hk hdue
    exact ⟨j, hj, hawaits.congr rfl rfl⟩
  · refine (ends_begin (hhealthy _) hgoing hnone hi (hchange _)).mono ?_ fun _ _ h => h.elim
    exact fun _ u h => ⟨fun k hk hdue => ⟨i, hi, h.1 k hk hdue⟩, h.2⟩

end Step

/-- Whatever has been asked before, when a graph is started while no graph is due and no service is
down, no graph is due afterwards but for what has come about with no outcome to follow: a graph that
was completed is in progress again and its first node has no outcomes, or the story has ended with
it and it has no outcomes for its completion.  The next pass opens just what is due. -/
theorem due_only_by_turn_of_started {cfg : Settings} {e : Engine} (hvisited : Visited cfg e)
    (hup : e.session.host.Up) (hnone : e.session.due = []) {g : String} {entry : Entry}
    (haccepted : ((Call.start g).ask cfg e).1.Accepts entry) :
    let e' := (Call.start g).after cfg e
    (∀ k ∈ e'.session.instances, k.isDue e'.session.ledger e'.session.host = true →
      ∃ i, e.session.instance? g = some i ∧ k.Awaits i e'.session) ∧
    ∃ t, Engine.refresh e' = .ok e'.session.due { e' with session := t } ∧
      Asked e'.session.refreshed t := by
  intro e'
  have h := hvisited.sturdy
  have h' : e'.Sturdy := h.after nofun
  obtain ⟨hawaits, hidle⟩ := Engine.session_of_granted haccepted.1
    (Step.start_awaits h.consistent.agrees h.consistent.sound (h.sure hup.answering)
      hup h.regular hnone g)
  obtain ⟨acts, hruns⟩ := h.consistent.runs cfg (c := .start g) rfl nofun
  have hsure := h'.sure (hruns.answering nofun hup.answering)
  refine ⟨hawaits, Engine.refresh_ok hidle h'.consistent.sound.distinct (fun i hi _ => ?_)
    hsure.answering⟩
  exact Requirement.verdict_of_judgeable
    (hsure.judgeable i.graph (List.mem_map_of_mem hi)) _ _

/-- A watch that can be kept again and again, a rest between two of them once the bell has rung, a
voyage that ends with its beginning, and songs about it. -/
def Content.watch : Content :=
  let one (id : String) : Value := .list [.record [("id", .text id), ("text", "There."),
    ("choices", .list [.record [("id", "leave"), ("text", "Leave.")]])]]
  [("watch", .record [("title", "Watch"), ("start", "deck"), ("repeatable", .bool true),
    ("nodes", one "deck")]),
   ("rest", .record [("title", "Rest"), ("start", "bunk"), ("nodes", one "bunk"),
    ("requirements", .list [
      .record [("kind", "quest_completed"), ("quest", "watch"), ("comparator", "not_in")],
      .record [("kind", "flag"), ("flag", "bell")]])]),
   ("voyage", .record [("title", "Voyage"), ("start", "sea"), ("nodes", .list [
      .record [("id", "sea"), ("text", "At sea."),
        ("entry_outcomes", .list [.record [("kind", "trigger_ending"), ("ending", "away")]]),
        ("choices", .list [.record [("id", "leave"), ("text", "Leave.")]])]])]),
   ("songs", .record [("title", "Songs"), ("start", "tavern"), ("nodes", one "tavern"),
    ("requirements", .list [.record [("kind", "quest_completed"), ("quest", "voyage")]])])]

/-- The watch has been kept once, and the bell has rung. -/
def Engine.offWatch : Engine :=
  (fresh .watch {}).afterAll .builtIn [.newGame false, .start "watch", .choose "watch" "leave",
    .external [.data (.record [("kind", "set_flag"), ("flag", "bell")])] "ship"]

theorem Engine.up_offWatch : offWatch.session.host.Up :=
  .of_mended (List.isEmpty_iff.1 (by decide +kernel))

/-- A second watch leaves the rest behind. -/
theorem due_only_by_turn_of_started_watch :
    let e := Engine.offWatch
    let e' := (Call.start "watch").after .builtIn e
    e.session.host.Up ∧ e.session.due = [] ∧
      (∃ entry, ((Call.start "watch").ask .builtIn e).1.Accepts entry) ∧
      (∃ k ∈ e'.session.instances, ∃ i, e.session.instance? "watch" = some i ∧
        k.Awaits i e'.session) ∧
      ∃ t, Engine.refresh e' = .ok ["rest"] { e' with session := t } := by
  intro e e'
  have hnone : e.session.due = [] := by decide +kernel
  have hdue : e'.session.due = ["rest"] := by decide +kernel
  obtain ⟨entry, haccepts⟩ := Answer.exists_accepts
    (show ((Call.start "watch").ask .builtIn e).1.written?.isSome = true by decide +kernel)
  obtain ⟨hawaits, t, hrefresh, _⟩ := due_only_by_turn_of_started
    ((Visited.fresh {} (by decide +kernel)).afterAll (by simp)) Engine.up_offWatch hnone haccepts
  obtain ⟨k, hk, -⟩ := List.mem_map.1 (hdue ▸ List.mem_cons_self : "rest" ∈ e'.session.due)
  obtain ⟨hk, hkdue⟩ := List.mem_filter.1 hk
  exact ⟨Engine.up_offWatch, hnone, ⟨entry, haccepts⟩, ⟨k, hk, hawaits k hk hkdue⟩, t,
    hdue ▸ hrefresh⟩

/-- Neither the rest nor the songs become available. -/
theorem started_graphs_leave_others_waiting :
    let e := Engine.offWatch
    let watched := (Call.start "watch").after .builtIn e
    let sailed := (Call.start "voyage").after .builtIn e
    (∃ graphs, Engine.ofGraphs graphs {} (.ticking 0 1) = .ok (.fresh .watch {})) ∧
      e.session.host.Up ∧ e.session.due = [] ∧
      (∃ entry, ((Call.start "watch").ask .builtIn e).1.Accepts entry) ∧
      watched.session.graphsIn .unavailable = ["rest", "songs"] ∧
      watched.session.due = ["rest"] ∧
      (∃ entry, ((Call.start "voyage").ask .builtIn e).1.Accepts entry) ∧
      sailed.session.graphsIn .unavailable = ["rest", "songs"] ∧
      sailed.session.due = ["songs"] := by
  intro e watched sailed
  obtain ⟨graphs, _, hbuilt⟩ := Engine.ofGraphs_fresh {}
    (show (Content.load .builtIn .watch []).toOption.isSome = true by decide +kernel)
  exact ⟨⟨graphs, hbuilt⟩, Engine.up_offWatch, by decide +kernel,
    Answer.exists_accepts (by decide +kernel), by decide +kernel, by decide +kernel,
    Answer.exists_accepts (by decide +kernel), by decide +kernel, by decide +kernel⟩

end Questline
