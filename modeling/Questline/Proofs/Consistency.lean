import Questline.Proofs.Calls
import Questline.Proofs.Restoration
import Questline.Settings.BuiltIn

/-! After any calls in any order, whatever services have failed in between and whatever saves have
been restored, the graphs, the ledger and the active nodes agree. -/

namespace Questline

namespace Call

/-- A call that goes on with the game that is being played. -/
def isPlay : Call → Bool
  | .newGame _ | .register _ | .restore _ => false
  | _ => true

def entries (cfg : Settings) : Call → List (EntryKind × Option String)
  | .newGame _ => [(.newGame, none), (.start, some cfg.mainQuest)]
  | .start g => [(.start, some g)]
  | .choose g _ => [(.choice, some g)]
  | .abandon g => [(.abandon, some g)]
  | .external _ _ => [(.external, none)]
  | .refresh => [(.refresh, none)]
  | _ => []

def Reports (c : Call) (o : Outcome) : Prop :=
  ∃ reports source outcomes, c = .external reports source ∧
    Engine.readReports source 0 reports = .ok outcomes ∧ o ∈ outcomes

/-- What a call of a game does to a session. -/
structure Runs (cfg : Settings) (c : Call) (s : Session) (acts : List Act) (t : Session) :
    Prop where
  course : Course cfg c.Reports s acts t
  balanced : Balanced s.graphs acts
  closed : s.pending = none → t.pending = none
  opens : (acts.filterMap Act.opening?).Sublist (c.entries cfg)
  turned : ∀ host, .turns host ∈ acts → c = .turn host

variable {cfg : Settings} {c : Call} {s : Session}

theorem Runs.idle (cfg : Settings) (c : Call) (s : Session) : c.Runs cfg s [] s :=
  ⟨.nil s, .nil, id, List.nil_sublist _, nofun⟩

theorem Runs.answering {acts : List Act} {t : Session} (h : c.Runs cfg s acts t)
    (hturn : ∀ host, c ≠ .turn host) (hanswers : s.host.Answering) : t.host.Answering := by
  refine (h.course.host_alike fun a ha host he => ?_).answering hanswers
  exact hturn host (h.turned host (he ▸ ha))

theorem Runs.of_plays {α : Type} {entry : EntryKind × Option String} {x : Step α}
    {Q : List Act → α → Session → Prop} {E : List Act → Session → Prop}
    (hentry : c.entries cfg = [entry]) (hx : Plays cfg c.Reports x s Q E)
    (hQ : ∀ acts a t, Q acts a t → Request entry s acts t)
    (hE : ∀ acts t, E acts t → Request entry s acts t) :
    ∃ acts, c.Runs cfg s acts (Questline.after x s) := by
  obtain ⟨acts, hc, hrequest⟩ := (hx.mono hQ hE).course
  exact ⟨acts, hc, hrequest.balanced, hrequest.closed, hentry ▸ hrequest.opens,
    fun host hin => absurd rfl (hrequest.unturned _ hin host)⟩

theorem Runs.of_handles {entry : EntryKind × Option String} {x : Step Resolution}
    {script : List Act → Prop} {refuses : IllegalChoice → Prop}
    (hentry : c.entries cfg = [entry]) (hx : Handles cfg c.Reports x s entry script refuses) :
    ∃ acts, c.Runs cfg s acts (Questline.after x s) :=
  Runs.of_plays hentry hx.plays (fun _ _ _ h => h) fun _ _ h => h

end Call

namespace Engine

/-- The graphs of an engine, of which the first ones are known, are sound, and what it knows about
them agrees. -/
structure Consistent (graphs : List Graph) (e : Engine) : Prop where
  sound : e.session.Sound
  agrees : e.session.Agrees
  listed : graphs <+: e.session.graphs

variable {cfg : Settings} {graphs : List Graph} {e e' : Engine} {s : Session}

theorem Consistent.of_course {reported : Outcome → Prop} {acts : List Act}
    (h : e.Consistent graphs) (hc : Course cfg reported e.session acts e'.session) :
    e'.Consistent graphs :=
  ⟨h.sound.course hc, h.agrees.course h.sound hc, hc.graphs ▸ h.listed⟩

theorem graphs_forget (e : Engine) : e.forget.session.graphs = e.session.graphs := by
  change (e.session.instances.map _).map _ = _
  rw [List.map_map]
  rfl

theorem Consistent.forget (h : e.Consistent graphs) : e.forget.Consistent graphs := by
  have hgraphs := graphs_forget e
  refine ⟨h.sound.congr hgraphs, ⟨?_, fun k hk => by cases hk⟩, hgraphs ▸ h.listed⟩
  intro j hj
  obtain ⟨i, _, rfl⟩ := List.mem_map.1 hj
  exact ⟨rfl, by simp, by simp⟩

/-- A new game that begins is a course of acts from a fresh start. -/
theorem Consistent.runs_newGame (h : e.Consistent graphs) {startMain : Bool}
    {r : Option Resolution} (hbegun : Engine.newGame cfg startMain e = .ok r e') :
    ∃ acts, (Call.newGame startMain).Runs cfg e.forget.session acts e'.session := by
  have hforgot := h.forget
  rw [newGame_eq] at hbegun
  cases hb : Step.begin e.forget.session with
  | error why s => simp [hb] at hbegun
  | ok u s =>
    rw [hb] at hbegun
    have hbegin : Plays cfg (Call.newGame startMain).Reports Step.begin e.forget.session _ _ :=
      Step.plays_begin hforgot.agrees hforgot.sound
    unfold Plays Ends at hbegin
    rw [hb] at hbegin
    obtain ⟨acts, hc, hrequest⟩ := hbegin
    have hs := hforgot.agrees.course hforgot.sound hc
    have hsound := hforgot.sound.course hc
    have hunturned := hrequest.unturned
    dsimp only at hbegun
    split at hbegun
    next hmain =>
      cases hbegun
      have hstart : Handles cfg (Call.newGame startMain).Reports (Step.start cfg cfg.mainQuest) s
          _ _ _ := Step.handles_start hs hsound _
      obtain ⟨acts', hc', hrequest'⟩ := hstart.plays.course
      refine ⟨acts ++ acts', ?_⟩
      rw [Engine.start, session_request]
      refine ⟨hc.append hc', hrequest.balanced.append (hc.graphs ▸ hrequest'.balanced),
        hrequest'.closed ∘ hrequest.closed, ?_, fun host hin => ?_⟩
      · rw [List.filterMap_append]
        exact hrequest.opens.append hrequest'.opens
      · exact (List.mem_append.1 hin).elim (fun h => absurd rfl (hunturned _ h host))
          fun h => absurd rfl (hrequest'.unturned _ h host)
    next hmain =>
      cases hbegun
      exact ⟨acts, hc, hrequest.balanced, hrequest.closed,
        hrequest.opens.trans (List.sublist_append_left _ _),
        fun host hin => absurd rfl (hunturned _ hin host)⟩

/-- A new game that is broken off is a course of acts from a fresh start all the same. -/
theorem Consistent.course_newGame (h : e.Consistent graphs) (cfg : Settings) (startMain : Bool) :
    ∃ acts, Course cfg (Call.newGame startMain).Reports e.forget.session acts
      (Questline.after (Engine.newGame cfg startMain) e).session ∧
      ∀ a ∈ acts, ∀ host, a ≠ .turns host := by
  unfold Questline.after
  cases hnew : Engine.newGame cfg startMain e with
  | ok r e' =>
    obtain ⟨acts, hruns⟩ := h.runs_newGame hnew
    refine ⟨acts, hruns.course, ?_⟩
    rintro a ha host rfl
    cases hruns.turned host ha
  | error why e' =>
    have hforgot := h.forget
    have hbegin : Plays cfg (Call.newGame startMain).Reports Step.begin e.forget.session _ _ :=
      Step.plays_begin hforgot.agrees hforgot.sound
    obtain ⟨t, hb, rfl⟩ := newGame_eq_error hnew
    unfold Plays Ends at hbegin
    rw [hb] at hbegin
    exact hbegin

theorem Consistent.newGame (h : e.Consistent graphs) (cfg : Settings) (startMain : Bool) :
    (Questline.after (Engine.newGame cfg startMain) e).Consistent graphs := by
  obtain ⟨acts, hc, _⟩ := h.course_newGame cfg startMain
  exact h.forget.of_course hc

theorem graphs_restore (data : Value) (e : Engine) :
    (Questline.after (Engine.restore data) e).session.graphs = e.session.graphs := by
  unfold Questline.after
  cases haccept : accept data e.session with
  | error why => rw [restore_of_refused haccept]
  | ok saved =>
    rw [restore_of_accept haccept (ordered_of_accept haccept)]
    exact graphs_restoredSession saved e.session

theorem Consistent.restore (h : e.Consistent graphs) (data : Value) :
    (Questline.after (Engine.restore data) e).Consistent graphs := by
  have hgraphs := graphs_restore data e
  refine ⟨h.sound.congr hgraphs, ?_, hgraphs ▸ h.listed⟩
  unfold Questline.after
  cases haccept : accept data e.session with
  | error why =>
    rw [restore_of_refused haccept]
    exact h.agrees
  | ok saved =>
    rw [restore_of_accept haccept (ordered_of_accept haccept)]
    exact agrees_of_accept h.sound haccept

/-- Every call of a game is a course of acts, whether it succeeds or fails. -/
theorem Consistent.runs (cfg : Settings) (h : e.Consistent graphs) {c : Call}
    (hc : c.isPlay = true) (hturn : ∀ host, c = .turn host → e.session.pending = none) :
    ∃ acts, c.Runs cfg e.session acts (c.after cfg e).session := by
  cases c with
  | newGame | register | restore => cases hc
  | start g =>
    rw [Call.session_start]
    exact Call.Runs.of_handles rfl (Step.handles_start h.agrees h.sound g)
  | choose g choice =>
    rw [Call.session_choose]
    exact Call.Runs.of_handles rfl (Step.handles_choose h.agrees h.sound g choice)
  | abandon g =>
    rw [Call.session_abandon]
    exact Call.Runs.of_handles rfl (Step.handles_abandon h.agrees h.sound g)
  | external reports source =>
    rcases Call.session_external cfg e reports source with hsame | ⟨outcomes, hread, happlied⟩
    · exact ⟨[], hsame.symm ▸ .idle ..⟩
    · rw [happlied]
      exact Call.Runs.of_plays rfl (Step.plays_applyAsEntry h.agrees h.sound
        (fun o ho => ⟨reports, source, outcomes, rfl, hread, ho⟩) _) (fun _ _ _ h => h.1)
        fun _ _ h => h.1
  | refresh =>
    rw [Call.session_refresh]
    exact Call.Runs.of_plays rfl (Step.plays_refresh h.agrees h.sound) (fun _ _ _ h => h.1)
      fun _ _ h => h.1
  | turn host =>
    have hidle := hturn host rfl
    exact ⟨[.turns host], .single cfg hidle, .of_none (fun _ => rfl) (by simp [Act.application?]),
      id, List.Sublist.refl _, by simp⟩
  | present g =>
    rcases Call.session_present cfg e g with hsame | ⟨graph, hpresented⟩
    · exact ⟨[], hsame.symm ▸ .idle ..⟩
    · rw [hpresented]
      obtain ⟨acts, hcourse, hcalm, outages, hasked⟩ := ((Step.plays_present h.agrees graph).mono
        (fun _ _ _ h => ⟨h.1, h.2.1⟩) fun _ _ h => h).course
          (P := fun acts t => Calm [] acts ∧ Asked e.session t)
      refine ⟨acts, hcourse, hcalm.balanced (by simp), fun hidle => hasked ▸ hidle, ?_,
        fun host hin => absurd rfl (unturned_of_inner hcalm.inner _ hin host)⟩
      rw [filterMap_opening?_of_inner hcalm.inner]
      exact List.nil_sublist _
  | _ => exact ⟨[], .idle ..⟩

theorem Consistent.course (cfg : Settings) (h : e.Consistent graphs) {c : Call}
    (hc : c.isPlay = true) (hturn : ∀ host, c ≠ .turn host) :
    ∃ acts, Course cfg c.Reports e.session acts (c.after cfg e).session := by
  obtain ⟨acts, hruns⟩ := h.runs cfg hc fun host he => absurd he (hturn host)
  exact ⟨acts, hruns.course⟩

/-- Every call keeps the agreement, whether it succeeds or fails. -/
theorem Consistent.after (h : e.Consistent graphs) (c : Call) :
    (c.after cfg e).Consistent graphs := by
  by_cases hplay : c.isPlay = true ∧ ∀ host, c ≠ .turn host
  · obtain ⟨acts, hc⟩ := h.course cfg hplay.1 hplay.2
    exact h.of_course hc
  cases c with
  | newGame startMain =>
    rw [Call.after, Call.ask, Call.after_answer]
    exact h.newGame cfg startMain
  | register more =>
    rw [Call.after, Call.ask]
    split
    next e' he' =>
      refine ⟨sound_of_register h.sound he', agrees_of_register h.agrees he', ?_⟩
      exact graphs_register he' ▸ h.listed.trans (List.prefix_append _ _)
    next => exact h
  | restore data =>
    rw [Call.after, Call.ask, Call.after_answer]
    exact h.restore data
  | turn host => exact ⟨h.sound.congr rfl, h.agrees.of_same rfl rfl, h.listed⟩
  | _ => exact absurd ⟨rfl, by simp⟩ hplay

/-- Only registering changes which graphs there are. -/
theorem Consistent.graphs_after (cfg : Settings) (h : e.Consistent graphs) {c : Call}
    (hregister : ∀ more, c ≠ .register more) :
    (c.after cfg e).session.graphs = e.session.graphs := by
  by_cases hplay : c.isPlay = true ∧ ∀ host, c ≠ .turn host
  · obtain ⟨acts, hc⟩ := h.course cfg hplay.1 hplay.2
    exact hc.graphs
  cases c with
  | newGame startMain =>
    obtain ⟨acts, hc, _⟩ := h.course_newGame cfg startMain
    rw [Call.after, Call.ask, Call.after_answer]
    exact hc.graphs.trans (graphs_forget e)
  | register more => exact absurd rfl (hregister more)
  | restore data =>
    rw [Call.after, Call.ask, Call.after_answer]
    exact graphs_restore data e
  | turn host => rfl
  | _ => exact absurd ⟨rfl, by simp⟩ hplay

/-- Only a turn of the rest of the game lays down anew which services fail. -/
theorem Consistent.host_after (cfg : Settings) (h : e.Consistent graphs) {c : Call}
    (hturn : ∀ host, c ≠ .turn host) :
    e.session.host.FailsAlike (c.after cfg e).session.host := by
  by_cases hplay : c.isPlay = true
  · obtain ⟨acts, hruns⟩ := h.runs cfg hplay fun host he => absurd he (hturn host)
    exact hruns.course.host_alike fun a ha host he => hturn host (hruns.turned host (he ▸ ha))
  cases c with
  | newGame startMain =>
    obtain ⟨acts, hcourse, hunturned⟩ := h.course_newGame cfg startMain
    rw [Call.after, Call.ask, Call.after_answer]
    exact hcourse.host_alike hunturned
  | register graphs =>
    rw [Call.after, Call.ask]
    split
    next e' hr =>
      obtain ⟨he, _⟩ := of_register hr
      exact .of_outages (by rw [he])
    next => exact .of_outages rfl
  | restore data =>
    rw [Call.after, Call.ask, Call.after_answer]
    unfold Questline.after
    cases haccept : accept data e.session with
    | error why =>
      rw [restore_of_refused haccept]
      exact .of_outages rfl
    | ok saved =>
      rw [restore_of_accept haccept (ordered_of_accept haccept)]
      exact .of_outages rfl
  | _ => exact absurd rfl hplay

theorem Consistent.afterAll (cfg : Settings) (h : e.Consistent graphs) (calls : List Call) :
    (e.afterAll cfg calls).Consistent graphs := by
  induction calls generalizing e with
  | nil => exact h
  | cons c rest ih => exact ih (h.after c)

theorem Consistent.graphs_afterAll (cfg : Settings) (h : e.Consistent graphs) {calls : List Call}
    (hregister : ∀ c ∈ calls, ∀ more, c ≠ .register more) :
    (e.afterAll cfg calls).session.graphs = e.session.graphs := by
  induction calls generalizing e with
  | nil => rfl
  | cons c rest ih =>
    rw [List.forall_mem_cons] at hregister
    exact (ih (h.after c) hregister.2).trans (h.graphs_after cfg hregister.1)

theorem Consistent.ofGraphs {host : Host} {clock : Clock}
    (h : ofGraphs graphs host clock = .ok e) : e.Consistent graphs := by
  have hsound : Session.Sound (.start host clock) := ⟨List.nodup_nil, by simp [Session.start]⟩
  have hagrees : Session.Agrees (.start host clock) :=
    ⟨by simp [Session.start], fun k hk => by cases hk⟩
  refine ⟨sound_of_register hsound h, agrees_of_register hagrees h, ?_⟩
  rw [(of_register h).1]
  simp [Session.graphs, Session.start, Function.comp_def]

end Engine

/-- What a session knows about its graphs, of which the first ones are given, fits together. -/
structure Session.FitsTogether (graphs : List Graph) (s : Session) : Prop where
  listed : ∀ g ∈ graphs, ∃ i, s.instance? g.id = some i ∧ i.graph = g
  recorded : ∀ g i, s.instance? g = some i → i.lifecycle = s.ledger.stateOf g
  active : ∀ g i, s.instance? g = some i →
    (i.activeNode.isSome = true ↔ i.lifecycle = .inProgress)
  node : ∀ g i id, s.instance? g = some i → i.activeNode = some id →
    ∃ n ∈ i.graph.nodes, n.id = id
  mentioned : ∀ k ∈ Assoc.keys s.ledger.questState,
    ∃ g, k = .text g ∧ (s.instance? g).isSome = true

/-- Whatever graphs an engine has been built over, and whatever it has been asked since: each graph
is where the ledger says, it has an active node just while it is in progress, that node is one of
its own, and the ledger mentions registered graphs only. -/
theorem graphs_fit_ledger (cfg : Settings) {graphs : List Graph} {host : Host} {clock : Clock}
    {e : Engine} (h : Engine.ofGraphs graphs host clock = .ok e) (calls : List Call) :
    (e.afterAll cfg calls).session.FitsTogether graphs := by
  have hc := (Engine.Consistent.ofGraphs h).afterAll cfg calls
  have hplaced {g : String} {i : Instance}
      (hi : (e.afterAll cfg calls).session.instance? g = some i) :=
    hc.agrees.placed i (Session.mem_of_instance? hi)
  constructor
  · intro g hg
    obtain ⟨i, hi, rfl⟩ := List.mem_map.1 (hc.listed.subset hg)
    exact ⟨i, Session.instance?_of_mem hc.sound.distinct hi, rfl⟩
  · intro g i hi
    exact Session.id_of_instance? hi ▸ (hplaced hi).recorded
  · exact fun g i hi => (hplaced hi).active
  · intro g i id hi hid
    simpa [Graph.hasNode] using (hplaced hi).node id hid
  · intro k hk
    obtain ⟨i, hi, rfl⟩ := hc.agrees.registered k hk
    exact ⟨i.graph.id, rfl, by rw [Session.instance?_of_mem hc.sound.distinct hi]; rfl⟩

/-- A patrol that can be walked again and again, with one gate on the way. -/
def Graph.patrol : Graph :=
  { id := "patrol", kind := .quest, title := "Patrol", description := "", start := "dock"
    nodes := [
      { id := "dock", text := "At the dock.",
        choices := [{ id := "walk", text := "Walk.", next := .node "gate",
                      requirements := [.atLocation "ship"] }] },
      { id := "gate", text := "At the gate.",
        choices := [{ id := "again", text := "Again.", next := .graph "patrol" }] }]
    requirements := [], branch := "crew", main := false, locked := false, repeatable := true
    completion := [{ kind := .setFlag, target := some "walked" }], failure := [], speaker := none }

theorem Engine.ofGraphs_patrol (host : Host) (clock : Clock) :
    ofGraphs [.patrol] host clock = .ok { session :=
      { Session.start host clock with instances := [{ graph := .patrol }] } } := by
  have hchecked : (Graph.checkAll [.patrol] [] [] []).2.isEmpty = true := by decide +kernel
  exact register_of_checked (e := { session := .start host clock }) (List.isEmpty_iff.1 hchecked)

/-- The patrol is walked, the host fails when asked where the player is, and a save that makes no
sense is offered. -/
theorem graphs_fit_ledger_patrol :
    let walked : List Call := [.newGame false, .start "patrol", .choose "patrol" "walk",
      .turn (({} : Host).breakService .currentLocation none), .choose "patrol" "again",
      .choose "patrol" "walk", .restore .null, .abandon "patrol"]
    ∃ e, Engine.ofGraphs [.patrol] {} (.ticking 0 1) = .ok e ∧
      (e.afterAll .builtIn walked).session.FitsTogether [.patrol] := by
  have h := Engine.ofGraphs_patrol {} (.ticking 0 1)
  exact ⟨_, h, graphs_fit_ledger .builtIn h _⟩

end Questline
