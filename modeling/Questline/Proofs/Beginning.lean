import Questline.Proofs.Ranges
import Questline.Proofs.Saving

/-! A new game forgets the old one.  What it makes of an engine depends on nothing but the graphs,
the host and the clock, so a game that has been played for long begins again as the first one
did. -/

namespace Questline

namespace Graph

variable {g : Graph} {graphs more : List Graph} {known known' : List String}

/-- References that lead somewhere still do when there are more graphs. -/
theorem Coherent.mono (h : g.Coherent known) (hknown : known ⊆ known') : g.Coherent known' where
  toSound := h.toSound
  chains n hn c hc target htarget := hknown (h.chains n hn c hc target htarget)
  unlocks o ho hkind :=
    let ⟨target, htarget, heq⟩ := h.unlocks o ho hkind
    ⟨target, hknown htarget, heq⟩
  asks r hr hkind := hknown (h.asks r hr hkind)
  connected := h.connected

/-- Graphs that go together, and more that go with them, could have come all at once. -/
theorem Acceptable.append (h : Acceptable graphs [] [])
    (hmore : Acceptable more (graphs.map (·.id)) []) : Acceptable (graphs ++ more) [] [] := by
  refine ⟨?_, fun g _ => List.not_mem_nil, fun g hg => ?_⟩
  · rw [List.map_append, List.nodup_append]
    refine ⟨h.distinct, hmore.distinct, ?_⟩
    rintro name hname _ hnew rfl
    obtain ⟨g, hg, rfl⟩ := List.mem_map.1 hnew
    exact hmore.new g hg hname
  · rw [validate_eq_nil, List.nil_append, List.append_nil, List.map_append]
    rcases List.mem_append.1 hg with hg | hg
    · have hold := validate_eq_nil.1 (h.valid g hg)
      rw [List.nil_append, List.append_nil] at hold
      exact hold.mono (List.subset_append_left _ _)
    · have hnew := validate_eq_nil.1 (hmore.valid g hg)
      rwa [List.append_nil] at hnew

end Graph

namespace Engine

variable {cfg : Settings} {graphs : List Graph} {e e' : Engine}

theorem Consistent.acceptable_after (cfg : Settings) (h : e.Consistent graphs)
    (hgraphs : Graph.Acceptable e.session.graphs [] []) (c : Call) :
    Graph.Acceptable (c.after cfg e).session.graphs [] [] := by
  by_cases hregister : ∀ more, c ≠ .register more
  · rwa [h.graphs_after cfg hregister]
  · obtain ⟨more, hcall⟩ := not_forall.1 hregister
    obtain rfl := not_not.1 hcall
    rw [Call.after, Call.ask]
    cases hr : e.register more with
    | ok e' =>
      have hmore := (of_register hr).2
      rw [Session.graphNames_eq] at hmore
      change Graph.Acceptable e'.session.graphs [] []
      rw [graphs_register hr]
      exact hgraphs.append hmore
    | error why => exact hgraphs

/-- Whatever has been registered in however many goes could have been registered all at once. -/
theorem acceptable_afterAll (cfg : Settings) {host : Host} {clock : Clock}
    (h : ofGraphs graphs host clock = .ok e) (calls : List Call) :
    Graph.Acceptable (e.afterAll cfg calls).session.graphs [] [] := by
  have hfirst : Graph.Acceptable e.session.graphs [] [] := by
    rw [graphs_register h]
    exact (of_register h).2
  have hconsistent := Consistent.ofGraphs h
  clear h
  induction calls generalizing e with
  | nil => exact hfirst
  | cons c rest ih => exact ih (hconsistent.acceptable_after cfg hfirst c) (hconsistent.after c)

/-- What is left of an engine that has been reset: its graphs, its host and its clock. -/
theorem forget_eq (e : Engine) : e.forget =
    { session := { Session.start e.session.host e.session.clock with
        pending := e.session.pending
        instances := e.session.graphs.map fun graph => { graph } } } := by
  rw [Session.graphs, List.map_map]
  rfl

theorem forget_forget (e : Engine) : e.forget.forget = e.forget := by
  rw [forget_eq e.forget, graphs_forget, forget_eq e]
  rfl

/-- Nothing that a new game forgets makes a difference to it. -/
theorem newGame_forget (startMain : Bool) (e : Engine) :
    newGame cfg startMain e.forget = newGame cfg startMain e := by
  rw [newGame_eq, newGame_eq, forget_forget]

/-- Two engines are in the same world: they have the same graphs in the same order, the same host
and clocks that show the same, and no entry is open in either. -/
structure SameWorld (e e' : Engine) : Prop where
  graphs : e.session.graphs = e'.session.graphs
  host : e.session.host = e'.session.host
  clock : e.session.clock.Alike e'.session.clock
  idle : e.session.pending = none
  idle' : e'.session.pending = none

theorem SameWorld.forget (h : e.SameWorld e') : e.forget.Twin e'.forget := by
  rw [forget_eq e, forget_eq e', h.graphs, h.host, h.idle, h.idle']
  exact ⟨.empty, e'.session.clock, .inl rfl, h.clock, rfl⟩

/-- What two engines hold and what they say is the same, now and whatever they are asked later. -/
structure Alike (cfg : Settings) (e e' : Engine) : Prop where
  ledger : e.session.ledger.Matches e'.session.ledger
  log : e.session.log = e'.session.log
  instances : e.session.instances = e'.session.instances
  ending : e.session.ending = e'.session.ending
  pending : e.session.pending = e'.session.pending
  host : e.session.host = e'.session.host
  diagnostics : e.diagnostics = e'.diagnostics
  answers : ∀ calls, e.answers cfg calls = e'.answers cfg calls

theorem Twin.alike (h : e.Twin e') (cfg : Settings) (hsaid : e.diagnostics = e'.diagnostics) :
    e.Alike cfg e' := by
  have hanswers := h.answers cfg
  obtain ⟨s, d⟩ := e
  obtain ⟨t, d'⟩ := e'
  obtain ⟨l, c, hl, _, rfl⟩ := h
  exact ⟨hl.alike, rfl, rfl, rfl, rfl, rfl, hsaid, hanswers⟩

end Engine

/-- What a new game has said when it has begun, which is what its main quest had to say. -/
def Answer.said : Answer → List String
  | .begun (.ok (some r)) => r.diagnostics
  | _ => []

theorem Engine.diagnostics_newGame (cfg : Settings) (startMain : Bool) (e : Engine) :
    ((Call.newGame startMain).ask cfg e).2.diagnostics =
      ((Call.newGame startMain).ask cfg e).1.said := by
  cases hnew : newGame cfg startMain e with
  | error why f =>
    obtain ⟨t, _, rfl⟩ := newGame_eq_error hnew
    rw [Call.ask, Call.answer_error hnew]
    rfl
  | ok r f =>
    rw [Call.ask, Call.answer_ok hnew]
    rw [newGame_eq] at hnew
    cases hbegin : Step.begin e.forget.session with
    | error why s => simp [hbegin] at hnew
    | ok _ s =>
      rw [hbegin] at hnew
      dsimp only at hnew
      split at hnew
      · cases hnew
        exact diagnostics_request ..
      · cases hnew
        rfl

/-- In the same world a new game is the same new game, whatever has been played before it. -/
theorem Engine.SameWorld.begins {e e' : Engine} (h : e.SameWorld e') (cfg : Settings)
    (startMain : Bool) : ((Call.newGame startMain).ask cfg e).1 =
      ((Call.newGame startMain).ask cfg e').1 ∧
    ((Call.newGame startMain).ask cfg e).2.Alike cfg ((Call.newGame startMain).ask cfg e').2 := by
  have hforgotten (f : Engine) :
      (Call.newGame startMain).ask cfg f = (Call.newGame startMain).ask cfg f.forget := by
    rw [Call.ask, Call.ask, Call.answer, Call.answer, newGame_forget]
  obtain ⟨hanswer, htwin⟩ := (Call.newGame startMain).ask_twin cfg h.forget
  rw [← hforgotten, ← hforgotten] at hanswer htwin
  refine ⟨hanswer, htwin.alike cfg ?_⟩
  rw [diagnostics_newGame, diagnostics_newGame, hanswer]

/-- A new game forgets what was there.  Whatever graphs have been registered, and whatever two
engines over them have been through: in the same world both begin a new game with the same answer,
and then hold and say the same.  So does an engine that is built anew over these graphs.  The
entries are numbered from one again, and where every fact can be had and every requirement be
judged, the game does begin. -/
theorem new_game_forgets (cfg : Settings) {graphs : List Graph} {host : Host} {clock : Clock}
    {built : Engine} (hbuilt : Engine.ofGraphs graphs host clock = .ok built) (calls : List Call)
    {e e' : Engine} (hgraphs : e.session.graphs = (built.afterAll cfg calls).session.graphs)
    (hworld : e.SameWorld e') (startMain : Bool) :
    let begun (f : Engine) := (Call.newGame startMain).ask cfg f
    ((begun e).1 = (begun e').1 ∧ (begun e).2.Alike cfg (begun e').2) ∧
      (∀ clock', e.session.clock.Alike clock' → ∃ fresh,
        Engine.ofGraphs e.session.graphs e.session.host clock' = .ok fresh ∧
          (begun e).1 = (begun fresh).1 ∧ (begun e).2.Alike cfg (begun fresh).2) ∧
      (begun e).2.session.log.Counted ∧
      (e.session.host.Answering → (∀ g ∈ e.session.graphs, ∀ r ∈ g.requirements, r.Judgeable) →
        ∃ main, (begun e).1 = .begun (.ok main)) := by
  intro begun
  have hacceptable : Graph.Acceptable e.session.graphs [] [] :=
    hgraphs ▸ Engine.acceptable_afterAll cfg hbuilt calls
  have hanew (clock' : Clock) (hclock : e.session.clock.Alike clock') : ∃ fresh,
      Engine.ofGraphs e.session.graphs e.session.host clock' = .ok fresh ∧ e.SameWorld fresh := by
    refine ⟨_, Engine.register_of_acceptable (e := { session := .start e.session.host clock' })
      hacceptable, ?_, rfl, hclock, hworld.idle, rfl⟩
    simp [Session.graphs, Session.start, Function.comp_def]
  -- the engine that is built anew is one in which everything agrees, so the rest is shown of it
  obtain ⟨fresh, hfresh, hsame⟩ := hanew e.session.clock fun _ => rfl
  have hconsistent := Engine.Consistent.ofGraphs hfresh
  obtain ⟨hanswer, halike⟩ := hsame.begins cfg startMain
  refine ⟨hworld.begins cfg startMain, fun clock' hclock => ?_, ?_, fun hanswers hjudged => ?_⟩
  · obtain ⟨fresh, hfresh, hsame⟩ := hanew clock' hclock
    exact ⟨fresh, hfresh, hsame.begins cfg startMain⟩
  · obtain ⟨acts, hcourse, _⟩ := hconsistent.course_newGame cfg startMain
    rw [halike.log, Call.ask, Call.after_answer]
    exact (Session.lasting_counted cfg).course EventLog.counted_empty hcourse
  · obtain ⟨main, f, hnew⟩ := hconsistent.newGame_begins cfg hsame.idle'
      (hsame.graphs ▸ hjudged) (hsame.host ▸ hanswers) startMain
    refine ⟨main, ?_⟩
    rw [hanswer, Call.ask, Call.answer_ok hnew]

/-- The patrol is begun anew where it was at the gate and where it has been given up. -/
theorem new_game_forgets_patrol :
    let anew (e : Engine) := (Call.newGame false).ask .builtIn e
    ∃ built begun, Engine.ofGraphs [.patrol] {} (.ticking 0 1) = .ok built ∧
      begun = (Call.newGame false).after .builtIn built ∧
      let e := (begun.afterAll .builtIn [.start "patrol", .choose "patrol" "walk",
        .external [.data (.record [("kind", "set_flag"), ("flag", "seen")])] "watch"]).within {}
          (.scripted 7 [])
      let e' := (begun.afterAll .builtIn [.start "patrol", .abandon "patrol"]).within {}
        (.scripted 7 [])
      (anew e).1 = (anew e').1 ∧ (anew e).2.session.log = (anew e').2.session.log ∧
        (anew e).2.session.log.Counted ∧ ∃ main, (anew e).1 = .begun (.ok main) := by
  intro anew
  have hbuilt := Engine.ofGraphs_patrol {} (.ticking 0 1)
  have hreached : Reached .builtIn _ := .built hbuilt
  have hsettled := hreached.settled
  obtain ⟨r, _, hnew⟩ := hsettled.consistent.newGame_begins .builtIn hsettled.idle
    (by simp [Session.graphs, Graph.patrol]) (fun _ _ _ _ h => by cases h) false
  have hbegun := hreached.called (Call.concludes_newGame hnew)
  have hgraphs := hsettled.consistent.graphs_after .builtIn (c := .newGame false)
    fun _ h => by cases h
  refine ⟨_, _, hbuilt, rfl, ?_⟩
  revert hbegun hgraphs
  generalize (Call.newGame false).after .builtIn _ = begun
  intro hbegun hgraphs e e'
  have hwalk : ∀ c ∈ ([.start "patrol", .choose "patrol" "walk", .external [.data (.record
      [("kind", "set_flag"), ("flag", "seen")])] "watch"] : List Call), c.isPlay = true := by
    simp [Call.isPlay]
  have hgiveUp : ∀ c ∈ ([.start "patrol", .abandon "patrol"] : List Call), c.isPlay = true := by
    simp [Call.isPlay]
  obtain ⟨hwalked, hsame⟩ := hbegun.afterAll hwalk
  obtain ⟨hother, hsame'⟩ := hbegun.afterAll hgiveUp
  have hworld : e.SameWorld e' :=
    ⟨hsame.trans hsame'.symm, rfl, fun _ => rfl, hwalked.settled.idle, hother.settled.idle⟩
  have hone : e.session.graphs = [.patrol] := hsame.trans hgraphs
  obtain ⟨⟨hanswer, halike⟩, _, hcounted, hbegins⟩ :=
    new_game_forgets .builtIn hbuilt [] hone hworld false
  refine ⟨hanswer, halike.log, hcounted, hbegins (fun _ _ _ _ h => by cases h) ?_⟩
  rw [hone]
  simp [Graph.patrol]

end Questline
