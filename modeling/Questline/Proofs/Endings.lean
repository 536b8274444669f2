import Questline.Proofs.Closing
import Questline.Proofs.Entries
import Questline.Proofs.Quiet

/-! How the graph that is played comes to its end with the story.  What becomes of it is decided by
the ending that is in force at that moment; an ending that its own last outcomes trigger comes too
late to change it. -/

namespace Questline

/-- The ending that is in force once some outcomes have been applied. -/
def lastEnding (outcomes : List Outcome) : Option (String × Bool) :=
  outcomes.foldl (fun ending o => o.ending?.or ending) none

/-- What becomes of a graph in progress, by the ending that is in force. -/
def Lifecycle.atEnd : Option (String × Bool) → Lifecycle
  | some (_, true) => .failed
  | _ => .completed

namespace Entry

/-- The graphs that have been started in the course of an entry. -/
def begun (entry : Entry) : List String :=
  entry.transitions.filterMap fun (g, state) => if state = .inProgress then g.text? else none

/-- The graph that is played in the end: the one that was started last, or else the one that the
request was about. -/
def played (entry : Entry) (g : String) : String := entry.begun.getLast?.getD g

end Entry

namespace Instance

/-- An instance after acts that go on with the story. -/
def through (i : Instance) (acts : List Act) : Instance := acts.foldl (fun i a => a.onInstance i) i

/-- The outcomes that a graph has for the way in which it has ended. -/
def lastOutcomes (i : Instance) : List Outcome :=
  if i.lifecycle = .failed then i.graph.failure else i.graph.completion

/-- A graph has come to its end with the story.  Which way is decided by the outcomes before its
last ones, and agrees with the ending unless these trigger one themselves. -/
structure EndedBy (i : Instance) (entry : Entry) (ending : String) (failed : Bool) : Prop where
  left : i.activeNode = none
  decided : ∃ before, entry.outcomes = (before ++ i.lastOutcomes).map Outcome.toTable ∧
    lastEnding (before ++ i.lastOutcomes) = some (ending, failed) ∧
    i.lifecycle = .atEnd (lastEnding before)
  agrees : (∀ o ∈ i.lastOutcomes, o.ending? = none) →
    i.lifecycle = if failed then .failed else .completed

variable (i : Instance) {acts acts' : List Act} {k : Instance} {g : String}

@[simp] theorem through_nil : i.through [] = i := rfl

@[simp] theorem through_cons (a : Act) :
    i.through (a :: acts) = (a.onInstance i).through acts := rfl

@[simp] theorem through_append : i.through (acts ++ acts') = (i.through acts).through acts' :=
  List.foldl_append

@[simp] theorem through_graph : (i.through acts).graph = i.graph := by
  induction acts generalizing i with
  | nil => rfl
  | cons a rest ih => rw [through_cons, ih, Act.onInstance_graph]

/-- Outcomes leave a graph where it is. -/
theorem through_script (c : Cause) (outcomes : List Outcome) :
    (i.through (c.script outcomes)).lifecycle = i.lifecycle ∧
      (i.through (c.script outcomes)).activeNode = i.activeNode := by
  induction outcomes generalizing i with
  | nil => exact ⟨rfl, rfl⟩
  | cons o rest ih =>
    have hrest := ih (i.upon o)
    rw [upon_lifecycle, upon_activeNode] at hrest
    exact hrest

/-- A graph that is moved stays where it is moved to while outcomes are applied. -/
theorem through_moved (hg : i.graph.id = g) (state : Lifecycle) (c : Cause)
    (outcomes : List Outcome) :
    (i.through (.moves g state :: c.script outcomes)).lifecycle = state ∧
      (i.through (.moves g state :: c.script outcomes)).activeNode =
        if state = .inProgress then some i.graph.start else none := by
  obtain ⟨hlife, hnode⟩ := through_script ((Act.moves g state).onInstance i) c outcomes
  rw [through_cons, hlife, hnode, Act.onInstance, if_pos hg]
  exact ⟨rfl, rfl⟩

end Instance

section Courses

variable {cfg : Settings} {reported : Outcome → Prop} {s t : Session} {acts : List Act}

/-- An instance itself, or as it is once it has become available. -/
def Instance.Perhaps (i k : Instance) : Prop :=
  k = i ∨ i.lifecycle = .unavailable ∧ k = { i with lifecycle := .available, activeNode := none }

theorem Instance.Perhaps.graph {i k : Instance} (h : i.Perhaps k) : k.graph = i.graph := by
  rcases h with rfl | ⟨-, rfl⟩ <;> rfl

theorem Instance.Perhaps.same {i k : Instance} (h : i.Perhaps k) (hi : i.lifecycle ≠ .unavailable) :
    k = i :=
  h.resolve_right fun h => hi h.1

/-- Becoming available may as well come before an act that goes on with the story. -/
theorem Act.onInstance_outline {a : Act} (ha : a.Lawful reported s) {g : String} {i k : Instance}
    (hi : s.instance? g = some i) (hk : (a.onInstance i).Perhaps k) :
    ∃ j, i.Perhaps j ∧ j.through (outline [a]) = k := by
  have hid := Session.id_of_instance? hi
  cases a with
  | applies c o =>
    rcases hk with rfl | ⟨hlife, rfl⟩
    · exact ⟨i, .inl rfl, rfl⟩
    · refine ⟨_, .inr ⟨(i.upon_lifecycle o).symm.trans hlife, rfl⟩, ?_⟩
      change Instance.upon _ o = { i.upon o with lifecycle := .available, activeNode := none }
      unfold Instance.upon
      dsimp only
      split <;> rfl
  | moves h state =>
    by_cases hg : i.graph.id = h
    · obtain ⟨_, j, hj, hchange⟩ := ha
      obtain rfl : j = i := by
        rw [← hg, hid, hi] at hj
        exact (Option.some.inj hj).symm
      rw [onInstance, if_pos hg] at hk
      have hstate : state ≠ .unavailable := by
        rintro rfl
        cases hchange
      obtain rfl := hk.same hstate
      by_cases hopened : state = .available
      · subst hopened
        cases hchange with
        | opened hlife => exact ⟨_, .inr ⟨hlife, rfl⟩, rfl⟩
      · refine ⟨j, .inl rfl, ?_⟩
        rw [outline_cons (by simpa [isStride] using hopened), outline_nil, Instance.through_cons,
          onInstance, if_pos hg]
        rfl
    · rw [onInstance, if_neg hg] at hk
      refine ⟨k, hk, ?_⟩
      have hkept : (moves h state).onInstance k = k := by
        rw [onInstance, if_neg (hk.graph ▸ hg)]
      unfold outline
      rw [List.filter_singleton]
      cases (moves h state).isStride
      · rfl
      · exact hkept
  | enters h n =>
    by_cases hg : i.graph.id = h
    · obtain ⟨_, j, hj, hlife, _⟩ := ha
      obtain rfl : j = i := by
        rw [← hg, hid, hi] at hj
        exact (Option.some.inj hj).symm
      have hkept : ((enters h n).onInstance j).lifecycle ≠ .unavailable := by
        rw [onInstance, if_pos hg]
        simp [hlife]
      exact ⟨j, .inl rfl, (hk.same hkept).symm⟩
    · rw [onInstance, if_neg hg] at hk
      refine ⟨k, hk, ?_⟩
      change (enters h n).onInstance k = k
      rw [onInstance, if_neg (hk.graph ▸ hg)]
  | _ => exact ⟨k, hk, rfl⟩

/-- Where a graph is after a course shows in the outline, but for its having become available. -/
theorem Course.instance?_outline (h : Course cfg reported s acts t) {g : String} {i : Instance}
    (hi : s.instance? g = some i) :
    ∃ k, i.Perhaps k ∧ t.instance? g = some (k.through (outline acts)) := by
  induction h generalizing i with
  | nil => exact ⟨i, .inl rfl, hi⟩
  | @cons s t a acts ha _ ih =>
    have hnext := Act.instance?_run cfg ha g
    rw [hi, Option.map_some] at hnext
    obtain ⟨k, hk, ht⟩ := ih hnext
    obtain ⟨j, hj, rfl⟩ := Act.onInstance_outline ha hi hk
    refine ⟨j, hj, ?_⟩
    rw [← List.singleton_append, outline_append, Instance.through_append]
    exact ht

end Courses

/-- The graph that an act starts. -/
def Act.begun? : Act → Option String
  | .moves g .inProgress => some g
  | _ => none

/-- The outcomes that are applied by some acts. -/
def appliedBy (acts : List Act) : List Outcome := (acts.filterMap Act.application?).map Prod.snd

section Records

variable {acts acts' : List Act} {c : Cause} {outcomes : List Outcome}

@[simp] theorem appliedBy_append :
    appliedBy (acts ++ acts') = appliedBy acts ++ appliedBy acts' := by
  simp [appliedBy]

@[simp] theorem appliedBy_script : appliedBy (c.script outcomes) = outcomes := by
  induction outcomes with
  | nil => rfl
  | cons o rest ih => exact congrArg (o :: ·) ih

theorem flatMap_notes_eq (acts : List Act) :
    acts.flatMap (·.notes) = (appliedBy acts).map Outcome.toTable := by
  induction acts with
  | nil => rfl
  | cons a rest ih =>
    rw [List.flatMap_cons, ih]
    cases a <;> rfl

theorem endingOf_eq_lastEnding (acts : List Act) :
    endingOf none acts = lastEnding (appliedBy acts) := by
  have hfrom (ending : Option (String × Bool)) : endingOf ending acts =
      (appliedBy acts).foldl (fun ending o => o.ending?.or ending) ending := by
    induction acts generalizing ending with
    | nil => rfl
    | cons a rest ih => cases a <;> exact ih _
  exact hfrom none

@[simp] theorem filterMap_begun?_script : (c.script outcomes).filterMap Act.begun? = [] := by
  induction outcomes with
  | nil => rfl
  | cons o rest ih => exact ih

/-- The graphs that have been started stand in the outline. -/
theorem filterMap_begun?_outline (acts : List Act) :
    (outline acts).filterMap Act.begun? = acts.filterMap Act.begun? := by
  unfold outline
  rw [List.filterMap_filter]
  congr 1
  funext a
  cases a with
  | moves g state => cases state <;> rfl
  | _ => rfl

theorem Entry.begun_eq {entry : Entry} (h : entry.transitions = acts.flatMap (·.changes)) :
    entry.begun = (outline acts).filterMap Act.begun? := by
  rw [filterMap_begun?_outline, begun, h]
  clear h
  induction acts with
  | nil => rfl
  | cons a rest ih =>
    rw [List.flatMap_cons, List.filterMap_append, ih, ← List.singleton_append,
      List.filterMap_append]
    congr 1
    cases a with
    | moves g state => cases state <;> rfl
    | _ => rfl

namespace Graph

variable (g : Graph) (c : Choice) (n : Node)

@[simp] theorem appliedBy_taking : appliedBy (g.taking c) = c.outcomes := appliedBy_script

@[simp] theorem appliedBy_beginning : appliedBy (g.beginning n) = n.entryOutcomes :=
  appliedBy_script

@[simp] theorem appliedBy_completing : appliedBy g.completing = g.completion := appliedBy_script

@[simp] theorem appliedBy_failing : appliedBy g.failing = g.failure := appliedBy_script

@[simp] theorem filterMap_begun?_taking : (g.taking c).filterMap Act.begun? = [] :=
  filterMap_begun?_script

@[simp] theorem filterMap_begun?_entering : (g.entering n).filterMap Act.begun? = [] :=
  filterMap_begun?_script

@[simp] theorem filterMap_begun?_beginning : (g.beginning n).filterMap Act.begun? = [g.id] :=
  congrArg (g.id :: ·) filterMap_begun?_script

@[simp] theorem filterMap_begun?_completing : g.completing.filterMap Act.begun? = [] :=
  filterMap_begun?_script

@[simp] theorem filterMap_begun?_failing : g.failing.filterMap Act.begun? = [] :=
  filterMap_begun?_script

end Graph

end Records

theorem lastEnding_append_of_none {before after : List Outcome}
    (h : ∀ o ∈ after, o.ending? = none) : lastEnding (before ++ after) = lastEnding before := by
  unfold lastEnding
  rw [List.foldl_append]
  generalize before.foldl (fun ending o => o.ending?.or ending) none = ending
  induction after generalizing ending with
  | nil => rfl
  | cons o rest ih =>
    rw [List.forall_mem_cons] at h
    rw [List.foldl_cons, h.1, Option.none_or]
    exact ih h.2 ending

namespace Graph

/-- How a graph in progress comes to its end, by the ending that is in force, if any. -/
def concluding (g : Graph) : Option (String × Bool) → List Act
  | some (_, true) => g.failing
  | _ => g.completing

/-- What acts a script of the story ends with once an ending has been triggered: those with which
the graph that is played comes to its end. -/
structure Concludes (g : Graph) (asked : String) (script before : List Act) : Prop where
  script : script = before ++ g.concluding (endingOf none before)
  played : (before.filterMap Act.begun?).getLast?.getD asked = g.id

variable {g : Graph} {ending : Option (String × Bool)} {acts before : List Act}

theorem closing_of_isSome (h : ending.isSome = true) : g.closing ending = g.concluding ending := by
  obtain ⟨⟨_, failed⟩, rfl⟩ := Option.isSome_iff_exists.1 h
  cases failed <;> rfl

@[simp] theorem filterMap_begun?_concluding (g : Graph) (ending : Option (String × Bool)) :
    (g.concluding ending).filterMap Act.begun? = [] := by
  unfold concluding
  split <;> simp

theorem closed_concludes {asked : String}
    (hended : (endingOf none (g.closed none acts)).isSome = true)
    (hplayed : (acts.filterMap Act.begun?).getLast?.getD asked = g.id) :
    g.Concludes asked (g.closed none acts) acts := by
  refine ⟨?_, hplayed⟩
  cases hending : endingOf none acts with
  | none =>
    rw [closed, hending, closing, List.append_nil, hending] at hended
    cases hended
  | some ending => rw [closed, hending, closing_of_isSome rfl]

theorem Begins.concludes (asked : String) (h : g.Begins none acts)
    (hended : (endingOf none acts).isSome = true) : ∃ before, g.Concludes asked acts before := by
  obtain ⟨_, _⟩ := h
  exact ⟨_, closed_concludes hended (by simp)⟩

end Graph

theorem Choice.Follows.concludes {c : Choice} {graphs : List Graph} {g : Graph} {acts : List Act}
    (h : c.Follows graphs g acts) (hg : g ∈ graphs) (hended : (endingOf none acts).isSome = true) :
    ∃ p ∈ graphs, ∃ before, p.Concludes g.id acts before := by
  cases h with
  | ended => exact ⟨g, hg, _, Graph.closed_concludes hended (by simp)⟩
  | entered => exact ⟨g, hg, _, Graph.closed_concludes hended (by simp)⟩
  | completed hopen =>
    refine ⟨g, hg, g.taking c, ?_, by simp⟩
    rw [hopen]
    rfl
  | @chained p _ hopen _ hp hbegun =>
    rw [endingOf_append, hopen] at hended
    obtain ⟨before, hscript, hplayed⟩ := hbegun.concludes g.id hended
    refine ⟨p, hp, g.taking c ++ g.completing ++ before, ?_, ?_⟩
    · rw [endingOf_append, hopen, hscript, List.append_assoc, List.append_assoc,
        List.append_assoc]
    · simpa using hplayed

/-- A graph whose script has come to its conclusion is failed or completed. -/
theorem Graph.Concludes.ended {g : Graph} {asked : String} {acts before : List Act} {i : Instance}
    (h : g.Concludes asked acts before) (hi : i.graph = g) :
    (i.through acts).activeNode = none ∧
      (i.through acts).lifecycle = .atEnd (lastEnding (appliedBy before)) ∧
      appliedBy acts = appliedBy before ++ (i.through acts).lastOutcomes := by
  obtain ⟨rfl, -⟩ := h
  have hgraph : (i.through before).graph = g := by rw [Instance.through_graph, hi]
  rw [endingOf_eq_lastEnding, Instance.through_append]
  unfold Graph.concluding
  split
  next name hending =>
    obtain ⟨hlife, hnode⟩ := (i.through before).through_moved (congrArg Graph.id hgraph) .failed
      (.failure g.id) g.failure
    refine ⟨hnode, hlife.trans (by rw [hending]; rfl), ?_⟩
    rw [Graph.failing, appliedBy_append, Instance.lastOutcomes, hlife, Instance.through_graph,
      hgraph, if_pos rfl]
    exact congrArg (appliedBy before ++ ·) appliedBy_script
  next hending =>
    obtain ⟨hlife, hnode⟩ := (i.through before).through_moved (congrArg Graph.id hgraph) .completed
      (.completion g.id) g.completion
    refine ⟨hnode, hlife.trans ?_, ?_⟩
    · unfold Lifecycle.atEnd
      split
      next name heq => exact absurd heq (hending name)
      next => rfl
    · rw [Graph.completing, appliedBy_append, Instance.lastOutcomes, hlife, Instance.through_graph,
        hgraph, if_neg (by simp)]
      exact congrArg (appliedBy before ++ ·) appliedBy_script

section Requests

variable {cfg : Settings} {e : Engine} {c : Call} {entry : Entry}

theorem Blocked.declined {x : Step Resolution} (h : Blocked x e.session) (g : String)
    (choice : Option String) : (Engine.request g choice x e).1.accepted = false := by
  unfold Blocked Ends at h
  unfold Engine.request
  cases hrun : x e.session with
  | ok r t =>
    rw [hrun] at h
    exact h.elim
  | error why t => rfl

/-- The graph that is to be played, by starting it or by taking a choice. -/
def Call.plays? : Call → Option String
  | .start g | .choose g _ => some g
  | _ => none

theorem Step.start_unended {s : Session} (g : String) :
    Ends (start cfg g) s (fun _ _ => s.ending = none) fun _ _ => True := by
  rw [start_eq, ends_bind]
  refine Ends.mono (looks_startable g) (fun i t ⟨_, hi, hcan⟩ => ?_) fun _ _ _ => trivial
  rw [Session.canStart, hi, Bool.and_eq_true, Option.isNone_iff_eq_none] at hcan
  exact (ends_of_after (P := fun _ => s.ending = none) hcan.1).mono (fun _ _ h => h)
    fun _ _ _ => trivial

/-- When a request is granted the story goes on and no entry is open, and all that is done then goes
on record. -/
theorem Engine.Consistent.granted {graphs : List Graph} (h : e.Consistent graphs) {g : String}
    (hc : c.plays? = some g) (ha : (c.ask cfg e).1.Accepts entry) :
    e.session.pending = none ∧ e.session.ending = none ∧ c.Granted cfg e entry := by
  cases c with
  | start g =>
    have hidle : e.session.pending = none := by
      by_contra hopen
      have hblocked : Blocked (Step.start cfg g) e.session :=
        Step.start_blocked (Option.isSome_iff_ne_none.2 hopen) g
      exact Bool.false_ne_true ((hblocked.declined g none).symm.trans ha.1)
    exact ⟨hidle, session_of_granted ha.1 (Step.start_unended g),
      (Step.handles_start h.agrees h.sound g).granted rfl hidle ha⟩
  | choose g choice =>
    have hidle : e.session.pending = none := by
      by_contra hopen
      have hblocked : Blocked (Step.choose cfg g choice) e.session :=
        Step.choose_blocked (Option.isSome_iff_ne_none.2 hopen) h.agrees g choice
      exact Bool.false_ne_true ((hblocked.declined g (some choice)).symm.trans ha.1)
    have hgranted := (Step.handles_choose h.agrees h.sound g choice).granted rfl hidle ha
    obtain ⟨_, _, ⟨_, _, _, hfaces, _⟩, _⟩ := hgranted.told
    exact ⟨hidle, hfaces.going, hgranted⟩
  | _ => cases hc

/-- What a request does that brings the story to its end ends with the end of the graph that is
played. -/
theorem Call.Script.concludes {s : Session} {script : List Act} {g : String}
    (h : c.Script s script) (hc : c.plays? = some g)
    (hended : (endingOf none script).isSome = true) :
    ∃ p ∈ s.graphs, ∃ before, p.Concludes g script before := by
  cases c with
  | start k =>
    obtain ⟨i, hi, hbegins⟩ := h
    obtain ⟨before, hconcludes⟩ := hbegins.concludes g hended
    exact ⟨i.graph, List.mem_map_of_mem (Session.mem_of_instance? hi), before, hconcludes⟩
  | choose k choice =>
    obtain ⟨i, n, d, hfaces, _, hfollows⟩ := h
    obtain rfl : i.graph.id = g := (Session.id_of_instance? hfaces.found).trans (Option.some.inj hc)
    exact hfollows.concludes (List.mem_map_of_mem (Session.mem_of_instance? hfaces.found)) hended
  | _ => cases hc

end Requests

/-- Whatever has been asked before, when a graph is started or a choice is taken and the story has
ended, the graph that was played has come to its end, failed or completed by the ending that was in
force just then. -/
theorem played_graph_ends (cfg : Settings) {graphs : List Graph} {host : Host} {clock : Clock}
    {built : Engine} (hbuilt : Engine.ofGraphs graphs host clock = .ok built) (calls : List Call)
    {c : Call} {g : String} {entry : Entry} {ending : String} {failed : Bool}
    (hc : c.plays? = some g)
    (haccepted : (c.ask cfg (built.afterAll cfg calls)).1.Accepts entry)
    (hended : (c.after cfg (built.afterAll cfg calls)).session.ending = some (ending, failed)) :
    ∃ i, (c.after cfg (built.afterAll cfg calls)).session.instance? (entry.played g) = some i ∧
      i.EndedBy entry ending failed := by
  have h := (Engine.Consistent.ofGraphs hbuilt).afterAll cfg calls
  generalize built.afterAll cfg calls = e at *
  obtain ⟨-, hgoing, hgranted⟩ := h.granted hc haccepted
  obtain ⟨_, acts, hscript, rfl, hcourse, houtcomes, htransitions⟩ := hgranted.told
  have hending : endingOf none (outline acts) = some (ending, failed) := by
    rw [endingOf_outline, ← hgoing, ← hcourse.ending_eq, hended]
  obtain ⟨p, hp, before, hconcludes⟩ := hscript.concludes hc (by rw [hending]; rfl)
  obtain ⟨i, hi, rfl⟩ := List.mem_map.1 hp
  obtain ⟨k, hk, hafter⟩ := hcourse.instance?_outline (Session.instance?_of_mem h.sound.distinct hi)
  obtain ⟨hleft, hlife, happlied⟩ := hconcludes.ended hk.graph
  rw [endingOf_eq_lastEnding, happlied] at hending
  have hplayed : entry.played g = i.graph.id := by
    rw [Entry.played, Entry.begun_eq htransitions, hconcludes.script, List.filterMap_append,
      Graph.filterMap_begun?_concluding, List.append_nil, hconcludes.played]
  refine ⟨_, hplayed ▸ hafter, hleft, ⟨appliedBy before, ?_, hending, hlife⟩, fun hquiet => ?_⟩
  · rw [houtcomes, flatMap_notes_eq, happlied]
  · rw [hlife, ← lastEnding_append_of_none hquiet, hending]
    cases failed <;> rfl

/-- A duel that is lost by a stroke, and in which to yield is a shame. -/
def Content.duel : Content :=
  [("duel", .record [
    ("title", "Duel"), ("start", "field"), ("branch", "crew"),
    ("nodes", .list [
      .record [("id", "field"), ("text", "On the field."), ("choices", .list [
        .record [("id", "strike"), ("text", "Strike."), ("outcomes", .list [
          .record [("kind", "trigger_ending"), ("ending", "slain"), ("fail", .bool true)]])],
        .record [("id", "yield"), ("text", "Yield.")]])]]),
    ("completion_outcomes", .list [
      .record [("kind", "trigger_ending"), ("ending", "shame"), ("fail", .bool true)]])])]

/-- The duel is lost by a stroke, while nothing can be shown. -/
theorem played_graph_ends_duel :
    let calls : List Call := [.newGame false, .start "duel",
      .turn (({} : Host).breakService .triggerEnding none)]
    let e := (Engine.fresh .duel {}).afterAll .builtIn calls
    let c : Call := .choose "duel" "strike"
    ∃ graphs entry i, Engine.ofGraphs graphs {} (.ticking 0 1) = .ok (.fresh .duel {}) ∧
      (c.ask .builtIn e).1.Accepts entry ∧
      (c.after .builtIn e).session.instance? "duel" = some i ∧ i.EndedBy entry "slain" true := by
  intro calls e c
  obtain ⟨graphs, _, hbuilt⟩ := Engine.ofGraphs_fresh {}
    (show (Content.load .builtIn .duel []).toOption.isSome = true by decide +kernel)
  obtain ⟨entry, haccepts⟩ := Answer.exists_accepts
    (show (c.ask .builtIn e).1.written?.isSome = true by decide +kernel)
  have hslain : (c.after .builtIn e).session.ending = some ("slain", true) := by decide +kernel
  obtain ⟨i, hi, hended⟩ := played_graph_ends .builtIn hbuilt calls
    (show c.plays? = some "duel" from rfl) haccepts hslain
  have hplayed : (c.ask .builtIn e).1.written?.all (·.played "duel" = "duel") = true := by
    decide +kernel
  rw [Answer.accepts_iff.1 haccepts, Option.all_some, decide_eq_true_eq] at hplayed
  exact ⟨graphs, entry, i, hbuilt, haccepts, hplayed ▸ hi, hended⟩

/-- Whoever yields has completed the duel, though the story ends in failure. -/
theorem ending_too_late_for_graph :
    let calls : List Call := [.newGame false, .start "duel"]
    let e := (Engine.fresh .duel {}).afterAll .builtIn calls
    let e' := (Call.choose "duel" "yield").after .builtIn e
    (∃ graphs, Engine.ofGraphs graphs {} (.ticking 0 1) = .ok (.fresh .duel {})) ∧
      (Engine.choose .builtIn "duel" "yield" e).1.accepted = true ∧
      e.session.ending = none ∧ e'.session.ending = some ("shame", true) ∧
      e'.session.graphsIn .completed = ["duel"] ∧ e'.session.graphsIn .failed = [] := by
  intro calls e e'
  obtain ⟨graphs, _, hbuilt⟩ := Engine.ofGraphs_fresh {}
    (show (Content.load .builtIn .duel []).toOption.isSome = true by decide +kernel)
  exact ⟨⟨graphs, hbuilt⟩, by decide +kernel, by decide +kernel, by decide +kernel,
    by decide +kernel, by decide +kernel⟩

end Questline
