import Questline.Proofs.Closing
import Questline.Proofs.Entries
import Questline.Proofs.Interruptions

/-! What a request leaves alone.  A request moves and enters its own graphs only.  Whatever outcomes
are applied on the way, another graph can at most become available, or be unlocked. -/

namespace Questline

/-- An act moves and enters no graphs but some. -/
def Act.Within (P : String → Prop) : Act → Prop
  | .moves g _ | .enters g _ => P g
  | _ => True

section Scripts

variable {P : String → Prop} {g : Graph} {ending : Option (String × Bool)} {acts : List Act}

theorem Cause.script_within (c : Cause) (outcomes : List Outcome) :
    ∀ a ∈ c.script outcomes, a.Within P := by
  intro a ha
  obtain ⟨o, _, rfl⟩ := List.mem_map.1 ha
  trivial

namespace Graph

theorem taking_within (g : Graph) (c : Choice) : ∀ a ∈ g.taking c, a.Within P :=
  Cause.script_within _ _

variable (hg : P g.id)
include hg

theorem entering_within (n : Node) : ∀ a ∈ g.entering n, a.Within P :=
  List.forall_mem_cons.2 ⟨hg, Cause.script_within _ _⟩

theorem completing_within : ∀ a ∈ g.completing, a.Within P :=
  List.forall_mem_cons.2 ⟨hg, Cause.script_within _ _⟩

theorem failing_within : ∀ a ∈ g.failing, a.Within P :=
  List.forall_mem_cons.2 ⟨hg, Cause.script_within _ _⟩

theorem closed_within (h : ∀ a ∈ acts, a.Within P) : ∀ a ∈ g.closed ending acts, a.Within P := by
  refine List.forall_mem_append.2 ⟨h, ?_⟩
  unfold closing
  split
  · exact List.forall_mem_nil _
  · exact failing_within hg
  · exact completing_within hg

theorem Begins.within (h : g.Begins ending acts) : ∀ a ∈ acts, a.Within P := by
  obtain ⟨_, _⟩ := h
  exact closed_within hg (List.forall_mem_cons.2 ⟨hg, entering_within hg _⟩)

end Graph

theorem Choice.Follows.within {c : Choice} {graphs : List Graph} (h : c.Follows graphs g acts)
    (hg : P g.id) (hnext : ∀ id, c.next = .graph id → P id) : ∀ a ∈ acts, a.Within P := by
  cases h with
  | ended => exact Graph.closed_within hg (g.taking_within c)
  | entered =>
    exact Graph.closed_within hg
      (List.forall_mem_append.2 ⟨g.taking_within c, Graph.entering_within hg _⟩)
  | completed =>
    exact List.forall_mem_append.2 ⟨g.taking_within c, Graph.completing_within hg⟩
  | chained _ hchain _ hbegun =>
    refine List.forall_mem_append.2
      ⟨List.forall_mem_append.2 ⟨g.taking_within c, Graph.completing_within hg⟩, ?_⟩
    exact Graph.Begins.within (hnext _ hchain) hbegun

end Scripts

/-- An act makes a graph available at most. -/
def Act.Spares (g : String) : Act → Prop
  | .moves h state => h = g → state = .available
  | .enters h _ => h ≠ g
  | _ => True

/-- The acts of a request spare every graph that its script does not touch. -/
theorem spares_of_outline {P : String → Prop} {acts : List Act} {g : String}
    (h : ∀ a ∈ outline acts, a.Within P) (hg : ¬ P g) : ∀ a ∈ acts, a.Spares g := by
  intro a ha
  have hstride (hstride : a.isStride = true) : a.Within P :=
    h a (List.mem_filter.2 ⟨ha, hstride⟩)
  cases a with
  | moves k state =>
    rintro rfl
    by_contra hstate
    exact hg (hstride (by simpa [Act.isStride] using hstate))
  | enters k n =>
    rintro rfl
    exact hg (hstride rfl)
  | _ => trivial

namespace Graph.Path

variable {g : Graph} {a b : Lifecycle} {states : List Lifecycle}

/-- A graph that is only ever made available is so once at most. -/
theorem promoted (h : g.Path a states b) (hstates : ∀ state ∈ states, state = .available) :
    (states = [] ∧ b = a) ∨ (a = .unavailable ∧ states = [.available] ∧ b = .available) := by
  cases h with
  | nil => exact .inl ⟨rfl, rfl⟩
  | cons he hrest =>
    rw [List.forall_mem_cons] at hstates
    obtain ⟨rfl, hlater⟩ := hstates
    cases he with
    | opened =>
      cases hrest with
      | nil => exact .inr ⟨rfl, rfl, rfl⟩
      | cons he' =>
        rw [List.forall_mem_cons] at hlater
        obtain ⟨rfl, _⟩ := hlater
        cases he'

/-- A graph that can be given up, and is only ever made available or failed, fails at most. -/
theorem abandoned (h : g.Path a states b) (ha : a = .available ∨ a = .inProgress)
    (hstates : ∀ state ∈ states, state = .available ∨ state = .failed) :
    (states = [] ∧ b = a) ∨ (states = [.failed] ∧ b = .failed) := by
  cases h with
  | nil => exact .inl ⟨rfl, rfl⟩
  | cons he hrest =>
    rw [List.forall_mem_cons] at hstates
    rcases hstates.1 with rfl | rfl
    · cases he
      simp at ha
    · have hpath : g.Path a ([] ++ Lifecycle.failed :: _) b := .cons he hrest
      obtain rfl := hpath.after_failed
      cases hrest
      exact .inr ⟨rfl, rfl⟩

end Graph.Path

/-- What acts make of an instance, by the changes of lifecycle and the outcomes on record. -/
structure Instance.Becomes (i : Instance) (acts : List Act) (j : Instance) : Prop where
  graph : j.graph = i.graph
  path : i.graph.Path i.lifecycle (movesOf (acts.flatMap (·.changes)) i.graph.id) j.lifecycle
  unlocked : i.unlocked = true → j.unlocked = true
  named : j.unlocked = true → i.unlocked = true ∨ ∃ o : Outcome, o.kind = .unlockQuest ∧
    o.target = some i.graph.id ∧ o.toTable ∈ acts.flatMap (·.notes)

variable {cfg : Settings} {reported : Outcome → Prop} {s t : Session} {acts : List Act}

theorem Act.onInstance_unlocks (a : Act) {i : Instance} (h : i.unlocked = true) :
    (a.onInstance i).unlocked = true := by
  cases a with
  | applies c o =>
    rw [onInstance, Instance.upon]
    split
    · rfl
    · exact h
  | moves g state | enters g n =>
    unfold onInstance
    dsimp only
    split <;> exact h
  | _ => exact h

namespace Course

theorem becomes (h : Course cfg reported s acts t) {g : String} {i : Instance}
    (hi : s.instance? g = some i) : ∃ j, t.instance? g = some j ∧ i.Becomes acts j := by
  induction h generalizing i with
  | nil s => exact ⟨i, hi, rfl, .nil _, id, .inl⟩
  | @cons s t a acts ha _ ih =>
    have hnext := Act.instance?_run cfg ha g
    rw [hi, Option.map_some] at hnext
    obtain ⟨j, hj, hgraph, hpath, hunlocked, hnamed⟩ := ih hnext
    rw [Act.onInstance_graph] at hgraph hpath hnamed
    refine ⟨j, hj, hgraph, ?_, fun hu => hunlocked (a.onInstance_unlocks hu), fun hu => ?_⟩
    · rw [List.flatMap_cons, movesOf_append]
      rcases a.onInstance_cases i with ⟨hnone, hsame⟩ | ⟨state, rfl, hstate⟩
      · rw [hnone, List.nil_append, ← hsame]
        exact hpath
      · obtain ⟨_, k, hk, hchange⟩ := ha
        cases (Session.id_of_instance? hi ▸ hk).symm.trans hi
        have hone : movesOf (Act.moves i.graph.id state).changes i.graph.id = [state] := by
          simp [movesOf, Act.changes, Value.text?]
        rw [hone]
        exact .cons (.of_change hchange) (hstate ▸ hpath)
    · rw [List.flatMap_cons]
      rcases hnamed hu with hbefore | ⟨o, hkind, htarget, hnoted⟩
      · refine (Act.onInstance_unlocked hbefore).imp_right ?_
        rintro ⟨c, o, rfl, hkind, htarget⟩
        exact ⟨o, hkind, htarget, List.mem_append_left _ (List.mem_singleton_self _)⟩
      · exact .inr ⟨o, hkind, htarget, List.mem_append_right _ hnoted⟩

/-- Where a graph is at most made available it stays where it is. -/
theorem activeNode_kept (h : Course cfg reported s acts t) (hs : s.Agrees) (hsound : s.Sound)
    {g : String} {i : Instance} (hi : s.instance? g = some i) (hacts : ∀ a ∈ acts, a.Spares g) :
    ∃ j, t.instance? g = some j ∧ j.activeNode = i.activeNode := by
  refine (h.keepsAmong (I := fun u => u.Agrees ∧ u.Sound ∧
      ∃ j, u.instance? g = some j ∧ j.activeNode = i.activeNode) hacts ?_
    ⟨hs, hsound, i, hi, rfl⟩).2.2
  rintro a u ⟨hu, husound, j, hj, hsame⟩ hspares ha
  refine ⟨hu.run husound ha, husound.congr (Act.graphs_run ha), a.onInstance j, ?_, ?_⟩
  · rw [Act.instance?_run cfg ha, hj]
    rfl
  rw [← hsame]
  cases a with
  | applies c o => exact j.upon_activeNode o
  | moves k state =>
    rw [Act.onInstance]
    split
    next hk =>
      obtain rfl : k = g := hk ▸ Session.id_of_instance? hj
      obtain rfl := hspares rfl
      obtain ⟨_, j', hj', hchange⟩ := ha
      cases hj'.symm.trans hj
      -- a graph that becomes available has been unavailable, so no node has been active
      cases hchange with
      | opened hlife =>
        exact ((hu.placed j (Session.mem_of_instance? hj)).inactive (by simp [hlife])).symm
    next => rfl
  | enters k n =>
    rw [Act.onInstance, if_neg]
    rintro hk
    exact hspares (hk ▸ Session.id_of_instance? hj)
  | _ => rfl

end Course

namespace Call

/-- The graphs that a request is about: its own, and the one that its choice leads to. -/
def Concerns (s : Session) (g : String) : Call → Prop
  | .start h | .abandon h => h = g
  | .choose h choice => h = g ∨ ∃ i n c, s.Faces h choice i n c ∧ c.next = .graph g
  | _ => False

/-- The script of a request is about the graphs that the request is about. -/
theorem Script.within {c : Call} {script : List Act} (h : c.Script s script) :
    ∀ a ∈ script, a.Within fun g => c.Concerns s g := by
  cases c with
  | start g =>
    obtain ⟨i, hi, hbegins⟩ := h
    exact hbegins.within (Session.id_of_instance? hi).symm
  | choose g choice =>
    obtain ⟨i, n, c, hfaces, _, hfollows⟩ := h
    exact hfollows.within (.inl (Session.id_of_instance? hfaces.found).symm)
      fun id hnext => .inr ⟨i, n, c, hfaces, hnext⟩
  | abandon g =>
    obtain ⟨i, hi, rfl⟩ := h
    exact Graph.failing_within (Session.id_of_instance? hi).symm
  | external reports source =>
    obtain ⟨outcomes, _, rfl⟩ := h
    exact Cause.script_within _ _
  | _ => exact h.elim

end Call

namespace Step

/-- A graph that is neither available nor in progress cannot be given up. -/
theorem abandon_refused {g : String} (h : ∀ i, s.instance? g = some i →
    ¬ (i.lifecycle = .available ∨ i.lifecycle = .inProgress)) : Blocked (abandon cfg g) s := by
  rw [abandon_eq]
  exact .looked (looks_abandonable g) fun i ⟨hi, hlife⟩ => absurd hlife (h i hi)

end Step

/-- A request has been carried out, as far as it has got. -/
structure Call.Performs (cfg : Settings) (c : Call) (s : Session) (acts : List Act) (t : Session) :
    Prop where
  course : Course cfg c.Reports s acts t
  closed : t.pending = none
  within : ∀ a ∈ outline acts, a.Within fun g => c.Concerns s g
  abandoned : ∀ g, c = .abandon g → ∃ i, s.instance? g = some i ∧
    (i.lifecycle = .available ∨ i.lifecycle = .inProgress) ∧ outline acts = i.graph.failing

theorem Handles.asked_or_scripted {x : Step Resolution} {entry : EntryKind × Option String}
    {script : List Act → Prop} {refuses : IllegalChoice → Prop}
    (hx : Handles cfg reported x s entry script refuses) (hidle : s.pending = none) :
    Asked s (after x s) ∨ ∃ acts, Course cfg reported s acts (after x s) ∧
      (after x s).pending = none ∧ script (outline acts) := by
  refine Ends.after (P := fun t => Asked s t ∨ ∃ acts, Course cfg reported s acts t ∧
    t.pending = none ∧ script (outline acts)) (Ends.mono hx ?_ ?_)
  · rintro _ t ⟨acts, hc, hrequest, hl, _⟩
    exact .inr ⟨acts, hc, hrequest.closed hidle, hl⟩
  · rintro _ t ⟨acts, hc, hrequest, ⟨hasked, _⟩ | ⟨_, hl, _⟩⟩
    · exact .inl hasked
    · exact .inr ⟨acts, hc, hrequest.closed hidle, hl⟩

/-- A request comes to nothing, or it is carried out, perhaps not to its end. -/
theorem Engine.Consistent.performs (cfg : Settings) {graphs : List Graph} {e : Engine}
    (h : e.Consistent graphs) {c : Call} (hc : c.isRequest = true ∨ c = .refresh)
    (hidle : e.session.pending = none) : Asked e.session (c.after cfg e).session ∨
      ∃ acts, c.Performs cfg e.session acts (c.after cfg e).session := by
  cases c with
  | start g =>
    rw [Call.session_start]
    have hstart : Handles cfg (Call.start g).Reports _ e.session _ _ _ :=
      Step.handles_start h.agrees h.sound g
    refine (hstart.asked_or_scripted hidle).imp_right fun ⟨acts, hcourse, hclosed, hl⟩ => ?_
    exact ⟨acts, hcourse, hclosed, Call.Script.within (c := .start g) hl, nofun⟩
  | choose g choice =>
    rw [Call.session_choose]
    have hchoose : Handles cfg (Call.choose g choice).Reports _ e.session _ _ _ :=
      Step.handles_choose h.agrees h.sound g choice
    refine (hchoose.asked_or_scripted hidle).imp_right fun ⟨acts, hcourse, hclosed, hl⟩ => ?_
    exact ⟨acts, hcourse, hclosed, Call.Script.within (c := .choose g choice) hl, nofun⟩
  | abandon g =>
    rw [Call.session_abandon]
    by_cases hlife : ∃ i, e.session.instance? g = some i ∧
        (i.lifecycle = .available ∨ i.lifecycle = .inProgress)
    case neg =>
      exact .inl (Step.abandon_refused fun i hi hlife' => hlife ⟨i, hi, hlife'⟩).asked
    case pos =>
      obtain ⟨i, hi, hlife⟩ := hlife
      have habandon : Handles cfg (Call.abandon g).Reports _ e.session _ _ _ :=
        Step.handles_abandon h.agrees h.sound g
      refine (habandon.asked_or_scripted hidle).imp_right fun ⟨acts, hcourse, hclosed, hl⟩ => ?_
      refine ⟨acts, hcourse, hclosed, Call.Script.within (c := .abandon g) hl, fun k hk => ?_⟩
      cases hk
      obtain ⟨j, hj, hl⟩ := hl
      exact ⟨j, hj, Option.some.inj (hi.symm.trans hj) ▸ hlife, hl⟩
  | external reports source =>
    rcases Call.session_external cfg e reports source with hsame | ⟨outcomes, hread, happlied⟩
    · exact .inl (hsame ▸ .refl _)
    · rw [happlied]
      have hscripted {acts : List Act} (hl : outline acts = Cause.report.script outcomes) :
          (Call.external reports source).Script e.session (outline acts) := ⟨outcomes, hread, hl⟩
      have hentry : Plays cfg (Call.external reports source).Reports _ e.session _ _ :=
        Step.plays_applyAsEntry h.agrees h.sound
          (fun o ho => ⟨reports, source, outcomes, rfl, hread, ho⟩) (some source)
      refine Ends.after (P := fun t => Asked e.session t ∨
          ∃ acts, (Call.external reports source).Performs cfg e.session acts t)
        (Ends.mono hentry ?_ ?_)
      · rintro _ t ⟨acts, hcourse, hrequest, hl, _⟩
        exact .inr ⟨acts, hcourse, hrequest.closed hidle, (hscripted hl).within, nofun⟩
      · rintro _ t ⟨_, _, _, _, rfl⟩
        exact .inl (.refl _)
  | refresh =>
    rw [Call.session_refresh]
    have hentry : Plays cfg Call.refresh.Reports _ e.session _ _ :=
      Step.plays_refresh h.agrees h.sound
    refine Ends.after (P := fun t => Asked e.session t ∨
      ∃ acts, Call.refresh.Performs cfg e.session acts t) (Ends.mono hentry ?_ ?_)
    · rintro _ t ⟨acts, hcourse, hrequest, hl⟩
      exact .inr ⟨acts, hcourse, hrequest.closed hidle, by simp [hl], nofun⟩
    · rintro _ t ⟨acts, hcourse, hrequest, rfl | hl⟩
      · exact .inl (.refl _)
      · exact .inr ⟨acts, hcourse, hrequest.closed hidle, by simp [hl], nofun⟩
  | _ => simp [Call.isRequest] at hc

/-- The states that a graph comes to by what entries tell. -/
def statesTold (told : List Entry) (g : String) : List Lifecycle :=
  movesOf (told.flatMap (·.transitions)) g

/-- What a request may make of an instance, by the entries that it adds to the log.  A graph that
the request does not concern can only become available, and one that is given up can only fail. -/
structure Call.Confines (c : Call) (s : Session) (told : List Entry) (i j : Instance) : Prop where
  graph : j.graph = i.graph
  path : i.graph.Path i.lifecycle (statesTold told i.graph.id) j.lifecycle
  activeNode : ¬ c.Concerns s i.graph.id → j.activeNode = i.activeNode
  elsewhere : ¬ c.Concerns s i.graph.id →
    (statesTold told i.graph.id = [] ∧ j.lifecycle = i.lifecycle) ∨
      (i.lifecycle = .unavailable ∧ statesTold told i.graph.id = [.available] ∧
        j.lifecycle = .available)
  abandoned : c = .abandon i.graph.id →
    (statesTold told i.graph.id = [] ∧ j.lifecycle = i.lifecycle) ∨
      (statesTold told i.graph.id = [.failed] ∧ j.lifecycle = .failed)
  unlocked : i.unlocked = true → j.unlocked = true
  named : j.unlocked = true → i.unlocked = true ∨ ∃ o : Outcome, o.kind = .unlockQuest ∧
    o.target = some i.graph.id ∧ o.toTable ∈ told.flatMap (·.outcomes)

theorem Call.Confines.idle (c : Call) (s : Session) (i : Instance) : c.Confines s [] i i :=
  ⟨rfl, .nil _, fun _ => rfl, fun _ => .inl ⟨rfl, rfl⟩, fun _ => .inl ⟨rfl, rfl⟩, id, .inl⟩

theorem mem_statesTold {told : List Entry} {g : String} {state : Lifecycle}
    (htold : told.flatMap (·.transitions) = acts.flatMap (·.changes))
    (h : state ∈ statesTold told g) : .moves g state ∈ acts := by
  unfold statesTold movesOf at h
  rw [htold, List.mem_filterMap] at h
  obtain ⟨⟨v, state'⟩, hmem, hstate⟩ := h
  obtain ⟨a, ha, hchange⟩ := List.mem_flatMap.1 hmem
  cases a with
  | moves k state'' =>
    cases List.mem_singleton.1 hchange
    by_cases hk : k = g
    · simp_all [Value.text?]
    · simp [Value.text?, hk] at hstate
  | _ => cases hchange

/-- What has been performed confines every instance. -/
theorem Call.Performs.confines {c : Call} (h : c.Performs cfg s acts t) (hs : s.Agrees)
    (hsound : s.Sound) (hidle : s.pending = none) : ∃ told,
      t.log.entries = s.log.entries ++ told ∧
      ∀ g i, s.instance? g = some i → ∃ j, t.instance? g = some j ∧ c.Confines s told i j := by
  obtain ⟨told, hlog, htransitions, houtcomes⟩ := h.course.told hidle h.closed
  refine ⟨told, hlog, fun g i hi => ?_⟩
  obtain ⟨j, hj, hgraph, hpath, hunlocked, hnamed⟩ := h.course.becomes hi
  have hid := Session.id_of_instance? hi
  subst hid
  rw [← htransitions] at hpath
  rw [← houtcomes] at hnamed
  have hspares (hno : ¬ c.Concerns s i.graph.id) : ∀ a ∈ acts, a.Spares i.graph.id :=
    spares_of_outline h.within hno
  refine ⟨j, hj, hgraph, hpath, fun hno => ?_, fun hno => ?_, fun habandon => ?_, hunlocked, hnamed⟩
  · obtain ⟨k, hk, hsame⟩ := h.course.activeNode_kept hs hsound hi (hspares hno)
    cases hj.symm.trans hk
    exact hsame
  · exact hpath.promoted fun state hstate =>
      hspares hno _ (mem_statesTold htransitions hstate) rfl
  · obtain ⟨k, hk, hlife, hscript⟩ := h.abandoned _ habandon
    cases hi.symm.trans hk
    refine hpath.abandoned hlife fun state hstate => ?_
    have hmoved := mem_statesTold htransitions hstate
    by_cases hstride : state = .available
    · exact .inl hstride
    · -- of the script only its first act moves the graph
      have hmem : Act.moves i.graph.id state ∈ i.graph.failing :=
        hscript ▸ List.mem_filter.2 ⟨hmoved, by simpa [Act.isStride] using hstride⟩
      rcases List.mem_cons.1 hmem with heq | hmem
      · cases heq
        exact .inr rfl
      · obtain ⟨o, _, ho⟩ := List.mem_map.1 hmem
        cases ho

/-- A request touches only its own graphs, whatever fails on the way.  Other graphs stay where they
are and at most become available; a graph that is given up fails; and a graph is only unlocked by an
outcome that names it, of which the log tells. -/
theorem requests_confined (cfg : Settings) {graphs : List Graph} {host : Host} {clock : Clock}
    {built : Engine} (hbuilt : Engine.ofGraphs graphs host clock = .ok built) (calls : List Call)
    {c : Call} (hc : c.isRequest = true ∨ c = .refresh) :
    let s := (built.afterAll cfg calls).session
    let t := (c.after cfg (built.afterAll cfg calls)).session
    t.graphs = s.graphs ∧ ∃ told, t.log.entries = s.log.entries ++ told ∧
      ∀ g i, s.instance? g = some i → ∃ j, t.instance? g = some j ∧ c.Confines s told i j := by
  intro s t
  have h := (Engine.Consistent.ofGraphs hbuilt).afterAll cfg calls
  have hgraphs : t.graphs = s.graphs := by
    refine h.graphs_after cfg fun more hmore => ?_
    simp [hmore, Call.isRequest] at hc
  have hasked (ht : Asked s t) : ∃ told, t.log.entries = s.log.entries ++ told ∧
      ∀ g i, s.instance? g = some i → ∃ j, t.instance? g = some j ∧ c.Confines s told i j := by
    obtain ⟨outages, ht⟩ := ht
    rw [ht]
    exact ⟨[], (List.append_nil _).symm, fun g i hi => ⟨i, hi, .idle c s i⟩⟩
  refine ⟨hgraphs, ?_⟩
  cases hp : s.pending with
  | some p =>
    have hplay : c.isPlay = true ∧ ∀ host, c ≠ .turn host := by
      cases c <;> simp_all [Call.isRequest, Call.isPlay]
    exact hasked (h.asked_of_open cfg hplay.1 hplay.2 (Option.isSome_iff_exists.2 ⟨p, hp⟩))
  | none =>
    rcases h.performs cfg hc hp with ht | ⟨acts, hperforms⟩
    · exact hasked ht
    · exact hperforms.confines h.agrees h.sound hp

/-- The errand is given up while nobody can tell whether the player has a badge.  The reward stays
as it is. -/
theorem requests_confined_errand :
    let e := (Engine.fresh .errand {}).afterAll .builtIn
      [.newGame false, .start "errand", .turn (({} : Host).breakService .hasItem none)]
    let c := Call.abandon "errand"
    (∃ graphs, Engine.ofGraphs graphs {} (.ticking 0 1) = .ok (.fresh .errand {})) ∧
    c.isRequest = true ∧ ∃ told i j, e.session.instance? "reward" = some i ∧
      (c.after .builtIn e).session.instance? "reward" = some j ∧
      ¬ c.Concerns e.session "reward" ∧ c.Confines e.session told i j := by
  intro e c
  obtain ⟨graphs, _, hbuilt⟩ := Engine.ofGraphs_fresh {}
    (show (Content.load .builtIn .errand []).toOption.isSome = true by decide +kernel)
  obtain ⟨-, told, -, hconfined⟩ := requests_confined .builtIn hbuilt
    [.newGame false, .start "errand", .turn (({} : Host).breakService .hasItem none)]
    (c := c) (.inl rfl)
  have hlisted : (e.session.instance? "reward").isSome = true := by decide +kernel
  obtain ⟨i, hi⟩ := Option.isSome_iff_exists.1 hlisted
  obtain ⟨j, hj, hij⟩ := hconfined "reward" i hi
  exact ⟨⟨graphs, hbuilt⟩, rfl, told, i, j, hi, hj, by simp [c, Call.Concerns], hij⟩

end Questline
