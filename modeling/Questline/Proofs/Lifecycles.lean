import Questline.Proofs.Games
import Questline.Proofs.Transitions

/-! The lifecycles of graphs over a whole game, from its first entry on. -/

namespace Questline

/-- How a call may change the lifecycle of a graph, at a moment of a game. -/
inductive Call.Changes (c : Call) (s : Session) (i : Instance) : Lifecycle → Prop
  | opened : i.lifecycle = .unavailable → (i.graph.locked = false ∨ s.Named i.graph.id) →
      (∀ r ∈ i.graph.requirements, r.holds s.ledger s.host = true) → Changes c s i .available
  | started : i.lifecycle = .available → Changes c s i .inProgress
  | restarted : i.lifecycle = .completed → i.graph.repeatable = true → Changes c s i .inProgress
  | completed : i.lifecycle = .inProgress → Changes c s i .completed
  | failed : i.lifecycle = .inProgress → Changes c s i .failed
  | abandoned : i.lifecycle = .available → c = .abandon i.graph.id → Changes c s i .failed

/-- Calls one after the other, each with the acts that it is made of. -/
inductive Story (cfg : Settings) : Session → List (Call × List Act) → Session → Prop
  | nil (s : Session) : Story cfg s [] s
  | cons {s t u : Session} {c : Call} {acts : List Act} {story : List (Call × List Act)} :
      c.Does cfg s acts t → Story cfg t story u → Story cfg s ((c, acts) :: story) u

def actsOf (story : List (Call × List Act)) : List Act := story.flatMap Prod.snd

/-- What the lifecycles of graphs have to obey in a story. -/
structure Orderly (cfg : Settings) (s : Session) (story : List (Call × List Act)) (t : Session) :
    Prop where
  changes : ∀ earlier c as g state bs later,
    story = earlier ++ (c, as ++ .moves g state :: bs) :: later →
    ∃ u i, Course cfg (fun _ => True) s (actsOf earlier ++ as) u ∧
      u.instance? g = some i ∧ c.Changes u i state
  recorded : t.log.changes = (actsOf story).flatMap (·.changes)
  path : ∀ i ∈ t.instances,
    i.graph.Path .unavailable (movesOf t.log.changes i.graph.id) i.lifecycle
  final : ∀ g as bs, actsOf story = as ++ .moves g .failed :: bs → ∀ state, .moves g state ∉ bs
  once : ∀ g ∈ s.graphs, g.repeatable = false →
    (actsOf story).countP (Act.isMove g.id .completed) ≤ 1
  fires : ∀ g ∈ s.graphs, Act.fired (.completion g.id) (actsOf story) =
    (List.replicate ((actsOf story).countP (Act.isMove g.id .completed)) g.completion).flatten
  locked : ∀ i ∈ t.instances, i.graph.locked = true → ¬ t.Named i.graph.id →
    i.lifecycle = .unavailable

variable {cfg : Settings} {reported reported' : Outcome → Prop} {s t u : Session}
variable {acts : List Act} {story earlier later : List (Call × List Act)}

theorem Course.mono (h : Course cfg reported s acts t) (hr : ∀ o, reported o → reported' o) :
    Course cfg reported' s acts t := by
  have lawful {s : Session} {a : Act} (ha : a.Lawful reported s) : a.Lawful reported' s := by
    cases a with
    | applies c o =>
      refine ⟨ha.1, ?_⟩
      have ho := ha.2
      cases c with
      | report => exact hr o ho
      | _ => exact ho
    | _ => exact ha
  induction h with
  | nil s => exact .nil s
  | cons ha _ ih => exact .cons (lawful ha) ih

theorem Act.mem_opening? {a : Act} (ha : a.Lawful reported s) {p : Pending}
    (hp : (a.run cfg s).pending = some p) :
    (∃ q, s.pending = some q ∧ q.kind = p.kind ∧ q.graph = p.graph) ∨
      a.opening? = some (p.kind, p.graph) := by
  by_cases hinner : a.isInner = true
  · obtain ⟨f, hf, hcont⟩ := a.pending_run cfg hinner s
    rw [hf, Option.map_eq_some_iff] at hp
    obtain ⟨q, hq, rfl⟩ := hp
    exact .inl ⟨q, hq, (hcont q).kind.symm, (hcont q).graph.symm⟩
  have hmakes := makes cfg ha
  generalize a.run cfg s = t at hmakes hp
  cases hmakes with
  | opens =>
    cases hp
    exact .inr rfl
  | closes | drops => cases hp
  | turns => exact .inl ⟨p, hp, rfl, rfl⟩
  | remarks =>
    obtain ⟨q, hq, rfl⟩ := Option.map_eq_some_iff.1 hp
    exact .inl ⟨q, hq, rfl, rfl⟩
  | _ => exact absurd rfl hinner

/-- An entry that is open has been opened. -/
theorem Course.mem_opening? (h : Course cfg reported s acts t) {p : Pending}
    (hp : t.pending = some p) :
    (∃ q, s.pending = some q ∧ q.kind = p.kind ∧ q.graph = p.graph) ∨
      (p.kind, p.graph) ∈ acts.filterMap Act.opening? := by
  induction h with
  | nil => exact .inl ⟨p, hp, rfl, rfl⟩
  | cons ha _ ih =>
    rw [List.filterMap_cons]
    rcases ih hp with ⟨q, hq, hkind, hgraph⟩ | hmem
    · rcases Act.mem_opening? ha hq with hbefore | hopens
      · rw [hkind, hgraph] at hbefore
        exact .inl hbefore
      · rw [hopens, hkind, hgraph]
        exact .inr List.mem_cons_self
    · refine .inr ?_
      split
      · exact hmem
      · exact List.mem_cons_of_mem _ hmem

theorem Call.eq_abandon {c : Call} {g : String}
    (h : (EntryKind.abandon, some g) ∈ c.entries cfg) : c = .abandon g := by
  cases c <;> simp_all [entries]

namespace Story

theorem split (h : Story cfg s (earlier ++ later) u) :
    ∃ t, Story cfg s earlier t ∧ Story cfg t later u := by
  induction earlier generalizing s with
  | nil => exact ⟨s, .nil s, h⟩
  | cons p earlier ih =>
    cases h with
    | cons hdoes h =>
      obtain ⟨t, h₁, h₂⟩ := ih h
      exact ⟨t, .cons hdoes h₁, h₂⟩

theorem course (h : Story cfg s story t) : Course cfg (fun _ => True) s (actsOf story) t := by
  induction h with
  | nil s => exact .nil s
  | cons hdoes _ ih => exact (hdoes.course.mono fun _ _ => trivial).append ih

theorem closed (h : Story cfg s story t) (hs : s.pending = none) : t.pending = none := by
  induction h with
  | nil => exact hs
  | cons hdoes _ ih => exact ih hdoes.closed

theorem balanced (h : Story cfg s story t) : Balanced s.graphs (actsOf story) := by
  induction h with
  | nil => exact .nil
  | cons hdoes _ ih => exact hdoes.balanced.append (hdoes.course.graphs ▸ ih)

/-- Every change of a lifecycle in a story is one that the call at that moment may make. -/
theorem changes (h : Story cfg s story t) (hsound : s.Sound) (hcharted : s.Charted)
    (hidle : s.pending = none) {c : Call} {as bs : List Act} {g : String} {state : Lifecycle}
    (hstory : story = earlier ++ (c, as ++ .moves g state :: bs) :: later) :
    ∃ u i, Course cfg (fun _ => True) s (actsOf earlier ++ as) u ∧
      u.instance? g = some i ∧ c.Changes u i state := by
  subst hstory
  obtain ⟨s', hearlier, hlater⟩ := h.split
  cases hlater with
  | cons hdoes _ =>
  obtain ⟨u, hu, ⟨_, i, hi, hchange⟩, _⟩ := hdoes.course.moment
  have hmoment := hearlier.course.append (hu.mono fun _ _ => trivial)
  refine ⟨u, i, hmoment, hi, ?_⟩
  cases hchange with
  | opened hlife hready hmet =>
    refine .opened hlife (hready.imp_right fun hunlocked => ?_) hmet
    exact (hcharted.course hsound hmoment).named i (Session.mem_of_instance? hi) hunlocked
  | started hlife => exact .started hlife
  | restarted hlife hrep => exact .restarted hlife hrep
  | completed hlife => exact .completed hlife
  | failed hlife => exact .failed hlife
  | abandoned hlife hp hkind hgraph =>
    -- the open entry is one that this very call has opened, since none was open before it
    refine .abandoned hlife (Call.eq_abandon (hdoes.opens.subset ?_))
    rw [List.filterMap_append, ← hkind, ← hgraph]
    refine List.mem_append_left _ ((hu.mem_opening? hp).resolve_left ?_)
    simp [hearlier.closed hidle]

theorem logged (h : Story cfg s story t) (hfresh : s.changes = []) (hidle : s.pending = none) :
    t.log.changes = (actsOf story).flatMap (·.changes) := by
  have hchanges := h.course.changes_eq
  rw [hfresh, List.nil_append, Session.changes, h.closed hidle] at hchanges
  exact (List.append_nil _).symm.trans hchanges

theorem path (h : Story cfg s story t) (hsound : s.Sound) (hcharted : s.Charted)
    (hidle : s.pending = none) {i : Instance} (hi : i ∈ t.instances) :
    i.graph.Path .unavailable (movesOf t.log.changes i.graph.id) i.lifecycle := by
  have hpath := (hcharted.course hsound h.course).path i hi
  rwa [Session.changes, h.closed hidle, Option.elim_none, List.append_nil] at hpath

/-- A graph that has failed is not moved again, since no path goes on from there. -/
theorem final (h : Story cfg s story t) (hsound : s.Sound) (hcharted : s.Charted)
    (hfresh : s.changes = []) (hidle : s.pending = none) {g : String} {as bs : List Act}
    (hacts : actsOf story = as ++ .moves g .failed :: bs) (state : Lifecycle) :
    .moves g state ∉ bs := by
  intro hlater
  have hcourse := h.course
  rw [hacts] at hcourse
  obtain ⟨u, _, ⟨_, i, hi, _⟩, hrest⟩ := hcourse.moment
  obtain ⟨j, hj, hgraph⟩ : ∃ j ∈ t.instances, j.graph = i.graph := by
    have hmem : i.graph ∈ t.graphs := by
      rw [hrest.graphs, Session.graphs, Act.run_moves]
      refine List.mem_map.2 ⟨_, List.mem_map_of_mem (Session.mem_of_instance? hi), ?_⟩
      split <;> rfl
    exact List.mem_map.1 hmem
  have hid := Session.id_of_instance? hi
  have hpath := h.path hsound hcharted hidle hj
  rw [h.logged hfresh hidle, hacts, List.flatMap_append, List.flatMap_cons, movesOf_append,
    movesOf_append, hgraph, hid] at hpath
  have hnone : movesOf (bs.flatMap (·.changes)) g = [] := by
    have hone : movesOf (Act.moves g .failed).changes g = [.failed] := by
      simp [movesOf, Act.changes, Value.text?]
    exact Graph.Path.after_failed (hone ▸ hpath)
  have hsome : state ∈ movesOf (bs.flatMap (·.changes)) g := by
    refine List.mem_filterMap.2 ⟨(.text g, state), ?_, by simp [Value.text?]⟩
    exact List.mem_flatMap.2 ⟨_, hlater, List.mem_singleton_self _⟩
  simp [hnone] at hsome

theorem once (h : Story cfg s story t) (hsound : s.Sound) (hcharted : s.Charted)
    (hfresh : s.changes = []) (hidle : s.pending = none) {g : Graph} (hg : g ∈ s.graphs)
    (hrep : g.repeatable = false) : (actsOf story).countP (Act.isMove g.id .completed) ≤ 1 := by
  have hmem : g ∈ t.graphs := h.course.graphs ▸ hg
  obtain ⟨j, hj, rfl⟩ := List.mem_map.1 hmem
  have hcount := (h.path hsound hcharted hidle hj).count_completed hrep
  rw [h.logged hfresh hidle, count_movesOf] at hcount
  exact hcount

theorem orderly (h : Story cfg s story t) (hsound : s.Sound) (hcharted : s.Charted)
    (hfresh : s.changes = []) (hidle : s.pending = none) : Orderly cfg s story t where
  changes _ _ _ _ _ _ _ hstory := h.changes hsound hcharted hidle hstory
  recorded := h.logged hfresh hidle
  path _ hi := h.path hsound hcharted hidle hi
  final _ _ _ hacts := h.final hsound hcharted hfresh hidle hacts
  once _ hg hrep := h.once hsound hcharted hfresh hidle hg hrep
  fires := h.balanced
  locked i hi hlocked hnamed := by
    by_contra hlife
    exact hnamed ((hcharted.course hsound h.course).locked i hi hlocked hlife)

end Story

namespace Engine

variable {graphs : List Graph} {e : Engine}

theorem Consistent.tells (cfg : Settings) (h : e.Consistent graphs)
    (hidle : e.session.pending = none)
    {plays : List Call} (hplays : ∀ c ∈ plays, c.isPlay = true) :
    ∃ story : List (Call × List Act), story.map Prod.fst = plays ∧
      ∀ n, Story cfg e.session (story.take n) (e.afterAll cfg (plays.take n)).session := by
  induction plays generalizing e with
  | nil => exact ⟨[], rfl, fun n => by simpa using .nil _⟩
  | cons c rest ih =>
    rw [List.forall_mem_cons] at hplays
    obtain ⟨acts, hdoes⟩ := h.does cfg hidle hplays.1
    obtain ⟨story, hcalls, hstory⟩ := ih (h.after c) hdoes.closed hplays.2
    refine ⟨(c, acts) :: story, by simp [hcalls], fun n => ?_⟩
    cases n with
    | zero => exact .nil _
    | succ n => exact .cons hdoes (hstory n)

end Engine

/-- Whatever has happened to an engine, once a new game has begun the lifecycle of every graph goes
on in order, whatever services fail in the meantime. -/
theorem lifecycles_orderly (cfg : Settings) {graphs : List Graph} {host : Host} {clock : Clock}
    {e e' : Engine} (h : Engine.ofGraphs graphs host clock = .ok e) (before : List Call)
    {startMain : Bool} {r : Option Resolution}
    (hbegun : Engine.newGame cfg startMain (e.afterAll cfg before) = .ok r e')
    {plays : List Call} (hplays : ∀ c ∈ plays, c.isPlay = true) :
    ∃ story : List (Call × List Act), story.map Prod.fst = .newGame startMain :: plays ∧
      (∀ n, Story cfg (e.afterAll cfg before).forget.session (story.take (n + 1))
        (e'.afterAll cfg (plays.take n)).session) ∧
      Orderly cfg (e.afterAll cfg before).forget.session story
        (e'.afterAll cfg plays).session := by
  have hc := (Engine.Consistent.ofGraphs h).afterAll cfg before
  obtain ⟨first, hfirst⟩ := hc.does_newGame hbegun
  have hc' : e'.Consistent graphs := by
    have hnext := hc.newGame cfg startMain
    rwa [Questline.after, hbegun] at hnext
  obtain ⟨story, hcalls, hstory⟩ := hc'.tells cfg hfirst.closed hplays
  refine ⟨(.newGame startMain, first) :: story, by simp [hcalls],
    fun n => .cons hfirst (hstory n), ?_⟩
  have hlength : story.length = plays.length := by simp [← hcalls]
  have hwhole := Story.cons hfirst (hstory plays.length)
  rw [List.take_length, ← hlength, List.take_length] at hwhole
  have hidle := Engine.pending_of_newGame hbegun
  have hnothing : (e.afterAll cfg before).forget.session.changes = [] := by
    change [] ++ (e.afterAll cfg before).session.pending.elim _ _ = _
    rw [hidle]
    rfl
  refine hwhole.orderly hc.forget.sound (.fresh hnothing fun i hi => ?_) hnothing hidle
  obtain ⟨j, _, rfl⟩ := List.mem_map.1 hi
  exact ⟨rfl, rfl⟩

/-- The patrol is walked and given up in between, while the host cannot tell where the player is. -/
theorem lifecycles_orderly_patrol :
    let plays : List Call := [.start "patrol", .choose "patrol" "walk",
      .turn (({} : Host).breakService .currentLocation none), .choose "patrol" "again",
      .choose "patrol" "walk", .abandon "patrol"]
    ∃ e r e' story, Engine.ofGraphs [.patrol] {} (.ticking 0 1) = .ok e ∧
      Engine.newGame .builtIn false (e.afterAll .builtIn []) = .ok r e' ∧
      story.map Prod.fst = .newGame false :: plays ∧
      Orderly .builtIn (e.afterAll .builtIn []).forget.session story
        (e'.afterAll .builtIn plays).session := by
  intro plays
  have h := Engine.ofGraphs_patrol {} (.ticking 0 1)
  have hbegins : (match Engine.newGame .builtIn false
      { session := { Session.start {} (.ticking 0 1) with
        instances := [{ graph := .patrol }] } } with
    | .ok _ _ => true
    | .error _ _ => false) = true := by decide +kernel
  split at hbegins
  next r e' hbegun =>
    obtain ⟨story, hcalls, _, horderly⟩ :=
      lifecycles_orderly .builtIn h [] hbegun (show ∀ c ∈ plays, c.isPlay = true by decide)
    exact ⟨_, r, e', story, h, hbegun, hcalls, horderly⟩
  next => cases hbegins

end Questline
