import Questline.Proofs.Closing
import Questline.Proofs.Entries
import Questline.Proofs.Interruptions
import Questline.Proofs.Lifecycles
import Questline.Proofs.Queries

/-! What can still happen once the story is over.  Requests and reports are turned down, and nothing
acts on the rest of the game any more.  All that goes on is that graphs become available, each of
them once, as the log tells. -/

namespace Questline

/-- An instance after some graphs have become available. -/
def Instance.openedAmong (i : Instance) (opened : List String) : Instance :=
  if i.graph.id ∈ opened then { i with lifecycle := .available } else i

/-- Some graphs have become available, in order, and nothing else has happened to the ledger, the
graphs and the ending. -/
structure Session.Opens (s : Session) (opened : List String) (t : Session) : Prop where
  ending : t.ending = s.ending
  ledger : t.ledger = { s.ledger with
    questState := opened.foldl (fun states g => Assoc.put states (.text g) .available)
      s.ledger.questState }
  instances : t.instances = s.instances.map (·.openedAmong opened)
  waited : ∀ g ∈ opened, ∃ i, s.instance? g = some i ∧ i.lifecycle = .unavailable
  once : opened.Nodup

namespace Instance

theorem openedAmong_nil (i : Instance) : i.openedAmong [] = i := if_neg List.not_mem_nil

@[simp] theorem openedAmong_graph (i : Instance) (opened : List String) :
    (i.openedAmong opened).graph = i.graph := by
  unfold openedAmong
  split <;> rfl

theorem openedAmong_append (i : Instance) (opened more : List String) :
    i.openedAmong (opened ++ more) = (i.openedAmong opened).openedAmong more := by
  by_cases hopened : i.graph.id ∈ opened <;> by_cases hmore : i.graph.id ∈ more <;>
    simp [openedAmong, hopened, hmore]

end Instance

namespace Session.Opens

variable {s t u : Session} {opened more : List String}

theorem of_same (hending : t.ending = s.ending) (hledger : t.ledger = s.ledger)
    (hinstances : t.instances = s.instances) : s.Opens [] t := by
  refine ⟨hending, hledger, ?_, nofun, List.nodup_nil⟩
  rw [hinstances, List.map_congr_left fun i _ => i.openedAmong_nil, List.map_id']

theorem instance? (h : s.Opens opened t) (g : String) :
    t.instance? g = (s.instance? g).map (·.openedAmong opened) := by
  unfold Session.instance?
  rw [h.instances, List.find?_map]
  congr 2
  funext i
  simp

theorem trans (h : s.Opens opened t) (h' : t.Opens more u) : s.Opens (opened ++ more) u := by
  -- a graph that becomes available later has not become so before
  have hwaited : ∀ g ∈ more, g ∉ opened ∧
      ∃ i, s.instance? g = some i ∧ i.lifecycle = .unavailable := by
    intro g hg
    obtain ⟨j, hj, hlife⟩ := h'.waited g hg
    rw [h.instance?, Option.map_eq_some_iff] at hj
    obtain ⟨i, hi, rfl⟩ := hj
    have hid := Session.id_of_instance? hi
    by_cases hopened : g ∈ opened
    · rw [Instance.openedAmong, if_pos (hid.symm ▸ hopened)] at hlife
      cases hlife
    · rw [Instance.openedAmong, if_neg (hid.symm ▸ hopened)] at hlife
      exact ⟨hopened, i, hi, hlife⟩
  constructor
  · exact h'.ending.trans h.ending
  · rw [h'.ledger, h.ledger, List.foldl_append]
  · rw [h'.instances, h.instances, List.map_map]
    exact List.map_congr_left fun i _ => (i.openedAmong_append opened more).symm
  · exact List.forall_mem_append.2 ⟨h.waited, fun g hg => (hwaited g hg).2⟩
  · refine List.nodup_append.2 ⟨h.once, h'.once, ?_⟩
    rintro g hg _ hmore rfl
    exact (hwaited g hmore).1 hg

end Session.Opens

/-- The graph that an act makes available. -/
def Act.opened : Act → List String
  | .moves g _ => [g]
  | _ => []

section Courses

variable {cfg : Settings} {reported : Outcome → Prop} {s t : Session} {acts : List Act}

theorem Act.run_opened {a : Act} (ha : a.Lawful reported s) (hs : s.Agrees) (hsound : s.Sound)
    (hstride : a.isStride = false) : s.Opens a.opened (a.run cfg s) := by
  have hmakes := makes cfg ha
  generalize a.run cfg s = t at hmakes ⊢
  cases hmakes with
  | applies | enters => cases hstride
  | @moves g state =>
    obtain rfl : state = .available := by simpa [isStride] using hstride
    obtain ⟨_, i, hi, hchange⟩ := ha
    cases hchange with
    | opened hlife =>
    refine ⟨rfl, rfl, List.map_congr_left fun j hj => ?_, ?_, List.nodup_singleton g⟩
    · unfold Instance.openedAmong
      simp only [opened, List.mem_singleton]
      split
      next hj' =>
        obtain rfl : j = i := by
          have hfound := Session.instance?_of_mem hsound.distinct hj
          rw [hj', hi] at hfound
          exact (Option.some.inj hfound).symm
        simp [(hs.placed j hj).inactive (by simp [hlife])]
      next => rfl
    · exact List.forall_mem_singleton.2 ⟨i, hi, hlife⟩
  | _ => exact .of_same rfl rfl rfl

/-- Where the story does not go on graphs become available at most. -/
theorem Course.opened (h : Course cfg reported s acts t) (hs : s.Agrees) (hsound : s.Sound)
    (hacts : outline acts = []) : s.Opens (acts.flatMap Act.opened) t := by
  induction h with
  | nil s => exact .of_same rfl rfl rfl
  | @cons s t a acts ha _ ih =>
    rw [outline, List.filter_eq_nil_iff, List.forall_mem_cons] at hacts
    have hfirst : s.Opens a.opened (a.run cfg s) :=
      Act.run_opened ha hs hsound (by simpa using hacts.1)
    have hrest := ih (hs.run hsound ha) (hsound.congr (Act.graphs_run ha))
      (List.filter_eq_nil_iff.2 hacts.2)
    rw [List.flatMap_cons]
    exact hfirst.trans hrest

/-- Where the story does not go on no outcome is noted. -/
theorem notes_of_outline (hacts : outline acts = []) : acts.flatMap (·.notes) = [] := by
  rw [← flatMap_notes_outline, hacts]
  rfl

theorem changes_of_outline (hacts : outline acts = []) :
    acts.flatMap (·.changes) = (acts.flatMap Act.opened).map fun g => (.text g, .available) := by
  rw [outline, List.filter_eq_nil_iff] at hacts
  induction acts with
  | nil => rfl
  | cons a rest ih =>
    rw [List.forall_mem_cons] at hacts
    rw [List.flatMap_cons, List.flatMap_cons, List.map_append, ih hacts.2]
    congr 1
    cases a with
    | moves g state =>
      obtain rfl : state = .available := by simpa [Act.isStride] using hacts.1
      rfl
    | _ => rfl

/-- The entries that acts add to the log are of the kinds that they open. -/
theorem Course.kinds (h : Course cfg reported s acts t) {kind : EntryKind}
    (hidle : s.pending = none) (hopens : ∀ p ∈ acts.filterMap Act.opening?, p.1 = kind)
    {told : List Entry} (htold : t.log.entries = s.log.entries ++ told) :
    ∀ entry ∈ told, entry.kind = kind := by
  have hkinds : (∀ p, t.pending = some p → p.kind = kind) ∧ ∃ told,
      t.log.entries = s.log.entries ++ told ∧ ∀ entry ∈ told, entry.kind = kind := by
    refine h.keepsAmong (I := fun u => (∀ p, u.pending = some p → p.kind = kind) ∧ ∃ told,
      u.log.entries = s.log.entries ++ told ∧ ∀ entry ∈ told, entry.kind = kind)
      (A := fun a => ∀ p, a.opening? = some p → p.1 = kind)
      (fun a ha p hp => hopens p (List.mem_filterMap.2 ⟨a, ha, hp⟩)) ?_
      ⟨fun p hp => (Option.some_ne_none p (hp.symm.trans hidle)).elim, [],
        (List.append_nil _).symm, nofun⟩
    rintro a u ⟨hpending, told, hlog, hkind⟩ hopening ha
    refine ⟨fun p hp => ?_, ?_⟩
    · rcases Act.mem_opening? ha hp with ⟨q, hq, hsame, _⟩ | hopens
      · exact hsame.symm.trans (hpending q hq)
      · exact hopening _ hopens
    · rcases a.run_history cfg ha with ⟨hsame, _⟩ | ⟨p, _, hp, hrun⟩
      · exact ⟨told, hsame ▸ hlog, hkind⟩
      · rw [hrun]
        refine ⟨told ++ [u.entry p], by rw [Session.closed, hlog, List.append_assoc], ?_⟩
        exact List.forall_mem_append.2 ⟨hkind, List.forall_mem_singleton.2 (hpending p hp)⟩
  obtain ⟨_, told', htold', hkind⟩ := hkinds
  exact List.append_cancel_left (htold.symm.trans htold') ▸ hkind

end Courses

/-- Some graphs have become available, as refreshing entries tell, and nothing else has happened. -/
structure Session.Lingers (s : Session) (opened : List String) (told : List Entry) (t : Session) :
    Prop where
  opens : s.Opens opened t
  log : t.log.entries = s.log.entries ++ told
  tells : told.flatMap (·.transitions) = opened.map fun g => (.text g, .available)
  refreshed : ∀ entry ∈ told, entry.kind = .refresh ∧ entry.outcomes = []

namespace Session.Lingers

variable {s t u : Session} {opened more : List String} {told later : List Entry}

theorem refl (s : Session) : s.Lingers [] [] s :=
  ⟨.of_same rfl rfl rfl, (List.append_nil _).symm, rfl, nofun⟩

theorem of_asked (h : Asked s t) : s.Lingers [] [] t := by
  obtain ⟨outages, rfl⟩ := h
  exact ⟨.of_same rfl rfl rfl, (List.append_nil _).symm, rfl, nofun⟩

theorem trans (h : s.Lingers opened told t) (h' : t.Lingers more later u) :
    s.Lingers (opened ++ more) (told ++ later) u := by
  refine ⟨h.opens.trans h'.opens, ?_, ?_, List.forall_mem_append.2 ⟨h.refreshed, h'.refreshed⟩⟩
  · rw [h'.log, h.log, List.append_assoc]
  · rw [List.flatMap_append, h.tells, h'.tells, List.map_append]

theorem of_course {cfg : Settings} {reported : Outcome → Prop} {acts : List Act}
    (h : Course cfg reported s acts t) (hs : s.Agrees) (hsound : s.Sound)
    (hrequest : Request (.refresh, none) s acts t) (hidle : s.pending = none)
    (hacts : outline acts = []) : ∃ opened told, s.Lingers opened told t := by
  obtain ⟨told, hlog, htransitions, houtcomes⟩ := h.told hidle (hrequest.closed hidle)
  rw [notes_of_outline hacts, List.flatMap_eq_nil_iff] at houtcomes
  rw [changes_of_outline hacts] at htransitions
  have hkinds := h.kinds hidle
    (fun p hp => by rw [List.mem_singleton.1 (hrequest.opens.subset hp)]) hlog
  exact ⟨_, told, h.opened hs hsound hacts, hlog, htransitions, fun entry hentry =>
    ⟨hkinds entry hentry, houtcomes entry hentry⟩⟩

end Session.Lingers

section Ended

variable {cfg : Settings} {s : Session} {ending : String × Bool}

theorem run_error_bind {α β : Type} {x : Step α} {f : α → Step β} {why : Fault}
    (h : x s = .error why s) : (x >>= f) s = .error why s := by
  simp only [bind, EStateM.bind, h]

namespace Step

variable (h : s.ending = some ending)
include h

theorem found_ended (g : String) : found g s = .error (.illegal (.storyEnded ending.1)) s := by
  refine run_error_bind ?_
  unfold checkNotEnded
  rw [run_get, h]
  rfl

theorem start_ended (g : String) : start cfg g s = .error (.illegal (.storyEnded ending.1)) s := by
  rw [start_eq]
  exact run_error_bind (run_error_bind (found_ended h g))

theorem abandon_ended (g : String) :
    abandon cfg g s = .error (.illegal (.storyEnded ending.1)) s := by
  rw [abandon_eq]
  exact run_error_bind (run_error_bind (found_ended h g))

theorem choose_ended (g choice : String) :
    choose cfg g choice s = .error (.illegal (.storyEnded ending.1)) s := by
  rw [choose_eq]
  exact run_error_bind (run_error_bind (found_ended h g))

/-- A node is shown without a choice that could be taken, and nobody is asked. -/
theorem present_ended (hs : s.Agrees) {g : String} {i : Instance} (hi : s.instance? g = some i) :
    ∃ shown, present cfg g s = .ok shown s ∧ ∀ n ∈ shown, n.legal = [] := by
  have hlooks : Looks (present cfg g) s (fun shown => ∀ n ∈ shown, n.legal = [])
      fun _ => False := by
    unfold present
    refine ((looks_instanceOf g).mono (fun _ h => h) ?_).andThen fun j hj => ?_
    · rintro _ ⟨_, _, hnone, _⟩
      cases hnone.symm.trans hi
    refine (looks_activeNodeOf (hs.placed j (Session.mem_of_instance? hj))).andThen fun n? _ => ?_
    cases n? with
    | none => exact .pure nofun
    | some n =>
      refine .get_bind ?_
      rw [h]
      refine .pure fun shown hshown => ?_
      cases hshown
      rw [List.filter_eq_nil_iff]
      intro c hc
      obtain ⟨_, _, rfl⟩ := List.mem_map.1 hc
      exact Bool.false_ne_true
  unfold Looks Ends at hlooks
  split at hlooks
  next shown t hrun =>
    obtain ⟨rfl, hshown⟩ := hlooks
    exact ⟨shown, hrun, hshown⟩
  next => exact hlooks.2.elim

end Step

end Ended

/-- How a call comes out once the story is over. -/
structure Call.FallsFlat (cfg : Settings) (e : Engine) (c : Call) : Prop where
  declined : c.isRequest = true → (c.ask cfg e).1.Declines
  shown : ∀ g, c = .present g → ∃ shown, (c.ask cfg e).1 = .presented (.ok shown) ∧
    ∀ n ∈ shown, n.legal = []
  queried : (∀ host, c ≠ .turn host) → e.session.Queried (c.after cfg e).session

namespace Engine

variable {cfg : Settings} {graphs : List Graph} {e : Engine} {ending : String × Bool}

theorem request_ended {x : Step Resolution} {why : Fault}
    (hx : x e.session = .error why e.session) (g : String) (choice : Option String) :
    (request g choice x e).1.accepted = false ∧ (request g choice x e).2.session = e.session := by
  unfold request
  rw [hx]
  exact ⟨rfl, rfl⟩

theorem applyExternal_ended (h : e.session.ending = some ending) (reports : List Report)
    (source : String) : ∃ messages, applyExternal cfg reports source e =
      .ok none { e with diagnostics := e.diagnostics ++ messages } := by
  unfold applyExternal
  rw [run_get, h]
  exact ⟨_, rfl⟩

theorem Consistent.present_ended (hc : e.Consistent graphs) (h : e.session.ending = some ending)
    (g : Option String) : ∃ shown, present cfg g e = .ok shown e ∧ ∀ n ∈ shown, n.legal = [] := by
  unfold present
  rw [run_get]
  cases g.or e.session.currentGraph with
  | none => exact ⟨none, rfl, nofun⟩
  | some graph =>
    dsimp only
    split
    next hlisted =>
      obtain ⟨i, hi⟩ := Option.isSome_iff_exists.1 hlisted
      obtain ⟨shown, hrun, hshown⟩ := Step.present_ended h hc.agrees hi
      exact ⟨shown, by rw [onSession, hrun], hshown⟩
    next => exact ⟨none, rfl, nofun⟩

/-- A request is declined once the story is over, and leaves everything as it is. -/
theorem declines_ended (h : e.session.ending = some ending) {c : Call} (hc : c.isRequest = true) :
    (c.ask cfg e).1.Declines ∧ (c.after cfg e).session = e.session := by
  unfold Call.after
  cases c with
  | start g => exact request_ended (Step.start_ended h g) g none
  | choose g choice => exact request_ended (Step.choose_ended h g choice) g (some choice)
  | abandon g => exact request_ended (Step.abandon_ended h g) g none
  | external reports source =>
    obtain ⟨messages, hanswer⟩ := applyExternal_ended h reports source
    rw [Call.ask, Call.answer_ok hanswer]
    exact ⟨rfl, rfl⟩
  | _ => cases hc

/-- No call but a look at a node or a refreshing pass goes any further once the story is over. -/
theorem Consistent.asked_ended (hc : e.Consistent graphs) (h : e.session.ending = some ending)
    {c : Call} (hplay : c.isPlay = true) (hrefresh : c ≠ .refresh)
    (hturn : ∀ host, c ≠ .turn host) : (c.after cfg e).session = e.session := by
  by_cases hrequest : c.isRequest = true
  · exact (declines_ended h hrequest).2
  unfold Call.after
  cases c with
  | newGame | register | restore => cases hplay
  | start | choose | abandon | external => exact absurd rfl hrequest
  | refresh => exact absurd rfl hrefresh
  | turn host => exact absurd rfl (hturn host)
  | present g =>
    obtain ⟨shown, hrun, _⟩ := hc.present_ended h g
    rw [Call.ask, Call.answer_ok hrun]
  | _ => rfl

theorem Consistent.fallsFlat (cfg : Settings) (hc : e.Consistent graphs)
    (h : e.session.ending = some ending) {c : Call} (hplay : c.isPlay = true) :
    c.FallsFlat cfg e := by
  refine ⟨fun hrequest => (declines_ended h hrequest).1, fun g hg => ?_, fun hturn => ?_⟩
  · obtain ⟨shown, hrun, hshown⟩ := hc.present_ended h g
    subst hg
    exact ⟨shown, by rw [Call.ask, Call.answer_ok hrun], hshown⟩
  · by_cases hrefresh : c = .refresh
    · subst hrefresh
      rw [Call.session_refresh]
      exact Step.refreshed_queried.after e.session
    · rw [hc.asked_ended h hplay hrefresh hturn]
      exact .refl _

theorem Consistent.lingers (cfg : Settings) (hc : e.Consistent graphs)
    (h : e.session.ending = some ending) {c : Call} (hplay : c.isPlay = true) :
    ∃ opened told, e.session.Lingers opened told (c.after cfg e).session := by
  by_cases hturn : ∃ host, c = .turn host
  · obtain ⟨host, rfl⟩ := hturn
    exact ⟨[], [], .of_same rfl rfl rfl, (List.append_nil _).symm, rfl, nofun⟩
  have hturn : ∀ host, c ≠ .turn host := fun host hhost => hturn ⟨host, hhost⟩
  by_cases hrefresh : c = .refresh
  · subst hrefresh
    cases hp : e.session.pending with
    | some p =>
      have hopen : e.session.inEntry = true := Option.isSome_iff_exists.2 ⟨p, hp⟩
      exact ⟨[], [], .of_asked (hc.asked_of_open cfg hplay hturn hopen)⟩
    | none =>
      rw [Call.session_refresh]
      have hentry : Plays cfg (fun _ => True) Step.refreshed e.session _ _ :=
        Step.plays_refresh hc.agrees hc.sound
      refine Ends.after (P := fun t => ∃ opened told, e.session.Lingers opened told t)
        (Ends.mono hentry ?_ ?_)
      · rintro _ t ⟨acts, hcourse, hrequest, hacts⟩
        exact Session.Lingers.of_course hcourse hc.agrees hc.sound hrequest hp hacts
      · rintro _ t ⟨acts, hcourse, hrequest, rfl | hacts⟩
        · exact ⟨[], [], .refl _⟩
        · exact Session.Lingers.of_course hcourse hc.agrees hc.sound hrequest hp hacts
  · rw [hc.asked_ended h hplay hrefresh hturn]
    exact ⟨[], [], .refl _⟩

/-- Once the story is over, nothing but graphs' becoming available goes on. -/
theorem Consistent.lingers_afterAll (cfg : Settings) (hc : e.Consistent graphs)
    (h : e.session.ending = some ending) {plays : List Call}
    (hplays : ∀ c ∈ plays, c.isPlay = true) :
    ∃ opened told, e.session.Lingers opened told (e.afterAll cfg plays).session := by
  induction plays generalizing e with
  | nil => exact ⟨[], [], .refl _⟩
  | cons c rest ih =>
    rw [List.forall_mem_cons] at hplays
    obtain ⟨opened, told, hfirst⟩ := hc.lingers cfg h hplays.1
    obtain ⟨more, later, hrest⟩ := ih (hc.after c) (hfirst.opens.ending.trans h) hplays.2
    exact ⟨opened ++ more, told ++ later, hfirst.trans hrest⟩

end Engine

/-- Once the story is over it stays over, whatever is called and whatever the rest of the game does
in the meantime: requests and reports are declined, no choice is shown as one that could be taken,
the host is asked for facts only, and all that changes is that graphs become available, as
refreshing entries tell. -/
theorem over_for_good (cfg : Settings) {graphs : List Graph} {host : Host} {clock : Clock}
    {built : Engine} (hbuilt : Engine.ofGraphs graphs host clock = .ok built) (calls : List Call)
    {ending : String × Bool} (hended : (built.afterAll cfg calls).session.ending = some ending)
    {plays : List Call} (hplays : ∀ c ∈ plays, c.isPlay = true) :
    let e := built.afterAll cfg calls
    (∃ opened told, e.session.Lingers opened told (e.afterAll cfg plays).session) ∧
    ∀ before c later, plays = before ++ c :: later → c.FallsFlat cfg (e.afterAll cfg before) := by
  intro e
  have h := (Engine.Consistent.ofGraphs hbuilt).afterAll cfg calls
  refine ⟨h.lingers_afterAll cfg hended hplays, fun before c later hsplit => ?_⟩
  subst hsplit
  rw [List.forall_mem_append, List.forall_mem_cons] at hplays
  obtain ⟨opened, told, hlingers⟩ := h.lingers_afterAll cfg hended hplays.1
  exact (h.afterAll cfg before).fallsFlat cfg (hlingers.opens.ending.trans hended) hplays.2.1

/-- A departure that ends the story, and a reward for whoever has a badge. -/
def Content.departure : Content :=
  [("departure", .record [
    ("title", "Departure"), ("start", "pier"), ("branch", "crew"),
    ("nodes", .list [
      .record [("id", "pier"), ("text", "At the pier."), ("choices", .list [
        .record [("id", "sail"), ("text", "Sail."), ("outcomes", .list [
          .record [("kind", "trigger_ending"), ("ending", "away")]])]])]])]),
   ("reward", .record [
    ("title", "Reward"), ("start", "desk"), ("branch", "crew"),
    ("requirements", .list [.record [("kind", "item"), ("item", "badge")]]),
    ("nodes", .list [
      .record [("id", "desk"), ("text", "At the desk."), ("choices", .list [
        .record [("id", "thank"), ("text", "Thank.")]])]])])]

/-- A badge turns up after the departure.  The reward becomes available, but nobody can fetch it. -/
theorem over_for_good_departure :
    let e := (Engine.fresh .departure {}).afterAll .builtIn
      [.newGame false, .start "departure", .choose "departure" "sail"]
    let plays : List Call := [.turn { items := [("badge", 1)] }, .refresh, .start "reward",
      .external [] "harbour", .present (some "departure")]
    (∃ graphs, Engine.ofGraphs graphs {} (.ticking 0 1) = .ok (.fresh .departure {})) ∧
    e.session.ending = some ("away", false) ∧ (∀ c ∈ plays, c.isPlay = true) ∧
    (e.afterAll .builtIn plays).session.graphsIn .available = ["reward"] ∧
    (∃ opened told, e.session.Lingers opened told (e.afterAll .builtIn plays).session) ∧
    ∀ before c later, plays = before ++ c :: later →
      c.FallsFlat .builtIn (e.afterAll .builtIn before) := by
  intro e plays
  obtain ⟨graphs, _, hbuilt⟩ := Engine.ofGraphs_fresh {}
    (show (Content.load .builtIn .departure []).toOption.isSome = true by decide +kernel)
  have hended : e.session.ending = some ("away", false) := by decide +kernel
  have hplays : ∀ c ∈ plays, c.isPlay = true := by decide
  obtain ⟨hlingers, hflat⟩ := over_for_good .builtIn hbuilt _ hended hplays
  exact ⟨⟨graphs, hbuilt⟩, hended, hplays, by decide +kernel, hlingers, hflat⟩

end Questline
