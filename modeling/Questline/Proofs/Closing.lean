import Questline.Proofs.Faults
import Questline.Proofs.Games
import Questline.Proofs.Visiting

/-! Every call closes the entry that it opens, except a new game that is broken off.  The entry that
is left open then stays open for good, and every request clashes with it. -/

namespace Questline

variable {cfg : Settings} {s t : Session}

/-- A step comes to nothing: at most the host is asked before it fails. -/
def Blocked {α : Type} (x : Step α) (s : Session) : Prop :=
  Ends x s (fun _ _ => False) fun _ t => Asked s t

namespace Blocked

variable {α β : Type} {x : Step α} {f : α → Step β} {P : α → Prop} {F : Fault → Prop}

theorem opens (h : s.inEntry = true) {kind : EntryKind} {graph node choice source : Option String}
    {rest : Step α} :
    Blocked (Step.openEntry kind graph node choice source >>= fun _ => rest) s := by
  obtain ⟨p, hp⟩ := Option.isSome_iff_exists.1 h
  unfold Blocked
  rw [ends_bind]
  unfold Ends
  rw [Step.openEntry_eq_error hp]
  exact .refl s

theorem get_bind {f : Session → Step β} (h : Blocked (f s) s) : Blocked (get >>= f) s := h

theorem looked (hx : Looks x s P F) (hf : ∀ a, P a → Blocked (f a) s) : Blocked (x >>= f) s := by
  unfold Blocked
  rw [ends_bind]
  exact Ends.mono hx (fun a _ ⟨ht, ha⟩ => ht ▸ hf a ha) fun _ _ ⟨ht, _⟩ => ht ▸ .refl _

theorem bind_asked (hx : Ends x s (fun _ t => Asked s t) fun _ t => Asked s t)
    (hf : ∀ a t, Asked s t → Blocked (f a) t) : Blocked (x >>= f) s := by
  unfold Blocked
  rw [ends_bind]
  exact hx.mono (fun a t ht => (hf a t ht).mono (fun _ _ h => h) fun _ _ h => ht.trans h)
    fun _ _ h => h

theorem asked (h : Blocked x s) : Asked s (after x s) :=
  Ends.after (h.mono (fun _ _ h => h.elim) fun _ _ h => h)

end Blocked

namespace Step

section Open

variable (h : s.inEntry = true)
include h

theorem start_blocked (g : String) : Blocked (start cfg g) s := by
  rw [start_eq]
  exact .looked (looks_startable g) fun _ _ => .opens h

theorem abandon_blocked (g : String) : Blocked (abandon cfg g) s := by
  rw [abandon_eq]
  exact .looked (looks_abandonable g) fun _ _ => .opens h

theorem applyAsEntry_blocked (outcomes : List Outcome) (source : Option String) :
    Blocked (applyAsEntry cfg {} outcomes .external none none none source) s := .opens h

theorem refreshed_blocked : Blocked refreshed s := .opens h

theorem begin_blocked : Blocked begin s := .opens h

theorem choose_blocked (hs : s.Agrees) (g choice : String) : Blocked (choose cfg g choice) s := by
  rw [choose_eq]
  have hlooks : Looks (offered g choice) s _ (Fault.IsIllegal (s.Refuses cfg g choice)) :=
    looks_offered hs g choice
  refine .looked hlooks fun (i, n, c) _ => ?_
  have hreasons : Plays cfg (fun _ => True) (reasonsAgainst cfg s.ledger n c) s _ _ :=
    plays_reasonsAgainst s.ledger n c
  unfold take
  refine .get_bind (.bind_asked (Ends.mono hreasons (fun _ _ ⟨_, _, _, ha, _⟩ => ha)
    fun _ _ ⟨_, _, _, ha⟩ => ha) fun reasons t ht => ?_)
  cases reasons with
  | nil =>
    obtain ⟨outages, rfl⟩ := ht
    exact Blocked.opens (s := { s with host := { s.host with outages } }) h
  | cons reason rest => exact .refl t

end Open

end Step

/-- A step that does not clash, begun in a given session. -/
def ClashlessAt {α : Type} (x : Step α) (s : Session) : Prop :=
  Ends x s (fun _ _ => True) fun why _ => ¬ why.IsClash

namespace ClashlessAt

variable {α β : Type} {x : Step α} {f : α → Step β} {P : α → Prop} {refuses : IllegalChoice → Prop}

/-- Where no entry is open, opening one is no reason to fail. -/
theorem opens (h : s.pending = none) {kind : EntryKind} {graph node choice source : Option String}
    {rest : Step α} (hrest : Clashless rest) :
    ClashlessAt (Step.openEntry kind graph node choice source >>= fun _ => rest) s := by
  unfold ClashlessAt
  rw [Step.ends_openEntry_bind h]
  exact hrest _ trivial

theorem looked (hx : Looks x s P (Fault.IsIllegal refuses))
    (hf : ∀ a, P a → ClashlessAt (f a) s) : ClashlessAt (x >>= f) s := by
  unfold ClashlessAt
  rw [ends_bind]
  refine Ends.mono hx (fun a _ ⟨ht, ha⟩ => ht ▸ hf a ha) ?_
  rintro _ _ ⟨_, _, rfl, _⟩
  exact Fault.not_isClash nofun

theorem writes {kind : EntryKind} {g : String} {node choice : Option String} {body : Step α}
    {active : α → Option String} (h : s.pending = none) (hbody : Clashless body) :
    ClashlessAt (Step.writing kind g node choice body active) s :=
  .opens h (hbody.settling.bind fun _ => Step.conclude_clashless _ _ _)

end ClashlessAt

namespace Step

section Closed

variable (h : s.pending = none)
include h

theorem start_clashless (g : String) : ClashlessAt (start cfg g) s := by
  rw [start_eq]
  refine .looked (looks_startable g) fun i _ => .writes h ?_
  exact (startGraph_clashless i).bind fun _ => (finishIfEnded_clashless i).bind fun _ => .pure _

theorem abandon_clashless (g : String) : ClashlessAt (abandon cfg g) s := by
  rw [abandon_eq]
  refine .looked (looks_abandonable g) fun i _ => .writes h ?_
  exact (failGraph_clashless i).bind fun _ => refreshAvailability_clashless

theorem choose_clashless (hs : s.Agrees) (g choice : String) :
    ClashlessAt (choose cfg g choice) s := by
  rw [choose_eq]
  have hlooks : Looks (offered g choice) s _ (Fault.IsIllegal (s.Refuses cfg g choice)) :=
    looks_offered hs g choice
  refine .looked hlooks fun (i, n, c) _ => ?_
  have hasked : Plays cfg (fun _ => True) (reasonsAgainst cfg s.ledger n c) s _ _ :=
    plays_reasonsAgainst s.ledger n c
  unfold take
  change ClashlessAt (reasonsAgainst cfg s.ledger n c >>= _) s
  unfold ClashlessAt
  rw [ends_bind]
  refine (Ends.and hasked (reasonsAgainst_clashless s.ledger n c s trivial)).mono
    (fun reasons t ⟨⟨_, _, _, ⟨outages, ht⟩, _⟩, _⟩ => ?_) fun _ _ h => h.2
  subst ht
  cases reasons with
  | nil =>
    refine ClashlessAt.writes (s := { s with host := { s.host with outages } }) h ?_
    exact (advance_clashless i c).bind fun _ => refreshAvailability_clashless.bind fun _ => .pure _
  | cons reason rest => exact Fault.not_isClash nofun

theorem applyAsEntry_clashless (outcomes : List Outcome) (source : Option String) :
    ClashlessAt (applyAsEntry cfg {} outcomes .external none none none source) s :=
  .opens h ((applyOutcomes_clashless outcomes).settling.bind fun _ => commit_clashless)

theorem begin_clashless : ClashlessAt begin s :=
  .opens h (refreshAvailability_clashless.bind fun _ => commit_clashless.bind fun _ => .pure _)

theorem refreshed_clashless : ClashlessAt refreshed s := by
  refine .opens h (refreshAvailability_clashless.settling.bind fun _ => .get_bind fun t => ?_)
  split
  · exact commit_clashless.bind fun _ => .pure _
  · exact discard_clashless

end Closed

end Step

namespace Call

/-- A call fails in some way. -/
def Fails (cfg : Settings) (e : Engine) (why : Fault) : Call → Prop
  | .newGame startMain => ∃ e', Engine.newGame cfg startMain e = .error why e'
  | .start g => ∃ t, Step.start cfg g e.session = .error why t
  | .choose g choice => ∃ t, Step.choose cfg g choice e.session = .error why t
  | .abandon g => ∃ t, Step.abandon cfg g e.session = .error why t
  | .external reports source => ∃ e', Engine.applyExternal cfg reports source e = .error why e'
  | .refresh => ∃ e', Engine.refresh e = .error why e'
  | _ => False

/-- A new game is broken off. -/
def BreaksOff (cfg : Settings) (e : Engine) (c : Call) : Prop :=
  ∃ startMain why, c = .newGame startMain ∧ (c.ask cfg e).1 = .begun (.error why)

end Call

/-- One of some calls breaks a new game off. -/
def Engine.BreaksOff (cfg : Settings) (e : Engine) (calls : List Call) : Prop :=
  ∃ before c later, calls = before ++ c :: later ∧ c.BreaksOff cfg (e.afterAll cfg before)

/-- A new game can only be broken off while its first entry is open. -/
theorem Step.begin_leaves_open (cfg : Settings) (hs : s.Agrees) (hsound : s.Sound) :
    Ends begin s (fun _ _ => True) fun _ t => t.inEntry = true := by
  cases hp : s.pending with
  | some p =>
    refine Ends.mono (begin_blocked (Option.isSome_iff_exists.2 ⟨p, hp⟩))
      (fun _ _ _ => trivial) fun _ t ⟨_, ht⟩ => ?_
    rw [ht]
    exact Option.isSome_iff_exists.2 ⟨p, hp⟩
  | none =>
    have hworking := working_opened hs hsound { kind := .newGame }
    have hpass : Plays cfg (fun _ => True) refreshAvailability _ _ _ :=
      plays_refreshAvailability hworking
    unfold begin
    rw [ends_openEntry_bind hp, ends_bind]
    refine Ends.mono hpass (fun _ t ⟨acts, hc, hcalm⟩ => ?_) fun _ t ⟨acts, hc, hcalm⟩ =>
      (hworking.course hc hcalm.inner).entry
    obtain ⟨q, hq⟩ := Option.isSome_iff_exists.1 (hworking.course hc hcalm.inner).entry
    rw [ends_bind]
    unfold Ends
    rw [commit_eq hq]
    trivial

namespace Engine

variable {graphs : List Graph} {e e' : Engine} {c : Call} {calls : List Call}

theorem pending_register (cfg : Settings) (more : List Graph) (e : Engine) :
    ((Call.register more).after cfg e).session.pending = e.session.pending := by
  rw [Call.after, Call.ask]
  split
  next e' hr => rw [(of_register hr).1]
  next => rfl

theorem pending_restore (cfg : Settings) (data : Value) (e : Engine) :
    ((Call.restore data).after cfg e).session.pending = e.session.pending := by
  rw [Call.after, Call.ask, Call.after_answer, Questline.after]
  cases haccept : accept data e.session with
  | error why => rw [restore_of_refused haccept]
  | ok saved =>
    rw [restore_of_accept haccept (ordered_of_accept haccept)]
    rfl

theorem breaksOff_nil : ¬ e.BreaksOff cfg [] := by
  rintro ⟨before, c, later, h, _⟩
  cases before <;> cases h

theorem breaksOff_cons :
    e.BreaksOff cfg (c :: calls) ↔ c.BreaksOff cfg e ∨ (c.after cfg e).BreaksOff cfg calls := by
  constructor
  · rintro ⟨before, d, later, h, hbroken⟩
    cases before with
    | nil =>
      cases h
      exact .inl hbroken
    | cons first before =>
      cases h
      exact .inr ⟨before, d, later, rfl, hbroken⟩
  · rintro (hbroken | ⟨before, d, later, rfl, hbroken⟩)
    · exact ⟨[], c, calls, rfl, hbroken⟩
    · exact ⟨c :: before, d, later, rfl, hbroken⟩

end Engine

namespace Engine.Consistent

variable {graphs : List Graph} {e e' : Engine}

/-- While an entry is open, a call that goes on with the game can at most ask the host. -/
theorem asked_of_open (cfg : Settings) (h : e.Consistent graphs) {c : Call}
    (hc : c.isPlay = true) (hturn : ∀ host, c ≠ .turn host) (hopen : e.session.inEntry = true) :
    Asked e.session (c.after cfg e).session := by
  cases c with
  | newGame | register | restore => cases hc
  | turn host => exact absurd rfl (hturn host)
  | start g =>
    rw [Call.session_start]
    exact (Step.start_blocked hopen g).asked
  | choose g choice =>
    rw [Call.session_choose]
    exact (Step.choose_blocked hopen h.agrees g choice).asked
  | abandon g =>
    rw [Call.session_abandon]
    exact (Step.abandon_blocked hopen g).asked
  | external reports source =>
    rcases Call.session_external cfg e reports source with hsame | ⟨outcomes, _, happlied⟩
    · exact hsame ▸ .refl _
    · rw [happlied]
      exact (Step.applyAsEntry_blocked hopen outcomes _).asked
  | refresh =>
    rw [Call.session_refresh]
    exact (Step.refreshed_blocked hopen).asked
  | present g =>
    rcases Call.session_present cfg e g with hsame | ⟨graph, hpresented⟩
    · exact hsame ▸ .refl _
    · rw [hpresented]
      have hplays : Plays cfg (fun _ => True) (Step.present cfg graph) e.session _ _ :=
        Step.plays_present h.agrees graph
      exact Ends.after (Ends.mono hplays (fun _ _ ⟨_, _, _, ha, _⟩ => ha)
        fun _ _ ⟨_, _, _, ha⟩ => ha)
  | _ => exact .refl _

/-- An entry that is open stays open, whatever is called. -/
theorem inEntry_kept (h : e.Consistent graphs) (c : Call) (hopen : e.session.inEntry = true) :
    (c.after cfg e).session.inEntry = true := by
  by_cases hplay : c.isPlay = true ∧ ∀ host, c ≠ .turn host
  · obtain ⟨outages, hasked⟩ := h.asked_of_open cfg hplay.1 hplay.2 hopen
    rw [hasked]
    exact hopen
  cases c with
  | newGame startMain =>
    cases hnew : Engine.newGame cfg startMain e with
    | ok r e' =>
      rw [Session.inEntry, pending_of_newGame hnew] at hopen
      cases hopen
    | error why e' =>
      obtain ⟨t, hb, rfl⟩ := newGame_eq_error hnew
      have hblocked := Step.begin_blocked (s := e.forget.session) hopen
      unfold Blocked Ends at hblocked
      rw [hb] at hblocked
      rw [Call.after, Call.ask, Call.answer_error hnew]
      obtain ⟨outages, rfl⟩ := hblocked
      exact hopen
  | register more =>
    rw [Session.inEntry, pending_register cfg more e]
    exact hopen
  | restore data =>
    rw [Session.inEntry, pending_restore cfg data e]
    exact hopen
  | turn host => exact hopen
  | _ => exact absurd ⟨rfl, by simp⟩ hplay

theorem inEntry_of_breaksOff (h : e.Consistent graphs) {c : Call} (hbroken : c.BreaksOff cfg e) :
    (c.after cfg e).session.inEntry = true := by
  obtain ⟨startMain, why, rfl, hanswer⟩ := hbroken
  have hbegin := Step.begin_leaves_open cfg h.forget.agrees h.forget.sound
  cases hnew : Engine.newGame cfg startMain e with
  | ok r e' =>
    rw [Call.ask, Call.answer_ok hnew] at hanswer
    cases hanswer
  | error why' e' =>
    obtain ⟨t, hb, rfl⟩ := newGame_eq_error hnew
    rw [Call.after, Call.ask, Call.answer_error hnew]
    exact hbegin.of_error hb

/-- Only a new game that is broken off leaves an entry open. -/
theorem inEntry_after (cfg : Settings) (h : e.Consistent graphs) (c : Call) :
    (c.after cfg e).session.inEntry = true ↔ e.session.inEntry = true ∨ c.BreaksOff cfg e := by
  refine ⟨fun hafter => ?_, fun h' => h'.elim (h.inEntry_kept c) h.inEntry_of_breaksOff⟩
  by_contra hno
  rw [not_or, Session.inEntry, Bool.not_eq_true, Option.isSome_eq_false_iff,
    Option.isNone_iff_eq_none] at hno
  obtain ⟨hidle, hunbroken⟩ := hno
  suffices hclosed : (c.after cfg e).session.pending = none by
    rw [Session.inEntry, hclosed] at hafter
    cases hafter
  by_cases hplay : c.isPlay = true
  · obtain ⟨acts, hdoes⟩ := h.does cfg hidle hplay
    exact hdoes.closed
  cases c with
  | newGame startMain =>
    cases hnew : Engine.newGame cfg startMain e with
    | ok r e' =>
      obtain ⟨acts, hdoes⟩ := h.does_newGame hnew
      rw [Call.after, Call.ask, Call.answer_ok hnew]
      exact hdoes.closed
    | error why e' =>
      refine absurd ⟨startMain, why, rfl, ?_⟩ hunbroken
      rw [Call.ask, Call.answer_error hnew]
  | register more => exact (pending_register cfg more e).trans hidle
  | restore data => exact (pending_restore cfg data e).trans hidle
  | _ => exact absurd rfl hplay

theorem inEntry_afterAll (cfg : Settings) (h : e.Consistent graphs) (calls : List Call) :
    (e.afterAll cfg calls).session.inEntry = true ↔
      e.session.inEntry = true ∨ e.BreaksOff cfg calls := by
  induction calls generalizing e with
  | nil => exact ⟨.inl, fun h => h.elim id fun h => absurd h breaksOff_nil⟩
  | cons c rest ih =>
    change ((c.after cfg e).afterAll cfg rest).session.inEntry = true ↔ _
    rw [ih (h.after c), h.inEntry_after cfg c, breaksOff_cons, or_assoc]

/-- Where no entry is open no call clashes. -/
theorem not_isClash (h : e.Consistent graphs) (hidle : e.session.pending = none) {c : Call}
    {why : Fault} (hfails : c.Fails cfg e why) : ¬ why.IsClash := by
  have failed {α : Type} {x : Step α} (hx : ClashlessAt x e.session)
      (hrun : ∃ t, x e.session = .error why t) : ¬ why.IsClash := by
    obtain ⟨t, hrun⟩ := hrun
    unfold ClashlessAt Ends at hx
    rwa [hrun] at hx
  cases c with
  | newGame startMain =>
    obtain ⟨e', hnew⟩ := hfails
    obtain ⟨t, hb, _⟩ := newGame_eq_error hnew
    have hbegin := Step.begin_clashless (s := e.forget.session) hidle
    unfold ClashlessAt Ends at hbegin
    rwa [hb] at hbegin
  | start g => exact failed (Step.start_clashless hidle g) hfails
  | choose g choice => exact failed (Step.choose_clashless hidle h.agrees g choice) hfails
  | abandon g => exact failed (Step.abandon_clashless hidle g) hfails
  | external reports source =>
    obtain ⟨e', hrun⟩ := hfails
    rcases applyExternal_cases cfg reports source e with
      ⟨message, hanswer⟩ | ⟨why', _, hrefusal, hanswer⟩ | ⟨outcomes, _, happlied⟩
    · cases hanswer.symm.trans hrun
    · cases hanswer.symm.trans hrun
      rintro ⟨_, _, rfl⟩
      cases hrefusal
    · have hboth := Ends.and (Step.applyAsEntry_clashless hidle outcomes (some source)) happlied
      unfold Ends at hboth
      split at hboth
      next =>
        obtain ⟨-, messages, hanswer⟩ := hboth
        cases hanswer.symm.trans hrun
      next =>
        obtain ⟨hno, messages, hanswer⟩ := hboth
        cases hanswer.symm.trans hrun
        exact hno
  | refresh =>
    obtain ⟨e', hrun⟩ := hfails
    have hrun : (onSession Step.refreshed >>= _ : EngineStep _) e = .error why e' := hrun
    rw [run_onSession] at hrun
    have hrefreshed := Step.refreshed_clashless hidle
    unfold ClashlessAt Ends at hrefreshed
    cases hr : Step.refreshed e.session with
    | ok _ t =>
      rw [hr] at hrun
      cases hrun
    | error why' t =>
      rw [hr] at hrun hrefreshed
      cases hrun
      exact hrefreshed
  | _ => exact hfails.elim

end Engine.Consistent

/-- Whatever an engine has been asked, and whatever has failed on the way, no entry is open and no
request clashes with an open one, unless a new game has been broken off.  An entry is open for good
after that. -/
theorem closed_unless_broken_off (cfg : Settings) {graphs : List Graph} {host : Host}
    {clock : Clock} {built : Engine} (hbuilt : Engine.ofGraphs graphs host clock = .ok built)
    (calls : List Call) :
    ((built.afterAll cfg calls).session.inEntry = true ↔ built.BreaksOff cfg calls) ∧
    ∀ (c : Call) (why : Fault), c.Fails cfg (built.afterAll cfg calls) why → why.IsClash →
      built.BreaksOff cfg calls := by
  have h := Engine.Consistent.ofGraphs hbuilt
  have hfresh : built.session.inEntry = false := by
    rw [(Engine.of_register hbuilt).1]
    rfl
  have hopen : (built.afterAll cfg calls).session.inEntry = true ↔ built.BreaksOff cfg calls := by
    rw [h.inEntry_afterAll cfg calls, hfresh]
    simp
  refine ⟨hopen, fun c why hfails hclash => hopen.1 ?_⟩
  by_contra hidle
  rw [Session.inEntry, Bool.not_eq_true, Option.isSome_eq_false_iff,
    Option.isNone_iff_eq_none] at hidle
  exact (h.afterAll cfg calls).not_isClash hidle hfails hclash

/-- While nobody can tell whether the player has a badge, the errand is gone on with, a choice is
interrupted, and another report comes in. -/
theorem closed_unless_broken_off_errand :
    let e := Engine.fresh .errand {}
    let calls : List Call := [.newGame false, .start "errand",
      .turn (({} : Host).breakService .hasItem none), .choose "errand" "go", .refresh]
    (∃ graphs, Engine.ofGraphs graphs {} (.ticking 0 1) = .ok e) ∧ ¬ e.BreaksOff .builtIn calls ∧
    ∀ (c : Call) (why : Fault), c.Fails .builtIn (e.afterAll .builtIn calls) why →
      ¬ why.IsClash := by
  intro e calls
  obtain ⟨graphs, _, hbuilt⟩ := Engine.ofGraphs_fresh {}
    (show (Content.load .builtIn .errand []).toOption.isSome = true by decide +kernel)
  obtain ⟨hopen, hclashes⟩ := closed_unless_broken_off .builtIn hbuilt calls
  have hidle : (e.afterAll .builtIn calls).session.inEntry = false := by decide +kernel
  have hunbroken : ¬ e.BreaksOff .builtIn calls := fun hbroken => by
    cases hidle.symm.trans (hopen.2 hbroken)
  exact ⟨⟨graphs, hbuilt⟩, hunbroken, fun c why hfails hclash =>
    hunbroken (hclashes c why hfails hclash)⟩

/-- Nobody can tell whether the player has a badge when a new game begins.  Although everybody can
soon after, the errand cannot be started. -/
theorem new_game_left_open :
    let e := (Engine.fresh .errand {}).afterAll .builtIn
      [.turn (({} : Host).breakService .hasItem none), .newGame false, .turn {}]
    Visited .builtIn e ∧ e.session.inEntry = true ∧
      ∃ why, (Call.start "errand").Fails .builtIn e why ∧ why.IsClash := by
  intro e
  have hstart : (match Step.start .builtIn "errand" e.session with
      | .ok _ _ => false
      | .error (.refused (.alreadyResolving _ _)) _ => true
      | .error _ _ => false) = true := by decide +kernel
  refine ⟨(Visited.fresh {} (by decide +kernel)).afterAll (by simp), by decide +kernel, ?_⟩
  split at hstart
  next => cases hstart
  next kind graph t hrun => exact ⟨_, ⟨t, hrun⟩, kind, graph, rfl⟩
  next => cases hstart

end Questline
