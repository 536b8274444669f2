import Questline.Engine.Saved
import Questline.Proofs.Requests

/-! What a game can ask of the engine, in any order, and what the engine answers.  Between two
requests the rest of the game goes on. -/

namespace Questline

/-- A request to the engine, a look at it, or a turn of the rest of the game. -/
inductive Call
  | newGame (startMain : Bool) : Call
  | start (graph : String) : Call
  | choose (graph choice : String) : Call
  | abandon (graph : String) : Call
  | external (reports : List Report) (source : String) : Call
  | refresh : Call
  | register (graphs : List Graph) : Call
  | restore (data : Value) : Call
  /-- The rest of the game changes in any way, which services are down included. -/
  | turn (host : Host) : Call
  | present (graph : Option String) : Call
  | lifecycle (graph : String) : Call
  | graphsIn (state : Lifecycle) : Call
  | ending : Call
  | history (since afterId : Value) : Call
  | serialize : Call
  | replay : Call
  | verify : Call

inductive Answer
  | done : Answer
  | begun (r : Except Fault (Option Resolution)) : Answer
  | resolved (r : Resolution) : Answer
  | applied (r : Except Fault (Option Entry)) : Answer
  | refreshed (r : Except Fault (List String)) : Answer
  | registered (r : Except ContentFault Unit) : Answer
  | restored (r : Except SaveFault Unit) : Answer
  | presented (r : Except Fault (Option PresentedNode)) : Answer
  | state (r : Except Fault Lifecycle) : Answer
  | graphs (names : List String) : Answer
  | ended (ending : Option (String × Bool)) : Answer
  | entries (r : Except Fault (List Entry)) : Answer
  | data (r : Except Fault Value) : Answer
  | ledger (r : Except Fault Ledger) : Answer
  | verified (r : Except Fault Bool) : Answer

namespace Call

/-- A step of the engine as an answer with the engine after it. -/
def answer {ε α : Type} (x : EStateM ε Engine α) (show' : Except ε α → Answer) (e : Engine) :
    Answer × Engine :=
  match x e with
  | .ok a e => (show' (.ok a), e)
  | .error why e => (show' (.error why), e)

def ask (cfg : Settings) (c : Call) (e : Engine) : Answer × Engine :=
  match c with
  | .newGame startMain => answer (Engine.newGame cfg startMain) .begun e
  | .start g => (Engine.start cfg g e).map .resolved id
  | .choose g choice => (Engine.choose cfg g choice e).map .resolved id
  | .abandon g => (Engine.abandon cfg g e).map .resolved id
  | .external reports source => answer (Engine.applyExternal cfg reports source) .applied e
  | .refresh => answer Engine.refresh .refreshed e
  | .register graphs =>
    match e.register graphs with
    | .ok e => (.registered (.ok ()), e)
    | .error why => (.registered (.error why), e)
  | .restore data => answer (Engine.restore data) .restored e
  | .turn host => (.done, { e with session := { e.session with host } })
  | .present g => answer (Engine.present cfg g) .presented e
  | .lifecycle g => (.state (e.lifecycle g), e)
  | .graphsIn state => (.graphs (e.session.graphsIn state), e)
  | .ending => (.ended e.session.ending, e)
  | .history since afterId => (.entries (e.history since afterId), e)
  | .serialize => (.data e.serialize, e)
  | .replay => (.ledger (e.replay cfg), e)
  | .verify => (.verified (e.verifyReplay cfg), e)

def after (cfg : Settings) (c : Call) (e : Engine) : Engine := (c.ask cfg e).2

end Call

def Engine.afterAll (cfg : Settings) (e : Engine) (calls : List Call) : Engine :=
  calls.foldl (fun e c => c.after cfg e) e

def Engine.answers (cfg : Settings) (e : Engine) : List Call → List Answer
  | [] => []
  | c :: rest => (c.ask cfg e).1 :: answers cfg (c.after cfg e) rest

namespace Engine

variable {cfg : Settings} {e : Engine}

theorem session_request (g : String) (choice : Option String) (x : Step Resolution) (e : Engine) :
    (request g choice x e).2.session = Questline.after x e.session := by
  unfold Questline.after request
  cases x e.session <;> rfl

theorem diagnostics_request (g : String) (choice : Option String) (x : Step Resolution)
    (e : Engine) : (request g choice x e).2.diagnostics =
      e.diagnostics ++ (request g choice x e).1.diagnostics := by
  unfold request
  cases x e.session <;> rfl

/-- With everything there that it may need, a request is granted, or refused in words. -/
theorem request_of_handles {reported : Outcome → Prop} {x : Step Resolution}
    {entry : EntryKind × Option String} {script : List Act → Prop} {refuses : IllegalChoice → Prop}
    (hx : Handles cfg reported x e.session entry script refuses) (hready : e.session.Ready cfg)
    (g : String) (choice : Option String) :
    ((request g choice x e).1.accepted = true ∧
        (∀ m ∈ (request g choice x e).1.diagnostics, isInternal m = false) ∧ ∃ l, script l) ∨
      ∃ why, refuses why ∧ (request g choice x e).1 = .rejected g choice why.message := by
  unfold Handles Ends at hx
  unfold request
  cases hrun : x e.session with
  | ok r t =>
    rw [hrun] at hx
    obtain ⟨acts, _, _, hl, written, _, hgrants⟩ := hx
    exact .inl ⟨hgrants.accepted, hgrants.mild, _, hl⟩
  | error why t =>
    rw [hrun] at hx
    obtain ⟨_, _, _, ⟨_, hillegal⟩ | ⟨_, _, hno⟩⟩ := hx
    · obtain ⟨why, rfl, hwhy⟩ := hillegal hready
      exact .inr ⟨why, hwhy, rfl⟩
    · exact absurd hready.sure hno

end Engine

namespace Call

variable {cfg : Settings} {e : Engine}

theorem answer_ok {ε α : Type} {x : EStateM ε Engine α} {a : α} {e' : Engine}
    (h : x e = .ok a e') (show' : Except ε α → Answer) :
    answer x show' e = (show' (.ok a), e') := by
  unfold answer
  rw [h]

theorem answer_error {ε α : Type} {x : EStateM ε Engine α} {why : ε} {e' : Engine}
    (h : x e = .error why e') (show' : Except ε α → Answer) :
    answer x show' e = (show' (.error why), e') := by
  unfold answer
  rw [h]

theorem shown_answer {ε α : Type} (x : EStateM ε Engine α) (show' : Except ε α → Answer)
    (e : Engine) : ∃ r, (answer x show' e).1 = show' r := by
  unfold answer
  cases x e with
  | ok a e => exact ⟨.ok a, rfl⟩
  | error why e => exact ⟨.error why, rfl⟩

/-- Only requests to the story are resolved. -/
theorem of_resolved {c : Call} {r : Resolution} (h : (c.ask cfg e).1 = .resolved r) :
    (∃ g, c = .start g) ∨ (∃ g choice, c = .choose g choice) ∨ ∃ g, c = .abandon g := by
  cases c with
  | start g => exact .inl ⟨g, rfl⟩
  | choose g choice => exact .inr (.inl ⟨g, choice, rfl⟩)
  | abandon g => exact .inr (.inr ⟨g, rfl⟩)
  | newGame | external | refresh | restore | present =>
    obtain ⟨_, hshown⟩ := shown_answer _ _ e
    cases hshown.symm.trans h
  | register graphs =>
    rw [ask] at h
    cases hregister : e.register graphs <;> simp [hregister] at h
  | _ => cases h

theorem after_answer {ε α : Type} (x : EStateM ε Engine α) (show' : Except ε α → Answer) :
    (answer x show' e).2 = Questline.after x e := by
  unfold answer Questline.after
  cases x e <;> rfl

end Call

/-- The first entry of a new game. -/
def Step.begin : Step Unit := do
  openEntry .newGame none none none none
  refreshAvailability
  let _ ← commit

/-- A pass over the availability of graphs as an entry of its own. -/
def Step.refreshed : Step Unit := do
  openEntry .refresh none none none none
  settling refreshAvailability
  if (← get).hasPendingChanges then
    let _ ← commit
  else discard

namespace Engine

variable {cfg : Settings} {e : Engine}

theorem run_onSession {α β : Type} (x : Step α) (f : α → EngineStep β) (e : Engine) :
    (onSession x >>= f) e = match x e.session with
      | .ok a session => f a { e with session }
      | .error why session => .error why { e with session } := by
  simp only [bind, EStateM.bind, onSession]
  cases x e.session <;> rfl

theorem newGame_eq (startMain : Bool) (e : Engine) : newGame cfg startMain e =
    match Step.begin e.forget.session with
    | .error why session => .error why { e.forget with session }
    | .ok _ session =>
      if startMain = true ∧ (session.instance? cfg.mainQuest).isSome = true then
        let (r, e) := start cfg cfg.mainQuest { e.forget with session }
        .ok (some r) e
      else .ok none { e.forget with session } := by
  change (onSession Step.begin >>= _ : EngineStep _) e.forget = _
  rw [run_onSession]
  cases Step.begin e.forget.session with
  | error why session => rfl
  | ok _ session =>
    dsimp only
    rw [run_get]
    split <;> rfl

/-- A new game can only fail in its first entry. -/
theorem newGame_eq_error {startMain : Bool} {why : Fault} {e' : Engine}
    (h : newGame cfg startMain e = .error why e') :
    ∃ t, Step.begin e.forget.session = .error why t ∧ e' = { e.forget with session := t } := by
  rw [newGame_eq] at h
  cases hb : Step.begin e.forget.session with
  | error why' t =>
    rw [hb] at h
    cases h
    exact ⟨t, rfl, rfl⟩
  | ok _ t =>
    rw [hb] at h
    dsimp only at h
    split at h <;> cases h

/-- What is read off reports was reported as it is, or was read under a text as its name. -/
theorem of_readReports {source : String} {reports : List Report} {place : Nat}
    {outcomes : List Outcome} (h : readReports source place reports = .ok outcomes) :
    ∀ o ∈ outcomes, .ready o ∈ reports ∨
      ∃ v name, .data v ∈ reports ∧ Outcome.read v (some (.text name)) = .ok o := by
  induction reports generalizing place outcomes with
  | nil =>
    cases h
    nofun
  | cons r rest ih =>
    have later {outcomes : List Outcome} (h : readReports source (place + 1) rest = .ok outcomes)
        (o : Outcome) (ho : o ∈ outcomes) : .ready o ∈ r :: rest ∨
          ∃ v name, .data v ∈ r :: rest ∧ Outcome.read v (some (.text name)) = .ok o :=
      (ih h o ho).imp (List.mem_cons_of_mem _) fun ⟨v, name, hv, hread⟩ =>
        ⟨v, name, List.mem_cons_of_mem _ hv, hread⟩
    cases r with
    | ready o =>
      obtain ⟨os, hos, rfl⟩ := map_eq_ok.1 h
      exact List.forall_mem_cons.2 ⟨.inl List.mem_cons_self, later hos⟩
    | data v =>
      obtain ⟨o, ho, h⟩ := bind_eq_ok.1 h
      obtain ⟨os, hos, h⟩ := bind_eq_ok.1 h
      cases h
      exact List.forall_mem_cons.2 ⟨.inr ⟨v, _, List.mem_cons_self, ho⟩, later hos⟩

/-- Outcomes from outside are turned down, or cannot be read, or are applied as one entry. -/
theorem applyExternal_cases (cfg : Settings) (reports : List Report) (source : String)
    (e : Engine) :
    (∃ message, applyExternal cfg reports source e =
      .ok none { e with diagnostics := e.diagnostics ++ [message] }) ∨
    (∃ why, readReports source 0 reports = .error why ∧ why.isRefusal = false ∧
      applyExternal cfg reports source e = .error why e) ∨
    ∃ outcomes, readReports source 0 reports = .ok outcomes ∧
      Ends (Step.applyAsEntry cfg {} outcomes .external none none none (some source)) e.session
        (fun entry t => ∃ messages, applyExternal cfg reports source e =
          .ok (some entry) { session := t, diagnostics := e.diagnostics ++ messages })
        fun why t => ∃ messages, applyExternal cfg reports source e =
          .error why { session := t, diagnostics := e.diagnostics ++ messages } := by
  unfold applyExternal
  simp only [run_get]
  by_cases hended : e.session.ending.isSome = true
  · simp only [if_pos hended]
    exact .inl ⟨_, rfl⟩
  simp only [if_neg hended]
  cases hread : readReports source 0 reports with
  | error why =>
    cases hrefusal : why.isRefusal with
    | true =>
      exact .inl ⟨s!"rejected outcomes from {source}: {why.message}", by simp [hrefusal]; rfl⟩
    | false => exact .inr (.inl ⟨why, rfl, hrefusal, by simp [hrefusal]; rfl⟩)
  | ok outcomes =>
    refine .inr (.inr ⟨outcomes, rfl, ?_⟩)
    unfold Step.applyAsEntry diagnose Ends
    simp only [run_onSession, run_modify, run_get]
    simp only [bind, EStateM.bind, onSession, Functor.map, EStateM.map]
    cases Step.openEntry .external none none none (some source) e.session with
    | error why s => exact ⟨[], by simp⟩
    | ok _ s =>
      dsimp only
      cases Step.settling (Step.applyOutcomes cfg {} outcomes) s with
      | error why s => exact ⟨[], by simp⟩
      | ok _ s =>
        dsimp only
        cases Step.commit s <;> exact ⟨s.diagnostics, rfl⟩

theorem present_some (cfg : Settings) (g : String) (e : Engine) : present cfg (some g) e =
    if (e.session.instance? g).isSome = true then onSession (Step.present cfg g) e
    else .ok none e := by
  unfold present
  simp only [run_get, Option.some_or]
  split <;> rfl

end Engine

namespace Call

variable (cfg : Settings) (e : Engine)

theorem session_start (g : String) :
    ((start g).after cfg e).session = Questline.after (Step.start cfg g) e.session :=
  Engine.session_request g none _ e

theorem session_choose (g choice : String) :
    ((choose g choice).after cfg e).session =
      Questline.after (Step.choose cfg g choice) e.session :=
  Engine.session_request g (some choice) _ e

theorem session_abandon (g : String) :
    ((abandon g).after cfg e).session = Questline.after (Step.abandon cfg g) e.session :=
  Engine.session_request g none _ e

theorem session_refresh :
    (refresh.after cfg e).session = Questline.after Step.refreshed e.session := by
  rw [after, ask, after_answer]
  change (Questline.after (Engine.onSession Step.refreshed >>= _ : EngineStep _) e).session = _
  unfold Questline.after Engine.onSession
  simp only [bind, EStateM.bind]
  cases Step.refreshed e.session <;> rfl

/-- Outcomes from outside are applied as one entry, if they are taken at all. -/
theorem session_external (reports : List Report) (source : String) :
    ((external reports source).after cfg e).session = e.session ∨
    ∃ outcomes, Engine.readReports source 0 reports = .ok outcomes ∧
      ((external reports source).after cfg e).session =
        Questline.after (Step.applyAsEntry cfg {} outcomes .external none none none (some source))
          e.session := by
  rw [after, ask, after_answer]
  rcases Engine.applyExternal_cases cfg reports source e with
    ⟨message, h⟩ | ⟨why, _, _, h⟩ | ⟨outcomes, hread, happlied⟩
  · exact .inl (by rw [Questline.after, h])
  · exact .inl (by rw [Questline.after, h])
  · refine .inr ⟨outcomes, hread, ?_⟩
    unfold Ends at happlied
    unfold Questline.after
    split at happlied
    all_goals
      obtain ⟨messages, h⟩ := happlied
      rw [h]

theorem session_present (g : Option String) :
    ((present g).after cfg e).session = e.session ∨
    ∃ graph, ((present g).after cfg e).session =
      Questline.after (Step.present cfg graph) e.session := by
  rw [after, ask, after_answer]
  unfold Engine.present Questline.after
  simp only [run_get]
  cases g.or e.session.currentGraph with
  | none => exact .inl rfl
  | some graph =>
    by_cases hlisted : (e.session.instance? graph).isSome = true
    · refine .inr ⟨graph, ?_⟩
      simp only [if_pos hlisted, Engine.onSession]
      cases Step.present cfg graph e.session <;> rfl
    · refine .inl ?_
      simp only [if_neg hlisted]
      rfl

end Call

end Questline
