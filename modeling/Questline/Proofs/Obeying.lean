import Questline.Proofs.Numerals
import Questline.Proofs.Prompting

/-! What a console does with one command.  Every command can be obeyed, except for a number that is
misread and for the status while there are flags that are no texts, and the console is ready for
more then. -/

namespace Questline

namespace Console

theorem flagTexts_ok {l : Ledger} (h : l.flags.all Atom.isText = true) :
    ∃ texts, flagTexts l = .ok texts := by
  have htexts := Atom.texts_iff.1 h
  obtain ⟨sorted, hsorted⟩ := Atom.sort_eq_ok.2 htexts.comparable
  unfold flagTexts Ledger.sortedFlags
  rw [hsorted, ok_bind]
  refine exists_ok_of_mapM fun a ha => ?_
  obtain ⟨s, rfl⟩ := htexts a ((Atom.perm_of_sort hsorted).subset ha)
  exact ⟨s, rfl⟩

theorem flagTexts_error {l : Ledger} (h : l.flags.all Atom.isText = false) :
    flagTexts l = .error .mistyped := by
  cases hread : flagTexts l with
  | ok texts =>
    obtain ⟨sorted, hsorted, hread⟩ := bind_eq_ok.1 hread
    have htexts : Atom.Texts l.flags := fun a ha => by
      obtain ⟨s, _, hs⟩ := (mem_of_mapM hread).1 a ((Atom.perm_of_sort hsorted).symm.subset ha)
      cases a with
      | text t => exact ⟨t, rfl⟩
      | _ => cases hs
    rw [Atom.texts_iff.2 htexts] at h
    cases h
  | error why =>
    rcases bind_eq_error.1 hread with hsort | ⟨sorted, _, hread⟩
    · rw [Atom.mistyped_of_sort hsort]
    · obtain ⟨a, _, ha⟩ := exists_error_of_mapM hread
      cases a <;> cases ha <;> rfl

/-- A step that puts out lines, and does nothing else. -/
def Says {α : Type} (x : ConsoleStep α) : Prop := ∀ c, ∃ a lines, x c = .ok a (c.said lines)

section Says

variable {α β : Type}

theorem says_print (s : String) : Says (print s) := fun c => ⟨(), [s], print_eq c s⟩

theorem says_printAll (lines : List String) : Says (printAll lines) :=
  fun c => ⟨(), lines, printAll_eq c lines⟩

theorem says_ofExcept {r : Except Fault α} (h : ∃ a, r = .ok a) : Says (ofExcept r) := by
  obtain ⟨a, rfl⟩ := h
  exact fun c => ⟨a, [], rfl⟩

theorem Says.bind {x : ConsoleStep α} {f : α → ConsoleStep β} (hx : Says x)
    (hf : ∀ a, Says (f a)) : Says (x >>= f) := by
  intro c
  obtain ⟨a, lines, hrun⟩ := hx c
  obtain ⟨b, more, hrun'⟩ := hf a (c.said lines)
  exact ⟨b, lines ++ more, by rw [run_bind hrun, hrun', said_said]⟩

theorem says_forM {f : α → ConsoleStep Unit} (h : ∀ a, Says (f a)) (l : List α) :
    Says (l.forM f) := by
  induction l with
  | nil => exact fun c => ⟨(), [], rfl⟩
  | cons a rest ih => exact (h a).bind fun _ => ih

theorem Says.ends {x : ConsoleStep α} (hx : Says x) (c : Console) :
    Ends x c (fun _ d => ∃ lines, d = c.said lines) fun _ _ => False := by
  obtain ⟨a, lines, hrun⟩ := hx c
  unfold Ends
  rw [hrun]
  exact ⟨lines, rfl⟩

end Says

-- Irreducible, so that no goal about a command is evaluated down to the characters of its line.
/-- The first word of a line. -/
@[irreducible] def command (line : String) : String := (Text.cutAt ' ' (Text.trim line)).1

/-- What comes behind the first word. -/
@[irreducible] def argument (line : String) : String :=
  Text.trim (Text.cutAt ' ' (Text.trim line)).2

/-- The commands that stop the console. -/
def quitting : List String := ["q", "quit", "exit"]

/-- What a command breaks off for, if it does: a number that is misread where there is something to
choose from, or flags that cannot be told. -/
def failure? (c : Console) (command : String) : Option Fault :=
  if Text.isNumeral command then
    if c.current.isSome then Text.misreading? command else none
  else if command = "status" && !c.engine.session.ledger.flags.all Atom.isText then some .mistyped
  else none

variable {cfg : Settings} {c d : Console} {g : String}

/-- A command leaves a console ready for more, and the lines to come as they are. -/
structure Follows (c d : Console) : Prop where
  ready : d.Ready
  input : d.input = c.input

theorem Ready.said (h : c.Ready) (lines : List String) : (c.said lines).Ready :=
  ⟨h.unhindered, h.listed⟩

theorem Says.follows {α : Type} {x : ConsoleStep α} (hx : Says x) (h : c.Ready) :
    ∃ a d, x c = .ok a d ∧ Follows c d := by
  obtain ⟨a, lines, hrun⟩ := hx c
  exact ⟨a, _, hrun, h.said lines, rfl⟩

/-- No call but one that registers graphs changes which there are. -/
theorem Ready.called (h : c.Ready) (cfg : Settings) (call : Call) (hsmooth : call.IsSmooth cfg)
    (hregister : ∀ graphs, call ≠ .register graphs) :
    ({ c with engine := call.after cfg c.engine } : Console).Ready := by
  have hgraphs := h.unhindered.sturdy.consistent.graphs_after cfg hregister
  refine ⟨h.unhindered.after hsmooth, fun g hg => ?_⟩
  rw [Session.graphNames_congr hgraphs]
  exact h.listed g hg

/-- A console whose engine has answered a request, with whatever there is to tell of it. -/
def answered (c : Console) (answer : Resolution × Engine) : Console :=
  ({ c with engine := answer.2 } : Console).said (answer.1.diagnostics.map fun d => s!"! {d}")

theorem onEngine_ok {α : Type} {x : EngineStep α} {a : α} {e : Engine} (h : x c.engine = .ok a e) :
    onEngine x c = .ok a { c with engine := e } := by
  unfold onEngine
  rw [h]

theorem onEngine_asStep (f : Engine → Resolution × Engine) (c : Console) :
    onEngine (Engine.asStep f) c = .ok (f c.engine).1 { c with engine := (f c.engine).2 } := rfl

theorem printDiagnostics_eq (r : Resolution) (c : Console) :
    printDiagnostics r c = .ok () (c.said (r.diagnostics.map fun d => s!"! {d}")) :=
  printAll_eq c _

/-- The choice that is shown with a number. -/
def chosen? (choices : List PresentedChoice) (k : Nat) : Option PresentedChoice :=
  if 1 ≤ k then choices[k - 1]? else none

theorem chosen?_of_le {choices : List PresentedChoice} {k : Nat} (hk : 1 ≤ k) :
    chosen? choices k = choices[k - 1]? := if_pos hk

theorem chosen?_eq_none_iff {choices : List PresentedChoice} {k : Nat} :
    chosen? choices k = none ↔ k = 0 ∨ choices.length < k := by
  unfold chosen?
  split
  · rw [List.getElem?_eq_none_iff]
    omega
  · simp only [true_iff]
    omega

theorem mem_of_chosen? {choices : List PresentedChoice} {k : Nat} {choice : PresentedChoice}
    (h : chosen? choices k = some choice) : choice ∈ choices := by
  unfold chosen? at h
  split at h
  · exact List.mem_of_getElem? h
  · cases h

theorem takeChoice_eq {node : PresentedNode}
    (hpresent : Engine.present cfg (some g) c.engine = .ok (some node) c.engine) (k : Nat) :
    takeChoice cfg g k c = match chosen? node.legal k with
      | none => .ok () (c.said ["no such choice"])
      | some choice => .ok () { c.answered (Engine.choose cfg g choice.id c.engine) with
          current := (Engine.choose cfg g choice.id c.engine).1.activeGraph } := by
  have hplace : (if 1 ≤ (k : Int) then node.legal[(k : Int).toNat - 1]? else none) =
      chosen? node.legal k := by
    simp [chosen?]
  unfold takeChoice
  rw [run_bind (presented_eq hpresent)]
  dsimp only
  rw [hplace]
  cases chosen? node.legal k with
  | none => rfl
  | some choice =>
    dsimp only
    rw [run_bind (onEngine_asStep _ c), run_bind (printDiagnostics_eq _ _)]
    rfl

theorem handleStart_eq (cfg : Settings) (g : String) (c : Console) : handleStart cfg g c =
    .ok () { c.answered (Engine.start cfg g c.engine) with
      current := if (Engine.start cfg g c.engine).1.accepted then
        (Engine.start cfg g c.engine).1.activeGraph else c.current } := by
  unfold handleStart
  rw [run_bind (onEngine_asStep _ c)]
  cases (Engine.start cfg g c.engine).1.accepted with
  | true => exact printDiagnostics_eq _ _
  | false => exact printDiagnostics_eq _ _

theorem handleAbandon_eq (cfg : Settings) (g : String) (c : Console) : handleAbandon cfg g c =
    .ok () (c.answered (Engine.abandon cfg
      (((nonEmpty? (some g)).or c.current).getD "") c.engine)) := by
  unfold handleAbandon
  rw [run_get]
  rw [run_bind (onEngine_asStep _ c), printDiagnostics_eq]
  rfl

section Requests

variable (h : c.Ready)
include h

theorem Ready.answered_choice (g choice : String) : Follows c
    { c.answered (Engine.choose cfg g choice c.engine) with
      current := (Engine.choose cfg g choice c.engine).1.activeGraph } := by
  have hconsistent := h.unhindered.sturdy.consistent
  have hchoose : Handles cfg (fun _ => True) (Step.choose cfg g choice) c.engine.session _ _ _ :=
    Step.handles_choose hconsistent.agrees hconsistent.sound g choice
  have hafter := h.called cfg (.choose g choice) trivial nofun
  exact ⟨⟨hafter.unhindered, Engine.active_of_handles hchoose g (some choice)⟩, rfl⟩

theorem Ready.answered_start (g : String) : Follows c
    { c.answered (Engine.start cfg g c.engine) with
      current := if (Engine.start cfg g c.engine).1.accepted then
        (Engine.start cfg g c.engine).1.activeGraph else c.current } := by
  have hconsistent := h.unhindered.sturdy.consistent
  have hstart : Handles cfg (fun _ => True) (Step.start cfg g) c.engine.session _ _ _ :=
    Step.handles_start hconsistent.agrees hconsistent.sound g
  have hafter := h.called cfg (.start g) trivial nofun
  refine ⟨⟨hafter.unhindered, ?_⟩, rfl⟩
  dsimp only
  split
  · exact Engine.active_of_handles hstart g none
  · exact hafter.listed

theorem Ready.answered_abandon (g : String) :
    Follows c (c.answered (Engine.abandon cfg g c.engine)) :=
  ⟨(h.called cfg (.abandon g) trivial nofun).said _, rfl⟩

theorem Ready.refreshes : ∃ names d, onEngine Engine.refresh c = .ok names d ∧ Follows c d := by
  have hengine := h.unhindered
  obtain ⟨t, hrun, _⟩ :=
    Engine.refresh_ok hengine.idle hengine.distinct hengine.judged hengine.answering
  have hafter := h.called .builtIn .refresh trivial nofun
  rw [Call.after, Call.ask, Call.answer_ok hrun] at hafter
  exact ⟨_, _, onEngine_ok hrun, hafter, rfl⟩

/-- Whoever goes to another place, or is not let in there, can go on. -/
theorem Ready.travels (place : String) : ∃ d, handleTravel place c = .ok () d ∧ Follows c d := by
  unfold handleTravel
  rw [run_get]
  by_cases hopen : c.engine.session.host.unlocked.contains place = true
  · let host : Host := { c.engine.session.host with
      location := some place, visited := Host.withName c.engine.session.host.visited place }
    have hmoved : Host.travel place c.engine.session.host = .ok () host := by
      unfold Host.travel
      rw [run_get, if_pos hopen]
      rfl
    rw [hmoved]
    have hthere := h.called .builtIn (.turn host) h.unhindered.mended nofun
    obtain ⟨names, d, hrun, hfollows⟩ := hthere.refreshes
    exact ⟨d, run_bind hrun, hfollows.ready, hfollows.input⟩
  · have hrefused : Host.travel place c.engine.session.host =
        .error (.refused (.locationLocked place)) c.engine.session.host := by
      unfold Host.travel
      rw [run_get, if_neg hopen]
      rfl
    rw [hrefused]
    exact ⟨_, print_eq c _, h.said _, rfl⟩

end Requests

/-- A service that is not down is called without a trace. -/
theorem ends_location_mended (hmended : c.engine.session.host.outages = []) :
    Ends (onEngine (Engine.onSession (Step.onHost Host.currentLocation))) c
      (fun _ d => d = c) fun _ _ => False := by
  rw [ends_onEngine, Engine.ends_onSession, Step.ends_onHost, Host.currentLocation, ends_bind]
  unfold Host.call
  rw [ends_bind, ends_get, hmended]
  rfl

/-- The status can be told just if the flags are texts. -/
theorem showStatus_ends (hmended : c.engine.session.host.outages = [])
    (htitle : ∀ value, ∃ title, Scale.reputationTitle cfg value = .ok title)
    (hlevel : ∀ value, ∃ level, Scale.relationshipLevel cfg value = .ok level) :
    Ends (showStatus cfg) c
      (fun _ d => c.engine.session.ledger.flags.all Atom.isText = true ∧ ∃ lines, d = c.said lines)
      fun why _ => c.engine.session.ledger.flags.all Atom.isText = false ∧ why = .mistyped := by
  unfold showStatus
  rw [ends_bind]
  refine (ends_location_mended hmended).mono (fun location d hd => ?_) fun _ _ h => h.elim
  rw [hd, ends_bind, print, ends_modify, ends_bind, ends_get]
  change Ends (ofExcept (flagTexts c.engine.session.ledger) >>= _) _ _ _
  cases htold : c.engine.session.ledger.flags.all Atom.isText with
  | false =>
    rw [flagTexts_error htold]
    exact ⟨rfl, rfl⟩
  | true =>
    refine Ends.mono (Says.ends ?_ _) ?_ fun _ _ h => h.elim
    · refine .bind (says_ofExcept (flagTexts_ok htold)) fun _ => .bind (says_print _) fun _ => ?_
      refine .bind (says_forM (fun p => ?_) _) fun _ =>
        .bind (says_forM (fun p => ?_) _) fun _ => ?_
      · exact .bind (says_ofExcept (htitle p.2)) fun _ => says_print _
      · exact .bind (says_ofExcept (hlevel p.2)) fun _ => says_print _
      · exact says_forM (fun _ => says_print _) _
    · intro _ d hd
      obtain ⟨lines, hd⟩ := hd
      exact ⟨rfl, _, hd.trans (said_said c [_] lines)⟩

/-- A text of digits is read as a number if there is something to choose from. -/
theorem handleNumber_ends (h : c.Standing cfg) {word : String}
    (hword : Text.isNumeral word = true) : Ends (handleNumber cfg word) c
      (fun _ d => Follows c d ∧ (c.current.isSome = true → Text.misreading? word = none))
      fun why _ => c.current.isSome = true ∧ Text.misreading? word = some why := by
  unfold handleNumber
  rw [ends_bind, ends_get]
  cases hg : c.current with
  | none => exact ends_of_ok (print_eq c _) ⟨⟨h.toReady.said _, rfl⟩, nofun⟩
  | some g =>
    have hread := Value.readNumeral_eq hword
    dsimp only
    rw [ends_bind]
    cases hmisread : Text.misreading? word with
    | some why =>
      rw [hmisread] at hread
      rw [hread]
      exact ⟨rfl, rfl⟩
    | none =>
      rw [hmisread] at hread
      obtain ⟨k, _, hread⟩ := hread
      rw [hread]
      obtain ⟨node, _, hpresent⟩ := h.shows g hg
      change Ends (takeChoice cfg g k) c _ _
      unfold Ends
      rw [takeChoice_eq hpresent]
      cases chosen? node.legal k with
      | none => exact ⟨⟨h.toReady.said _, rfl⟩, fun _ => rfl⟩
      | some choice => exact ⟨h.toReady.answered_choice g choice.id, fun _ => rfl⟩

/-- Does what a command says that does not stop the console. -/
def obey (cfg : Settings) (command arg : String) : ConsoleStep Unit :=
  if Text.isNumeral command then handleNumber cfg command
  else if command = "start" then handleStart cfg arg
  else if command = "abandon" then handleAbandon cfg arg
  else if command = "travel" then handleTravel arg
  else if command = "status" then showStatus cfg
  else if command = "history" then showHistory
  else if command = "save" then handleSave cfg
  else print helpText

theorem handle_eq (cfg : Settings) (line : String) : handle cfg line =
    if quitting.contains (command line) then pure false
    else obey cfg (command line) (argument line) >>= fun _ => pure true := by
  unfold handle quitting obey command argument
  dsimp only
  split_ifs <;> rfl

theorem says_history : Says showHistory := fun c => ⟨(), _, printAll_eq c _⟩

/-- Only numbers and the status can break off the game. -/
theorem failure?_of_quiet {word : String} (hnum : ¬ Text.isNumeral word = true)
    (hstatus : word ≠ "status") : c.failure? word = none := by
  rw [failure?, if_neg hnum, decide_eq_false hstatus]
  rfl

/-- A command is obeyed, or breaks off the game for what is wrong with it. -/
theorem obey_ends (haccepted : cfg.Accepted) (htitled : cfg.Titled) (h : c.Standing cfg)
    {word : String} (hsave : word ≠ "save") (arg : String) :
    Ends (obey cfg word arg) c (fun _ d => Follows c d ∧ c.failure? word = none)
      fun why _ => c.failure? word = some why := by
  have hspeaks := haccepted.speaks
  unfold obey
  by_cases hnum : Text.isNumeral word = true
  · rw [if_pos hnum, failure?, if_pos hnum]
    refine (handleNumber_ends h hnum).mono (fun _ d ⟨hd, hmisread⟩ => ⟨hd, ?_⟩)
      fun why _ ⟨hsome, hmisread⟩ => ?_
    · split
      next hsome => exact hmisread hsome
      next => rfl
    · rw [if_pos hsome, hmisread]
  rw [if_neg hnum]
  by_cases hstatus : word = "status"
  · subst hstatus
    rw [if_neg (by decide), if_neg (by decide), if_neg (by decide), if_pos rfl, failure?,
      if_neg hnum]
    refine (showStatus_ends h.unhindered.mended (fun value => (hspeaks.title value).2
      (htitled.tells value)) hspeaks.level).mono (fun _ d ⟨htold, lines, hd⟩ => ?_)
      fun why _ ⟨htold, hwhy⟩ => ?_
    · rw [hd, htold]
      exact ⟨⟨h.toReady.said lines, rfl⟩, by simp⟩
    · rw [htold, hwhy]
      rfl
  rw [failure?_of_quiet hnum hstatus]
  by_cases hstart : word = "start"
  · rw [if_pos hstart]
    exact ends_of_ok (handleStart_eq cfg arg c) ⟨h.toReady.answered_start arg, rfl⟩
  rw [if_neg hstart]
  by_cases habandon : word = "abandon"
  · rw [if_pos habandon]
    exact ends_of_ok (handleAbandon_eq cfg arg c) ⟨h.toReady.answered_abandon _, rfl⟩
  rw [if_neg habandon]
  by_cases htravel : word = "travel"
  · rw [if_pos htravel]
    obtain ⟨d, hrun, hfollows⟩ := h.toReady.travels arg
    exact ends_of_ok hrun ⟨hfollows, rfl⟩
  rw [if_neg htravel, if_neg hstatus]
  by_cases hhistory : word = "history"
  · rw [if_pos hhistory]
    obtain ⟨_, d, hrun, hfollows⟩ := says_history.follows h.toReady
    exact ends_of_ok hrun ⟨hfollows, rfl⟩
  rw [if_neg hhistory, if_neg hsave]
  exact ends_of_ok (print_eq c _) ⟨⟨h.toReady.said _, rfl⟩, rfl⟩

end Console

end Questline
