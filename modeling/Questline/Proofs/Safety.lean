import Questline.Proofs.Presenting
import Questline.Proofs.Reaching

/-! Accepted content can be played.  As long as all facts can be had, a request comes to nothing
only where the story does not allow it, and every graph can be shown. -/

namespace Questline

/-- Facts can still be had after the call, and all graphs still come from content. -/
def Call.IsFair (cfg : Settings) : Call → Prop
  | .turn host => host.Answering
  | .register graphs => Loaded cfg graphs
  | _ => True

/-- The names that a request to the story gives. -/
def Call.names : Call → List String
  | .start g | .abandon g => [g]
  | .choose g choice => [g, choice]
  | _ => []

/-- Whatever is asked of the story, nothing goes wrong inside.  A message may read as if something
had only where a name does that has been given. -/
structure Engine.Playable (cfg : Settings) (e : Engine) : Prop where
  start : ∀ g, Ends (Step.start cfg g) e.session (fun _ _ => True)
    fun why _ => ∃ refusal, why = .illegal refusal
  choose : ∀ g choice, Ends (Step.choose cfg g choice) e.session (fun _ _ => True)
    fun why _ => ∃ refusal, why = .illegal refusal
  abandon : ∀ g, Ends (Step.abandon cfg g) e.session (fun _ _ => True)
    fun why _ => ∃ refusal, why = .illegal refusal
  present : ∀ g, ∃ shown e', Engine.present cfg (some g) e = .ok shown e'
  told : ∀ (c : Call) (r : Resolution), (c.ask cfg e).1 = .resolved r →
    (c.after cfg e).diagnostics = e.diagnostics ++ r.diagnostics ∧
      ∀ m ∈ r.diagnostics, isInternal m = true → ∃ name ∈ c.names, isInternal name = true

/-- Words in which no blank is followed by an `i`, and which do not end with a blank, are a prefix
of what is followed by both only if they are a prefix without. -/
theorem prefix_of_subject {words name message : List Char} (hinner : ¬ [' ', 'i'] <:+: words)
    (hend : words.getLast? ≠ some ' ') (hmessage : name ++ [' ', 'i'] <+: message)
    (h : words <+: message) : words <+: name := by
  obtain ⟨rest, rfl⟩ := hmessage
  rw [List.append_assoc] at h
  refine (List.prefix_or_prefix_of_prefix h (List.prefix_append _ _)).elim id
    fun ⟨left, hleft⟩ => ?_
  subst hleft
  rw [List.prefix_append_right_inj] at h
  -- the words would go on behind the name, but they neither end in its blank nor have it inside
  cases left with
  | nil => simp
  | cons a left =>
    cases (List.cons_prefix_cons.1 h).1
    cases left with
    | nil => simp at hend
    | cons b left =>
      cases (List.cons_prefix_cons.1 (List.cons_prefix_cons.1 h).2).1
      exact absurd ⟨name, left, by simp⟩ hinner

/-- A message reads like an error inside only if the name does with which it begins. -/
theorem isInternal_of_subject {name message : String}
    (hmessage : name.toList ++ [' ', 'i'] <+: message.toList)
    (h : isInternal message = true) : isInternal name = true := by
  have hinner : ¬ [' ', 'i'] <:+: "internal error".toList := by simp [List.infix_cons_iff]
  exact List.isPrefixOf_iff_prefix.2
    (prefix_of_subject hinner (by decide) hmessage (List.isPrefixOf_iff_prefix.1 h))

theorem IllegalChoice.internal_message {why : IllegalChoice} (h : isInternal why.message = true) :
    ∃ name ∈ why.subject?, isInternal name = true := by
  have hmild (message : String) (hsame : why.message = message)
      (hhead : message.toList.head?.all (· ≠ 'i') = true) : False := by
    rw [hsame, isInternal_of_head hhead] at h
    cases h
  have hnamed {name : String} (message : String) (hsame : why.message = message)
      (hsubject : name.toList ++ [' ', 'i'] <+: message.toList) : isInternal name = true :=
    isInternal_of_subject hsubject (hsame ▸ h)
  cases why with
  | storyEnded ending => exact (hmild ("the story has ended (" ++ ending ++ ")") rfl (by simp)).elim
  | unknownGraph graph => exact (hmild ("unknown graph " ++ graph) rfl (by simp)).elim
  | noSuchChoice choice graph node =>
    exact (hmild ("no choice " ++ choice ++ " at " ++ graph ++ "/" ++ node) rfl (by simp)).elim
  | alreadyCompleted graph =>
    exact ⟨graph, rfl, hnamed (graph ++ " is already completed") rfl (by simp)⟩
  | notAvailable graph state =>
    exact ⟨graph, rfl, hnamed (graph ++ " is " ++ state.word ++ ", not available") rfl (by simp)⟩
  | notInProgress graph state =>
    exact ⟨graph, rfl, hnamed (graph ++ " is " ++ state.word ++ ", not in progress") rfl (by simp)⟩
  | cannotAbandon graph state =>
    exact ⟨graph, rfl, hnamed (graph ++ " is " ++ state.word ++ ", cannot abandon") rfl (by simp)⟩
  | notLegal choice reasons =>
    exact ⟨choice, rfl, hnamed (choice ++ " is not legal: " ++ ", ".intercalate reasons) rfl
      (by simp)⟩

variable {cfg : Settings} {e : Engine}

namespace Engine

/-- What holds of an engine between two calls as long as all facts can be had. -/
structure Untroubled (e : Engine) : Prop where
  sturdy : e.Sturdy
  idle : e.session.pending = none
  answering : e.session.host.Answering

namespace Untroubled

theorem ofGraphs {graphs : List Graph} {host : Host} {clock : Clock}
    (hgraphs : ∀ g ∈ graphs, g.Regular) (hhost : host.Answering)
    (h : Engine.ofGraphs graphs host clock = .ok e) : e.Untroubled := by
  obtain ⟨he, _⟩ := of_register h
  exact ⟨.ofGraphs hgraphs h, he ▸ rfl, he ▸ hhost⟩

/-- No fair call leaves an entry open. -/
theorem after (h : e.Untroubled) {c : Call} (hc : c.IsFair cfg) : (c.after cfg e).Untroubled := by
  obtain ⟨hsturdy, hidle, hanswers⟩ := h
  have hconsistent := hsturdy.consistent
  have hsturdy' : (c.after cfg e).Sturdy := hsturdy.after fun graphs he => by
    subst he
    exact Loaded.regular hc
  by_cases hplay : c.isPlay = true ∧ ∀ host, c ≠ .turn host
  · obtain ⟨acts, hruns⟩ := hconsistent.runs cfg hplay.1 fun _ _ => hidle
    exact ⟨hsturdy', hruns.closed hidle, hruns.answering hplay.2 hanswers⟩
  cases c with
  | newGame startMain =>
    obtain ⟨r, e', hbegun⟩ := hconsistent.newGame_begins cfg hidle
      (fun g hg => (hsturdy.regular g hg).judgeable) hanswers startMain
    obtain ⟨acts, hruns⟩ := hconsistent.runs_newGame hbegun
    rw [Call.after, Call.ask, Call.answer_ok hbegun] at hsturdy' ⊢
    exact ⟨hsturdy', hruns.closed hidle, hruns.answering (by simp) hanswers⟩
  | register graphs =>
    rw [Call.after, Call.ask] at hsturdy' ⊢
    split at hsturdy'
    next e' hr =>
      obtain ⟨he, _⟩ := of_register hr
      exact ⟨hsturdy', he ▸ hidle, he ▸ hanswers⟩
    next => exact ⟨hsturdy', hidle, hanswers⟩
  | restore data =>
    rw [Call.after, Call.ask] at hsturdy' ⊢
    cases haccept : accept data e.session with
    | error why =>
      rw [Call.answer_error (restore_of_refused haccept)]
      exact ⟨hsturdy, hidle, hanswers⟩
    | ok saved =>
      have hrestored := Call.answer_ok (restore_of_accept haccept (ordered_of_accept haccept))
        Answer.restored
      rw [hrestored] at hsturdy' ⊢
      exact ⟨hsturdy', hidle, hanswers⟩
  | turn host => exact ⟨hsturdy', hidle, hc⟩
  | _ => exact absurd ⟨rfl, by simp⟩ hplay

theorem afterAll (h : e.Untroubled) {calls : List Call} (hcalls : ∀ c ∈ calls, c.IsFair cfg) :
    (e.afterAll cfg calls).Untroubled := by
  induction calls generalizing e with
  | nil => exact h
  | cons c rest ih =>
    rw [List.forall_mem_cons] at hcalls
    exact ih (h.after hcalls.1) hcalls.2

/-- Messages tell of no error inside, unless the names do that have been given. -/
theorem told_of_handles {reported : Outcome → Prop} {x : Step Resolution}
    {entry : EntryKind × Option String} {script : List Act → Prop} {refuses : IllegalChoice → Prop}
    (hx : Handles cfg reported x e.session entry script refuses) (hready : e.session.Ready cfg)
    {g : String} {choice : Option String} {names : List String}
    (hnames : ∀ why, refuses why → ∀ name ∈ why.subject?, name ∈ names) :
    ∀ m ∈ (request g choice x e).1.diagnostics, isInternal m = true →
      ∃ name ∈ names, isInternal name = true := by
  intro m hm hinternal
  rcases request_of_handles hx hready g choice with ⟨_, hmild, _⟩ | ⟨why, hwhy, hr⟩
  · cases (hmild m hm).symm.trans hinternal
  · rw [hr] at hm
    cases List.mem_singleton.1 hm
    obtain ⟨name, hname, hinternal⟩ := IllegalChoice.internal_message hinternal
    exact ⟨name, hnames why hwhy name hname, hinternal⟩

theorem playable (h : e.Untroubled) (hcfg : cfg.Describes) : e.Playable cfg := by
  obtain ⟨hsturdy, hidle, hanswers⟩ := h
  have hagrees := hsturdy.consistent.agrees
  have hsound := hsturdy.consistent.sound
  have hready := hsturdy.ready hidle hanswers hcfg
  have hillegal {refuses : IllegalChoice → Prop} (why : Fault) (_ : Session)
      (h : why.IsIllegal refuses) : ∃ refusal, why = .illegal refusal := h.imp fun _ h => h.1
  have hstart (g : String) : Handles cfg (fun _ => True) (Step.start cfg g) e.session _ _ _ :=
    Step.handles_start hagrees hsound g
  have hchoose (g choice : String) :
      Handles cfg (fun _ => True) (Step.choose cfg g choice) e.session _ _ _ :=
    Step.handles_choose hagrees hsound g choice
  have habandon (g : String) : Handles cfg (fun _ => True) (Step.abandon cfg g) e.session _ _ _ :=
    Step.handles_abandon hagrees hsound g
  constructor
  case start => exact fun g => ((hstart g).refused hready).mono (fun _ _ h => h) hillegal
  case choose =>
    exact fun g choice => ((hchoose g choice).refused hready).mono (fun _ _ h => h) hillegal
  case abandon => exact fun g => ((habandon g).refused hready).mono (fun _ _ h => h) hillegal
  case present =>
    intro g
    obtain ⟨shown, _, _, hpresent⟩ := hsturdy.presents hanswers hcfg g
    exact ⟨shown, _, hpresent⟩
  case told =>
    intro c r hr
    rcases Call.of_resolved hr with ⟨g, rfl⟩ | ⟨g, choice, rfl⟩ | ⟨g, rfl⟩
    · cases hr
      exact ⟨diagnostics_request .., told_of_handles (hstart g) hready (by simp [Call.names])⟩
    · cases hr
      have hnames (why : IllegalChoice) (hwhy : e.session.Refuses cfg g choice why) :
          ∀ name ∈ why.subject?, name ∈ Call.names (.choose g choice) := by
        simpa [Call.names] using hwhy.subject
      exact ⟨diagnostics_request .., told_of_handles (hchoose g choice) hready hnames⟩
    · cases hr
      exact ⟨diagnostics_request .., told_of_handles (habandon g) hready (by simp [Call.names])⟩

end Untroubled

end Engine

/-- An errand by a name that reads like an error inside. -/
def Content.misnamed : Content :=
  Content.errand.map fun (id, graph) => (if id = "errand" then "internal error" else id, graph)

/-- A patrol for the skilled, which does not say how skilled: no content reads like this. -/
def Graph.drill : Graph :=
  { Graph.patrol with id := "drill", requirements :=
      [{ kind := .skillLevel, subject := "aim", comparator := .atLeast, value := none }] }

end Questline
