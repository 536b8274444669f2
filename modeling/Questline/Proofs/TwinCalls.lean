import Questline.Proofs.Restoration
import Questline.Proofs.Twins

/-! Twin sessions answer every request in the same way, and stay twins. -/

namespace Questline

namespace Step

variable {cfg : Settings}

theorem instanceOf_twin (g : String) : Twinned (instanceOf g) (instanceOf g) := by
  refine get_twin fun s l c _ => ?_
  simp only [Session.instance?_twin]
  split
  · exact .pure _
  · exact .throw _

theorem nodeOf_twin (i : Instance) (id : String) : Twinned (nodeOf i id) (nodeOf i id) := by
  unfold nodeOf
  split
  · exact .pure _
  · exact .throw _

theorem activeNodeOf_twin (i : Instance) : Twinned (activeNodeOf i) (activeNodeOf i) := by
  unfold activeNodeOf
  split
  · exact .pure none
  · exact .map _ (nodeOf_twin _ _)

theorem ofExcept_twin {α : Type} (x : Except Fault α) : Twinned (ofExcept x) (ofExcept x) := by
  cases x with
  | ok a => exact .pure a
  | error why => exact .throw why

theorem reasonsAgainst_twin {l m : Ledger} (h : l.Twin m) (n : Node) (c : Choice) :
    Twinned (reasonsAgainst cfg l n c) (reasonsAgainst cfg m n c) := by
  unfold reasonsAgainst
  rw [Requirement.unmet_twin h]
  exact .bind (onHost_twin _) fun _ => ofExcept_twin _

theorem judge_twin {l m : Ledger} (h : l.Twin m) (n : Node) (choices : List Choice) :
    Twinned (judge cfg l n choices) (judge cfg m n choices) := by
  induction choices with
  | nil => exact .pure []
  | cons c rest ih =>
    exact .bind (reasonsAgainst_twin h n c) fun _ => .bind ih fun _ => .pure _

theorem present_twin (g : String) : Twinned (present cfg g) (present cfg g) := by
  refine .bind (instanceOf_twin g) fun i => .bind (activeNodeOf_twin i) fun active => ?_
  cases active with
  | none => exact .pure none
  | some n =>
    refine get_twin fun s l c hl => ?_
    dsimp only
    split
    · exact .pure _
    · exact .bind (judge_twin hl n n.choices) fun _ => .pure _

theorem checkNotEnded_twin : Twinned checkNotEnded checkNotEnded := by
  refine get_twin fun s l c _ => ?_
  dsimp only
  split
  · exact .throw _
  · exact .pure ()

theorem enterNode_twin (g n : String) : Twinned (enterNode cfg g n) (enterNode cfg g n) :=
  .bind (update_twin _ _) fun _ => .bind (instanceOf_twin g) fun i =>
    .bind (nodeOf_twin i n) fun _ => applyOutcomes_twin _ _ _

theorem startGraph_twin (i : Instance) : Twinned (startGraph cfg i) (startGraph cfg i) :=
  .bind (transition_twin _ _) fun _ => enterNode_twin _ _

theorem completeGraph_twin (i : Instance) : Twinned (completeGraph cfg i) (completeGraph cfg i) :=
  .bind (transition_twin _ _) fun _ => applyOutcomes_twin _ _ _

theorem failGraph_twin (i : Instance) : Twinned (failGraph cfg i) (failGraph cfg i) :=
  .bind (transition_twin _ _) fun _ => applyOutcomes_twin _ _ _

theorem stateNow_twin (i : Instance) : Twinned (stateNow i) (stateNow i) := by
  refine get_twin fun s l c _ => ?_
  simp only [Session.instance?_twin]
  split <;> exact .pure _

theorem finishIfEnded_twin (i : Instance) :
    Twinned (finishIfEnded cfg i) (finishIfEnded cfg i) := by
  refine get_twin fun s l c _ => ?_
  dsimp only
  split
  · exact .pure false
  next failed _ =>
    refine .bind (stateNow_twin i) fun state => ?_
    split
    · cases failed
      · exact .bind (completeGraph_twin i) fun _ => .pure true
      · exact .bind (failGraph_twin i) fun _ => .pure true
    · exact .pure true

theorem chainTo_twin (g : String) : Twinned (chainTo cfg g) (chainTo cfg g) := by
  refine get_twin fun s l c _ => ?_
  simp only [Session.instance?_twin]
  split
  · exact .throw _
  next i _ =>
    refine .bind refreshAvailability_twin fun _ => get_twin fun s l c _ => ?_
    change Twinned (if s.canStart g then _ else _) (if s.canStart g then _ else _)
    split
    · exact .bind (startGraph_twin i) fun _ => .bind (finishIfEnded_twin i) fun _ =>
        .bind (stateNow_twin i) fun _ => .pure _
    · exact .bind (stateNow_twin i) fun _ => .bind (report_twin _) fun _ => .pure none

theorem advance_twin (i : Instance) (c : Choice) : Twinned (advance cfg i c) (advance cfg i c) := by
  refine .bind (applyOutcomes_twin _ _ _) fun _ => .bind (finishIfEnded_twin i) fun ended => ?_
  split
  · exact .pure _
  · split
    · exact .bind (enterNode_twin _ _) fun _ => .bind (finishIfEnded_twin i) fun _ => .pure _
    · refine .bind (completeGraph_twin i) fun _ => get_twin fun s l c _ => ?_
      change Twinned (if s.ending.isNone then _ else _) (if s.ending.isNone then _ else _)
      split
      · exact chainTo_twin _
      · exact .pure none
    · exact .bind (completeGraph_twin i) fun _ => .pure none

theorem conclude_twin (g : String) (choice active : Option String) :
    Twinned (conclude g choice active) (conclude g choice active) :=
  get_twin fun _ _ _ _ => .bind commit_twin fun _ => get_twin fun _ _ _ _ => .pure _

theorem start_twin (cfg : Settings) (g : String) : Twinned (start cfg g) (start cfg g) := by
  refine .bind checkNotEnded_twin fun _ => .bind (instanceOf_twin g) fun i =>
    get_twin fun s l c _ => ?_
  change Twinned (if s.canStart g then _ else _) (if s.canStart g then _ else _)
  split
  · refine .bind (openEntry_twin _ _ _ _ _) fun _ => .bind (settling_twin ?_) fun _ =>
      conclude_twin _ _ _
    exact .bind (startGraph_twin i) fun _ => .bind (finishIfEnded_twin i) fun _ => .pure ()
  · split
    · exact .throw_bind _ _ _
    · exact .throw_bind _ _ _

theorem choose_twin (cfg : Settings) (g choice : String) :
    Twinned (choose cfg g choice) (choose cfg g choice) := by
  refine .bind checkNotEnded_twin fun _ => .bind (instanceOf_twin g) fun i => ?_
  split
  · refine .bind (activeNodeOf_twin i) fun active => ?_
    split
    · exact .throw _
    · split
      · exact .throw _
      · refine get_twin fun s l c hl => .bind (reasonsAgainst_twin hl _ _) fun reasons => ?_
        split
        · refine .bind (openEntry_twin _ _ _ _ _) fun _ => .bind (settling_twin ?_) fun _ =>
            conclude_twin _ _ _
          exact .bind (advance_twin i _) fun _ => .bind refreshAvailability_twin fun _ => .pure _
        · exact .throw _
  · exact .throw _

theorem abandon_twin (cfg : Settings) (g : String) : Twinned (abandon cfg g) (abandon cfg g) := by
  refine .bind checkNotEnded_twin fun _ => .bind (instanceOf_twin g) fun i => ?_
  split
  · refine .bind (openEntry_twin _ _ _ _ _) fun _ => .bind (settling_twin ?_) fun _ =>
      conclude_twin _ _ _
    exact .bind (failGraph_twin i) fun _ => refreshAvailability_twin
  · exact .throw _

theorem begin_twin : Twinned begin begin :=
  .bind (openEntry_twin _ _ _ _ _) fun _ => .bind refreshAvailability_twin fun _ =>
    .bind commit_twin fun _ => .pure ()

theorem refreshed_twin : Twinned refreshed refreshed := by
  refine .bind (openEntry_twin _ _ _ _ _) fun _ =>
    .bind (settling_twin refreshAvailability_twin) fun _ => get_twin fun s l c _ => ?_
  change Twinned (if s.hasPendingChanges then _ else _) (if s.hasPendingChanges then _ else _)
  split
  · exact .bind commit_twin fun _ => .pure ()
  · exact discard_twin

end Step

/-- Engines whose sessions are twins; what they keep for diagnosis may differ. -/
def Engine.Twin (e e' : Engine) : Prop := e.session.Twin e'.session

/-- Two steps that do the same to twin engines. -/
abbrev Paired {ε α : Type} (x y : EStateM ε Engine α) : Prop := Respects Engine.Twin x y

namespace Engine

variable {cfg : Settings} {e e' : Engine}

theorem get_twin {ε α : Type} {f g : Engine → EStateM ε Engine α}
    (h : ∀ s d d' ledger clock, s.ledger.Twin ledger →
      Paired (f ⟨s, d⟩) (g ⟨{ s with ledger, clock }, d'⟩)) : Paired (get >>= f) (get >>= g) := by
  refine .get_bind fun ⟨s, d⟩ ⟨t, d'⟩ ⟨l, c, hl, _, ht⟩ => ?_
  cases ht
  exact h s d d' l c hl

theorem onSession_twin {α : Type} {x y : Step α} (h : Twinned x y) :
    Paired (onSession x) (onSession y) := by
  intro e e' he
  unfold onSession
  rcases h.cases he with ⟨a, s, t, hx, hy, hst⟩ | ⟨why, s, t, hx, hy, hst⟩ <;> rw [hx, hy] <;>
    exact ⟨rfl, hst⟩

theorem request_twin {x : Step Resolution} (h : Twinned x x) (he : e.Twin e') (g : String)
    (choice : Option String) : (request g choice x e).1 = (request g choice x e').1 ∧
      (request g choice x e).2.Twin (request g choice x e').2 := by
  unfold request
  rcases h.cases he with ⟨r, s, t, hx, hy, hst⟩ | ⟨why, s, t, hx, hy, hst⟩ <;> rw [hx, hy] <;>
    exact ⟨rfl, hst⟩

theorem start_twin (cfg : Settings) (he : e.Twin e') (g : String) :
    (start cfg g e).1 = (start cfg g e').1 ∧ (start cfg g e).2.Twin (start cfg g e').2 :=
  request_twin (Step.start_twin cfg g) he g none

theorem newGame_twin (startMain : Bool) :
    Paired (newGame cfg startMain) (newGame cfg startMain) := by
  refine .bind (.modify fun e e' ⟨l, c, _, hc, ht⟩ => ?_) fun _ =>
    .bind (onSession_twin Step.begin_twin) fun _ => get_twin fun s d d' l c _ => ?_
  · refine ⟨.empty, c, .inl rfl, hc, ?_⟩
    rw [forget, forget, ht]
  · change Paired
      (if startMain = true ∧ (s.instance? cfg.mainQuest).isSome = true then _ else _)
      (if startMain = true ∧ (s.instance? cfg.mainQuest).isSome = true then _ else _)
    split
    · exact .map _ fun e e' he => start_twin cfg he _
    · exact .pure none

theorem diagnose_twin (messages : List String) : Paired (diagnose messages) (diagnose messages) :=
  .modify fun _ _ h => h

theorem applyExternal_twin (reports : List Report) (source : String) :
    Paired (applyExternal cfg reports source) (applyExternal cfg reports source) := by
  refine get_twin fun s d d' l c _ => ?_
  change Paired (if s.ending.isSome then _ else _) (if s.ending.isSome then _ else _)
  split
  · exact .bind (diagnose_twin _) fun _ => .pure none
  · split
    · split
      · exact .bind (diagnose_twin _) fun _ => .pure none
      · exact .throw _
    · refine .bind (onSession_twin ?_) fun _ => get_twin fun s d d' l c _ => ?_
      · exact .bind (Step.openEntry_twin _ _ _ _ _) fun _ =>
          Step.settling_twin (Step.applyOutcomes_twin _ _ _)
      · exact .bind (diagnose_twin _) fun _ => .map _ (onSession_twin Step.commit_twin)

theorem refresh_twin : Paired refresh refresh :=
  get_twin fun _ _ _ _ _ _ => .bind (onSession_twin Step.refreshed_twin) fun _ =>
    get_twin fun _ _ _ _ _ _ => .pure _

theorem present_twin (g : Option String) : Paired (present cfg g) (present cfg g) := by
  refine get_twin fun s d d' l c _ => ?_
  simp only [Session.currentGraph_twin]
  split
  · exact .pure none
  next graph _ =>
    change Paired (if (s.instance? graph).isSome then _ else _)
      (if (s.instance? graph).isSome then _ else _)
    split
    · exact onSession_twin (Step.present_twin graph)
    · exact .pure none

theorem restore_twin (data : Value) : Paired (restore data) (restore data) := by
  rintro ⟨s, d⟩ ⟨_, d'⟩ ⟨l, c, hl, hc, rfl⟩
  cases haccept : accept data s with
  | error why =>
    rw [restore_of_refused (e := ⟨s, d⟩) haccept,
      restore_of_refused (e := ⟨{ s with ledger := l, clock := c }, d'⟩) haccept]
    exact ⟨rfl, l, c, hl, hc, rfl⟩
  | ok saved =>
    have hordered := ordered_of_accept haccept
    rw [restore_of_accept (e := ⟨s, d⟩) haccept hordered,
      restore_of_accept (e := ⟨{ s with ledger := l, clock := c }, d'⟩) haccept hordered]
    exact ⟨rfl, saved.ledger, c, .inl rfl, hc, rfl⟩

theorem register_twin (he : e.Twin e') (graphs : List Graph) :
    (∃ f f', e.register graphs = .ok f ∧ e'.register graphs = .ok f' ∧ f.Twin f') ∨
      ∃ why, e.register graphs = .error why ∧ e'.register graphs = .error why := by
  obtain ⟨l, c, hl, hc, ht⟩ := he
  unfold register
  rw [ht]
  dsimp only
  cases Graph.validateAll graphs (e.session.instances.map (·.graph.id)) with
  | ok accepted => exact .inl ⟨_, _, rfl, rfl, l, c, hl, hc, rfl⟩
  | error why => exact .inr ⟨why, rfl, rfl⟩

theorem serialize_twin (he : e.Twin e') : e.serialize = e'.serialize := by
  obtain ⟨l, c, hl, _, ht⟩ := he
  unfold serialize
  rw [ht]
  change (e.session.ledger.toValue >>= fun ledger => _) = (l.toValue >>= fun ledger => _)
  rw [hl.toValue]
  rfl

theorem verifyReplay_twin (he : e.Twin e') : e.verifyReplay cfg = e'.verifyReplay cfg := by
  obtain ⟨l, c, hl, _, ht⟩ := he
  unfold verifyReplay replay
  rw [ht]
  simp only [hl.alike.same_congr, hl.describe]

end Engine

namespace Call

variable {cfg : Settings} {e e' : Engine}

theorem answer_twin {ε α : Type} {x : EStateM ε Engine α} (h : Paired x x) (he : e.Twin e')
    (show' : Except ε α → Answer) : (answer x show' e).1 = (answer x show' e').1 ∧
      (answer x show' e).2.Twin (answer x show' e').2 := by
  unfold answer
  rcases h.cases he with ⟨a, f, f', hx, hy, hff'⟩ | ⟨why, f, f', hx, hy, hff'⟩ <;> rw [hx, hy] <;>
    exact ⟨rfl, hff'⟩

/-- Twin engines answer every call in the same way, and stay twins. -/
theorem ask_twin (cfg : Settings) (c : Call) (he : e.Twin e') :
    (c.ask cfg e).1 = (c.ask cfg e').1 ∧ (c.ask cfg e).2.Twin (c.ask cfg e').2 := by
  cases c with
  | newGame startMain => exact answer_twin (Engine.newGame_twin startMain) he _
  | start g =>
    have h := Engine.start_twin cfg he g
    exact ⟨congrArg Answer.resolved h.1, h.2⟩
  | choose g choice =>
    have h := Engine.request_twin (Step.choose_twin cfg g choice) he g (some choice)
    exact ⟨congrArg Answer.resolved h.1, h.2⟩
  | abandon g =>
    have h := Engine.request_twin (Step.abandon_twin cfg g) he g none
    exact ⟨congrArg Answer.resolved h.1, h.2⟩
  | external reports source => exact answer_twin (Engine.applyExternal_twin reports source) he _
  | refresh => exact answer_twin Engine.refresh_twin he _
  | register graphs =>
    rw [ask, ask]
    rcases Engine.register_twin he graphs with ⟨f, f', hf, hf', hff'⟩ | ⟨why, hwhy, hwhy'⟩
    · rw [hf, hf']
      exact ⟨rfl, hff'⟩
    · rw [hwhy, hwhy']
      exact ⟨rfl, he⟩
  | restore data => exact answer_twin (Engine.restore_twin data) he _
  | turn host =>
    obtain ⟨l, c, hl, hc, ht⟩ := he
    refine ⟨rfl, l, c, hl, hc, ?_⟩
    rw [ask, ask, ht]
  | present g => exact answer_twin (Engine.present_twin g) he _
  | serialize => exact ⟨congrArg Answer.data (Engine.serialize_twin he), he⟩
  | verify => exact ⟨congrArg Answer.verified (Engine.verifyReplay_twin he), he⟩
  | lifecycle | graphsIn | ending | history | replay =>
    refine ⟨?_, he⟩
    obtain ⟨t, d⟩ := e'
    obtain ⟨l, c, _, _, ht⟩ := he
    cases ht
    rfl

end Call

/-- No series of calls can tell twin engines apart. -/
theorem Engine.Twin.answers {e e' : Engine} (cfg : Settings) (h : e.Twin e') (calls : List Call) :
    e.answers cfg calls = e'.answers cfg calls := by
  induction calls generalizing e e' with
  | nil => rfl
  | cons c rest ih =>
    have hc := c.ask_twin cfg h
    exact congrArg₂ List.cons hc.1 (ih hc.2)

end Questline
