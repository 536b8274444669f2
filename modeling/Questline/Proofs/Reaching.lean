import Questline.Proofs.Authoring
import Questline.Proofs.Games
import Questline.Proofs.Writing

/-! The engines that games lead to.  Between two calls no entry is open, and what there is can be
written down.  Only a new game can be broken off without that, and only by a service that has been
asked for a fact. -/

namespace Questline

section NewGames

variable {cfg : Settings} {I : Host → Prop} {F : Fault → Prop} (hcall : ∀ (r : Requirement)
  (service : Service), r.service? = some service → Guarded I F (Host.call service))

include hcall

theorem Step.begin_guarded (cfg : Settings) {s : Session} (hs : s.Agrees) (hsound : s.Sound)
    (hidle : s.pending = none) (hhost : I s.host)
    (hjudged : ∀ g ∈ s.graphs, ∀ r ∈ g.requirements, r.Judgeable) :
    Ends begin s (fun _ _ => True) fun why _ => F why := by
  have hworking := working_opened hs hsound { kind := .newGame }
  have hpass : Plays cfg (fun _ => True) refreshAvailability _ _ _ :=
    plays_refreshAvailability hworking
  have hpromote := Guarded.promote hcall
    (fun i hi r hr => (hjudged i.graph (List.mem_map_of_mem hi) r hr).errsWithin F) s.ledger
  unfold begin
  rw [ends_openEntry_bind hidle, ends_bind]
  refine (Ends.and hpass (hpromote _ hhost)).mono
    (fun _ t ⟨⟨acts, hc, hcalm⟩, _⟩ => ?_) fun _ _ h => h.2
  -- the pass leaves the entry open, so the commit finds one and cannot fail
  obtain ⟨p, hp⟩ := Option.isSome_iff_exists.1 (hworking.course hc hcalm.inner).entry
  rw [ends_bind]
  unfold Ends
  rw [commit_eq hp]
  trivial

theorem Engine.Consistent.newGame_guarded {graphs : List Graph} {e e' : Engine}
    (h : e.Consistent graphs) (hidle : e.session.pending = none) (hhost : I e.session.host)
    (hjudged : ∀ g ∈ e.session.graphs, ∀ r ∈ g.requirements, r.Judgeable) {startMain : Bool}
    {why : Fault} (hfailed : Engine.newGame cfg startMain e = .error why e') : F why := by
  have hforgot := h.forget
  have hbegin := Step.begin_guarded hcall cfg hforgot.agrees hforgot.sound hidle hhost
    (graphs_forget e ▸ hjudged)
  obtain ⟨t, hb, _⟩ := newGame_eq_error hfailed
  exact hbegin.of_error hb

end NewGames

namespace Engine

variable {cfg : Settings} {graphs : List Graph} {e e' : Engine}

theorem Consistent.newGame_down (h : e.Consistent graphs) (hidle : e.session.pending = none)
    (hjudged : ∀ g ∈ e.session.graphs, ∀ r ∈ g.requirements, r.Judgeable) {startMain : Bool}
    {why : Fault} (hfailed : Engine.newGame cfg startMain e = .error why e') :
    ∃ service, why = .down service :=
  h.newGame_guarded (fun _ service _ => .call_down service) hidle trivial hjudged hfailed

/-- A new game begins where all facts can be had, whatever else is down. -/
theorem Consistent.newGame_begins (cfg : Settings) (h : e.Consistent graphs)
    (hidle : e.session.pending = none)
    (hjudged : ∀ g ∈ e.session.graphs, ∀ r ∈ g.requirements, r.Judgeable)
    (hanswers : e.session.host.Answering) (startMain : Bool) :
    ∃ r e', Engine.newGame cfg startMain e = .ok r e' := by
  cases hnew : Engine.newGame cfg startMain e with
  | ok r e' => exact ⟨r, e', rfl⟩
  | error why e' =>
    exact (h.newGame_guarded (fun _ _ => .call_answering) hidle hanswers hjudged hnew).elim

end Engine

/-- A call that is no restoring, and no new game that is broken off. -/
def Call.Concludes (cfg : Settings) (e : Engine) : Call → Prop
  | .newGame startMain => ∀ why, ((Call.newGame startMain).ask cfg e).1 ≠ .begun (.error why)
  | .restore _ => False
  | _ => True

theorem Call.concludes_newGame {cfg : Settings} {e e' : Engine} {startMain : Bool}
    {r : Option Resolution} (h : Engine.newGame cfg startMain e = .ok r e') :
    (Call.newGame startMain).Concludes cfg e := by
  intro why hbroken
  rw [ask, answer_ok h] at hbroken
  cases hbroken

theorem Call.concludes_of_isPlay {c : Call} (h : c.isPlay = true) (cfg : Settings) (e : Engine) :
    c.Concludes cfg e := by
  cases c with
  | newGame | register | restore => cases h
  | _ => trivial

/-- The engines that calls lead to.  Only saves of such engines are restored. -/
inductive Reached (cfg : Settings) : Engine → Prop
  | built {graphs : List Graph} {host : Host} {clock : Clock} {e : Engine} :
      Engine.ofGraphs graphs host clock = .ok e → Reached cfg e
  | called {e : Engine} {c : Call} :
      Reached cfg e → c.Concludes cfg e → Reached cfg (c.after cfg e)
  | restored {e saved : Engine} {data : Value} : Reached cfg e → Reached cfg saved →
      saved.serialize = .ok data → Reached cfg ((Call.restore data).after cfg e)

namespace Engine

variable {cfg : Settings} {graphs : List Graph} {e e' : Engine}

/-- What holds of an engine between two calls. -/
structure Settled (e : Engine) : Prop where
  consistent : e.Consistent []
  idle : e.session.pending = none
  storable : e.session.Storable

namespace Settled

theorem ofGraphs {host : Host} {clock : Clock} (h : Engine.ofGraphs graphs host clock = .ok e) :
    e.Settled := by
  have hconsistent := Consistent.ofGraphs h
  obtain ⟨he, _, _⟩ := of_register h
  exact ⟨⟨hconsistent.sound, hconsistent.agrees, List.nil_prefix⟩, he ▸ rfl,
    he ▸ ⟨.empty, .empty⟩⟩

theorem forget (h : e.Settled) : e.forget.Settled :=
  ⟨h.consistent.forget, h.idle, .empty, .empty⟩

theorem does (cfg : Settings) (h : e.Settled) {c : Call} (hc : c.isPlay = true) :
    ∃ acts, c.Does cfg e.session acts (c.after cfg e).session :=
  h.consistent.does cfg h.idle hc

theorem does_newGame (h : e.Settled) {startMain : Bool}
    (hc : (Call.newGame startMain).Concludes cfg e) :
    ∃ acts, (Call.newGame startMain).Does cfg e.forget.session acts
      ((Call.newGame startMain).after cfg e).session := by
  cases hnew : Engine.newGame cfg startMain e with
  | ok r e' =>
    rw [Call.after, Call.ask, Call.answer_ok hnew]
    exact h.consistent.does_newGame hnew
  | error why e' =>
    refine absurd ?_ (hc why)
    rw [Call.ask, Call.answer_error hnew]

theorem after (h : e.Settled) {c : Call} (hc : c.Concludes cfg e) : (c.after cfg e).Settled := by
  have hconsistent : (c.after cfg e).Consistent [] := h.consistent.after c
  by_cases hplay : c.isPlay = true
  · obtain ⟨acts, hdoes⟩ := h.does cfg hplay
    exact ⟨hconsistent, hdoes.closed, h.storable.course hdoes.course⟩
  cases c with
  | newGame startMain =>
    obtain ⟨acts, hdoes⟩ := h.does_newGame hc
    exact ⟨hconsistent, hdoes.closed, h.forget.storable.course hdoes.course⟩
  | register graphs =>
    rw [Call.after, Call.ask] at hconsistent ⊢
    cases hr : e.register graphs with
    | ok e' =>
      rw [hr] at hconsistent
      obtain ⟨he, _, _⟩ := of_register hr
      exact ⟨hconsistent, he ▸ h.idle, he ▸ ⟨h.storable.ledger, h.storable.log⟩⟩
    | error why => exact h
  | restore data => cases hc
  | _ => exact absurd rfl hplay

theorem taken_over {saved : Engine} {data : Value} {taken : Saved} (hsaved : saved.Settled)
    (hdata : saved.serialize = .ok data) (haccept : accept data e.session = .ok taken) :
    taken.ledger.Tidy ∧ saved.session.ledger.Matches taken.ledger ∧
      taken.log = saved.session.log ∧ taken.log.Ordered := by
  obtain ⟨flags, data', _, hperm, hserialize, hread⟩ := Session.ofValue_serialize
    hsaved.storable.ledger hsaved.storable.log hsaved.consistent.sound.distinct
  cases hdata.symm.trans hserialize
  cases (of_accept haccept).1.symm.trans hread
  have hmatches : Ledger.Matches saved.session.ledger { saved.session.ledger with flags } :=
    ⟨hperm.symm, rfl, rfl, rfl⟩
  exact ⟨hsaved.storable.ledger.of_matches hmatches, hmatches, rfl, hsaved.storable.log⟩

theorem restored {saved : Engine} {data : Value} (cfg : Settings) (h : e.Settled)
    (hsaved : saved.Settled) (hdata : saved.serialize = .ok data) :
    ((Call.restore data).after cfg e).Settled := by
  have hconsistent : ((Call.restore data).after cfg e).Consistent [] := h.consistent.after _
  cases haccept : accept data e.session with
  | error why =>
    rw [Call.after, Call.ask, Call.answer_error (restore_of_refused haccept)]
    exact h
  | ok taken =>
    obtain ⟨htidy, _, _, hordered⟩ := taken_over hsaved hdata haccept
    rw [Call.after, Call.ask, Call.answer_ok (restore_of_accept haccept hordered)] at hconsistent ⊢
    exact ⟨hconsistent, h.idle, htidy, hordered⟩

end Settled

end Engine

namespace Reached

variable {cfg : Settings} {e : Engine}

theorem settled (h : Reached cfg e) : e.Settled := by
  induction h with
  | built hbuilt => exact .ofGraphs hbuilt
  | called _ hc ih => exact ih.after hc
  | restored _ _ hdata ih ih' => exact ih.restored cfg ih' hdata

theorem afterAll (h : Reached cfg e) {calls : List Call} (hcalls : ∀ c ∈ calls, c.isPlay = true) :
    Reached cfg (e.afterAll cfg calls) ∧
      (e.afterAll cfg calls).session.graphs = e.session.graphs := by
  refine ⟨?_, h.settled.consistent.graphs_afterAll cfg ?_⟩
  · induction calls generalizing e with
    | nil => exact h
    | cons c rest ih =>
      rw [List.forall_mem_cons] at hcalls
      exact ih (h.called (Call.concludes_of_isPlay hcalls.1 cfg e)) hcalls.2
  · rintro c hc graphs rfl
    exact Bool.noConfusion (hcalls _ hc)

end Reached

end Questline
