import Questline.Proofs.Retelling

/-! After every call the log leads to the ledger as it is, whatever the game has been through:
services that were down, requests that were broken off, and saves of games like this one. -/

namespace Questline

/-- A call with outcomes reported as data and graphs from content.  A new game is not cut short by a
service that is down. -/
def Call.Admitted (cfg : Settings) (e : Engine) : Call → Prop
  | .newGame startMain => ∀ service,
      ((Call.newGame startMain).ask cfg e).1 ≠ .begun (.error (.down service))
  | .external reports _ => ∀ r ∈ reports, ∃ v, r = .data v
  | .register graphs => Loaded cfg graphs
  | .restore _ => False
  | _ => True

theorem Call.Admitted.supplies {cfg : Settings} {e : Engine} {c : Call} (h : c.Admitted cfg e) :
    c.Supplies cfg fun _ => False := by
  cases c with
  | external reports source =>
    intro o ho
    obtain ⟨_, hdata⟩ := h _ ho
    cases hdata
  | register graphs => exact h
  | restore data => exact h
  | _ => trivial

/-- The engines that games lead to.  Only saves of such games are restored. -/
inductive Played (cfg : Settings) : Engine → Prop
  | built {graphs : List Graph} {host : Host} {clock : Clock} {e : Engine} :
      Loaded cfg graphs → Engine.ofGraphs graphs host clock = .ok e → Played cfg e
  | called {e : Engine} {c : Call} : Played cfg e → c.Admitted cfg e → Played cfg (c.after cfg e)
  | restored {e saved : Engine} {data : Value} : Played cfg e → Played cfg saved →
      saved.serialize = .ok data → Played cfg ((Call.restore data).after cfg e)

namespace Engine

variable {cfg : Settings} {made : Outcome → Prop} {e : Engine}

/-- What holds of an engine between two calls of a game. -/
structure Kept (cfg : Settings) (e : Engine) : Prop extends e.Settled where
  regular : ∀ g ∈ e.session.graphs, g.Regular
  accounted : e.session.Accounted cfg

theorem Traced.concludes (h : e.Traced cfg made) {c : Call} (hc : c.Admitted cfg e) :
    c.Concludes cfg e := by
  cases c with
  | newGame startMain =>
    intro why hbroken
    cases hnew : Engine.newGame cfg startMain e with
    | ok r e' =>
      rw [Call.ask, Call.answer_ok hnew] at hbroken
      cases hbroken
    | error why e' =>
      obtain ⟨service, rfl⟩ :=
        h.consistent.newGame_down h.idle (fun g hg => (h.regular g hg).judgeable) hnew
      refine hc service ?_
      rw [Call.ask, Call.answer_error hnew]
  | restore data => exact hc
  | _ => trivial

end Engine

namespace Played

variable {cfg : Settings} {e : Engine}

/-- A played game is that of a host who makes no outcomes. -/
theorem hosted (h : Played cfg e) :
    e.session.pending = none ∧ Hosted cfg (fun _ => False) e := by
  induction h with
  | built hloaded hbuilt => exact ⟨(Engine.Settled.ofGraphs hbuilt).idle, .built hloaded hbuilt⟩
  | called _ hc ih =>
    obtain ⟨hidle, hhosted⟩ := ih
    have htraced := hhosted.traced hidle
    exact ⟨(htraced.toSettled.after (htraced.concludes hc)).idle, hhosted.called hc.supplies⟩
  | restored _ _ hdata ih ih' =>
    refine ⟨?_, .restored ih.2 ih'.2 ih'.1 hdata⟩
    rw [Engine.pending_restore]
    exact ih.1

theorem kept (h : Played cfg e) : e.Kept cfg := by
  obtain ⟨hidle, hhosted⟩ := h.hosted
  have htraced := hhosted.traced hidle
  refine ⟨htraced.toSettled, htraced.regular, htraced.retold fun data hdata => ?_⟩
  obtain ⟨o, ho, rfl⟩ := htraced.noted data hdata
  exact Outcome.readFrom_toTable_iff.2 (ho.resolve_right id).readable

theorem afterAll (h : Played cfg e) {calls : List Call}
    (hcalls : ∀ c ∈ calls, ∀ e, c.Admitted cfg e) : Played cfg (e.afterAll cfg calls) := by
  induction calls generalizing e with
  | nil => exact h
  | cons c rest ih =>
    rw [List.forall_mem_cons] at hcalls
    exact ih (h.called (hcalls.1 e)) hcalls.2

end Played

end Questline
