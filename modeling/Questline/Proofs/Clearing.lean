import Mathlib.Data.List.Induction
import Questline.Proofs.Consistency
import Questline.Proofs.Interruptions

/-! A new game clears what has happened so far, and so does a save that is taken up.  Every other
call goes on from what was there. -/

namespace Questline

/-- Whether a call replaces all that has happened so far. -/
def Call.Clears (e : Engine) : Call → Prop
  | .newGame _ => True
  | .restore data => ∃ saved, Engine.accept data e.session = .ok saved
  | _ => False

/-- None of some calls clears what was there before them. -/
def Engine.Uncleared (cfg : Settings) : Engine → List Call → Prop
  | _, [] => True
  | e, c :: rest => ¬ c.Clears e ∧ Uncleared cfg (c.after cfg e) rest

/-- After some calls the game goes on from a save that one of them has taken up. -/
def Engine.GoesOnFrom (cfg : Settings) (e : Engine) (calls : List Call) (saved : Saved) : Prop :=
  ∃ before data later, calls = before ++ .restore data :: later ∧
    Engine.accept data (e.afterAll cfg before).session = .ok saved ∧
    Engine.Uncleared cfg (e.afterAll cfg (before ++ [.restore data])) later

/-- What a call makes of a session. -/
inductive Call.Passes (cfg : Settings) (c : Call) (e : Engine) : Prop
  /-- It is a course of acts. -/
  | plays {acts : List Act} (hkeeps : ¬ c.Clears e)
      (hcourse : Course cfg c.Reports e.session acts (c.after cfg e).session) : Passes cfg c e
  /-- It is about the graphs or the host alone, or it is turned down. -/
  | aside {instances : List Instance} {host : Host} (hkeeps : ¬ c.Clears e)
      (hsession : (c.after cfg e).session = { e.session with instances, host }) : Passes cfg c e
  /-- It is a course of acts after everything has been forgotten. -/
  | begins {startMain : Bool} {acts : List Act} (hcall : c = .newGame startMain)
      (hcourse : Course cfg c.Reports e.forget.session acts (c.after cfg e).session) :
      Passes cfg c e
  /-- It takes up a save. -/
  | resumes {data : Value} {saved : Saved} (hcall : c = .restore data)
      (haccept : Engine.accept data e.session = .ok saved)
      (hsession : (c.after cfg e).session = Engine.restoredSession saved e.session) :
      Passes cfg c e

namespace Engine

variable {cfg : Settings} {graphs : List Graph} {e : Engine}

theorem afterAll_append (e : Engine) (as bs : List Call) :
    e.afterAll cfg (as ++ bs) = (e.afterAll cfg as).afterAll cfg bs := List.foldl_append

theorem uncleared_append {as bs : List Call} : e.Uncleared cfg (as ++ bs) ↔
    e.Uncleared cfg as ∧ (e.afterAll cfg as).Uncleared cfg bs := by
  induction as generalizing e with
  | nil => exact iff_of_eq (true_and _).symm
  | cons c rest ih =>
    change ¬ c.Clears e ∧ Uncleared cfg (c.after cfg e) (rest ++ bs) ↔ _
    rw [ih, ← and_assoc]
    rfl

theorem GoesOnFrom.snoc {calls : List Call} {saved : Saved} (h : e.GoesOnFrom cfg calls saved)
    {c : Call} (hc : ¬ c.Clears (e.afterAll cfg calls)) :
    e.GoesOnFrom cfg (calls ++ [c]) saved := by
  obtain ⟨before, data, later, rfl, haccept, hlater⟩ := h
  refine ⟨before, data, later ++ [c], by simp, haccept, uncleared_append.2 ⟨hlater, ?_, trivial⟩⟩
  rwa [← afterAll_append, List.append_assoc, List.singleton_append]

theorem Consistent.passes (h : e.Consistent graphs) (cfg : Settings) (c : Call) :
    c.Passes cfg e := by
  by_cases hplay : c.isPlay = true ∧ ∀ host, c ≠ .turn host
  · obtain ⟨acts, hc⟩ := h.course cfg hplay.1 hplay.2
    refine .plays (fun hclears => ?_) hc
    cases c <;> first | exact hclears | cases hplay.1
  cases c with
  | newGame startMain =>
    obtain ⟨acts, hc, _⟩ := h.course_newGame cfg startMain
    have hbegun : Course cfg (Call.newGame startMain).Reports e.forget.session acts
        ((Call.newGame startMain).after cfg e).session := by
      rwa [Call.after, Call.ask, Call.after_answer]
    exact .begins rfl hbegun
  | register more =>
    cases hregister : e.register more with
    | ok e' =>
      have hsession : ((Call.register more).after cfg e).session = e'.session := by
        simp only [Call.after, Call.ask, hregister]
      exact .aside id (by rw [hsession, (of_register hregister).1])
    | error why =>
      have hsession : ((Call.register more).after cfg e).session =
          { e.session with instances := e.session.instances, host := e.session.host } := by
        simp only [Call.after, Call.ask, hregister]
      exact .aside id hsession
  | restore data =>
    cases haccept : accept data e.session with
    | ok saved =>
      refine .resumes rfl haccept ?_
      rw [Call.after, Call.ask, Call.after_answer, Questline.after,
        restore_of_accept haccept (ordered_of_accept haccept)]
    | error why =>
      have hsession : ((Call.restore data).after cfg e).session =
          { e.session with instances := e.session.instances, host := e.session.host } := by
        rw [Call.after, Call.ask, Call.after_answer, Questline.after, restore_of_refused haccept]
      refine .aside ?_ hsession
      rintro ⟨saved, hsaved⟩
      cases haccept.symm.trans hsaved
  | turn host => exact .aside id rfl
  | _ => exact absurd ⟨rfl, by simp⟩ hplay

end Engine

/-- A condition on sessions that every allowed act keeps, and that is not about instances and the
host. -/
structure Session.Lasting (cfg : Settings) (I : Session → Prop) : Prop where
  run : ∀ {reported : Outcome → Prop} {a : Act} {s : Session}, I s → a.Lawful reported s →
    I (a.run cfg s)
  aside : ∀ {s : Session} (instances : List Instance) (host : Host), I s →
    I { s with instances, host }

namespace Session.Lasting

variable {cfg : Settings} {graphs : List Graph} {I : Session → Prop} (hI : Lasting cfg I)
include hI

theorem course {reported : Outcome → Prop} {acts : List Act} {s t : Session} (hs : I s)
    (hc : Course cfg reported s acts t) : I t :=
  hc.keeps (fun _ _ hs ha => hI.run hs ha) hs

variable {e : Engine} (h : e.Consistent graphs) (hs : I e.session)
include h hs

theorem after {c : Call} (hc : ¬ c.Clears e) : I (c.after cfg e).session := by
  cases h.passes cfg c with
  | plays _ hcourse => exact hI.course hs hcourse
  | aside _ hsession => exact hsession ▸ hI.aside _ _ hs
  | begins hcall => exact absurd (by rw [hcall]; trivial) hc
  | resumes hcall haccept => exact absurd (by rw [hcall]; exact ⟨_, haccept⟩) hc

/-- What lasts and holds whenever a game has been cleared always holds. -/
theorem afterAll {calls : List Call} (hforget : ∀ f : Engine, I f.session → I f.forget.session)
    (hresume : ∀ before data later saved, calls = before ++ .restore data :: later →
      Engine.accept data (e.afterAll cfg before).session = .ok saved →
      I (e.afterAll cfg before).session →
      I (Engine.restoredSession saved (e.afterAll cfg before).session)) :
    I (e.afterAll cfg calls).session := by
  induction calls using List.reverseRecOn with
  | nil => exact hs
  | append_singleton calls c ih =>
    have hcalls := ih fun before data later saved hsplit =>
      hresume before data (later ++ [c]) saved (by rw [hsplit]; simp)
    rw [Engine.afterAll_append]
    change I (c.after cfg (e.afterAll cfg calls)).session
    cases (h.afterAll cfg calls).passes cfg c with
    | plays _ hcourse => exact hI.course hcalls hcourse
    | aside _ hsession => exact hsession ▸ hI.aside _ _ hcalls
    | begins hcall hcourse => exact hI.course (hforget _ hcalls) hcourse
    | resumes hcall haccept hsession =>
      exact hsession ▸ hresume calls _ [] _ (by rw [hcall]) haccept hcalls

end Session.Lasting

end Questline
