import Questline.Proofs.Consistency

/-! What a game is made of.  Every call is a course of acts of its own, and opens only the entries
that it stands for. -/

namespace Questline

namespace Call

/-- What a call does to a session in which no entry is open. -/
structure Does (cfg : Settings) (c : Call) (s : Session) (acts : List Act) (t : Session) :
    Prop where
  course : Course cfg c.Reports s acts t
  balanced : Balanced s.graphs acts
  closed : t.pending = none
  opens : (acts.filterMap Act.opening?).Sublist (c.entries cfg)

end Call

variable {cfg : Settings} {graphs : List Graph} {e e' : Engine}

/-- Every call of a game is a course of acts. -/
theorem Engine.Consistent.does (cfg : Settings) (h : e.Consistent graphs)
    (hidle : e.session.pending = none) {c : Call} (hc : c.isPlay = true) :
    ∃ acts, c.Does cfg e.session acts (c.after cfg e).session := by
  obtain ⟨acts, hruns⟩ := h.runs cfg hc fun _ _ => hidle
  exact ⟨acts, hruns.course, hruns.balanced, hruns.closed hidle, hruns.opens⟩

theorem Engine.pending_of_newGame {startMain : Bool} {r : Option Resolution}
    (h : newGame cfg startMain e = .ok r e') : e.session.pending = none := by
  cases hp : e.session.pending with
  | none => rfl
  | some p =>
    have hforgot : e.forget.session.pending = some p := hp
    rw [newGame_eq, Step.begin] at h
    simp only [bind, EStateM.bind, Step.openEntry_eq_error hforgot] at h
    cases h

theorem Engine.Consistent.does_newGame (h : e.Consistent graphs) {startMain : Bool}
    {r : Option Resolution} (hbegun : Engine.newGame cfg startMain e = .ok r e') :
    ∃ acts, (Call.newGame startMain).Does cfg e.forget.session acts e'.session := by
  obtain ⟨acts, hruns⟩ := h.runs_newGame hbegun
  have hidle := pending_of_newGame hbegun
  exact ⟨acts, hruns.course, hruns.balanced, hruns.closed hidle, hruns.opens⟩

end Questline
