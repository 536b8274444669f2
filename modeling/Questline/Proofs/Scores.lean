import Mathlib.Algebra.Group.Int.Defs
import Questline.Proofs.Clearing
import Questline.Proofs.Wording

/-! Scores keep within the bounds of the settings, since everything that changes one cuts it.  A
save that is taken up brings its scores as they are, and one out of bounds stays until an outcome
changes it. -/

namespace Questline

theorem Bounds.holds_clip {b : Bounds} (h : b.min < b.max) (n : Int) : b.Holds (b.clip n) := by
  unfold Holds clip
  split
  · omega
  · split <;> omega

namespace Ledger

/-- Every score lies within its bounds. -/
structure Bounded (cfg : Settings) (l : Ledger) : Prop where
  reputation : ∀ p ∈ l.reputation, cfg.reputation.Holds p.2
  relationship : ∀ p ∈ l.relationship, cfg.relationship.Holds p.2

theorem bounded_empty (cfg : Settings) : Ledger.empty.Bounded cfg := ⟨nofun, nofun⟩

/-- Every score lies within its bounds or stands in another ledger as it is. -/
structure BoundedBut (cfg : Settings) (l base : Ledger) : Prop where
  reputation : ∀ p ∈ l.reputation, cfg.reputation.Holds p.2 ∨ p ∈ base.reputation
  relationship : ∀ p ∈ l.relationship, cfg.relationship.Holds p.2 ∨ p ∈ base.relationship

namespace BoundedBut

variable {cfg : Settings} {base l m : Ledger}

theorem refl (cfg : Settings) (l : Ledger) : l.BoundedBut cfg l :=
  ⟨fun _ => .inr, fun _ => .inr⟩

variable (h : l.BoundedBut cfg base)
include h

theorem bounded (hbase : base.Bounded cfg) : l.Bounded cfg :=
  ⟨fun p hp => (h.reputation p hp).elim id (hbase.reputation p),
    fun p hp => (h.relationship p hp).elim id (hbase.relationship p)⟩

theorem setReputation (hcfg : cfg.reputation.min < cfg.reputation.max) (faction : String)
    (n : Int) : (l.setReputation cfg faction n).BoundedBut cfg base := by
  refine ⟨fun p hp => ?_, h.relationship⟩
  rcases Assoc.of_mem_put hp with hp | hn
  · exact h.reputation p hp
  · exact .inl (hn ▸ Bounds.holds_clip hcfg n)

theorem setRelationship (hcfg : cfg.relationship.min < cfg.relationship.max) (companion : String)
    (n : Int) : (l.setRelationship cfg companion n).BoundedBut cfg base := by
  refine ⟨h.reputation, fun p hp => ?_⟩
  rcases Assoc.of_mem_put hp with hp | hn
  · exact h.relationship p hp
  · exact .inl (hn ▸ Bounds.holds_clip hcfg n)

theorem changeReputation (hcfg : cfg.reputation.min < cfg.reputation.max) (faction : String)
    (amount : Int) : (l.changeReputation cfg faction amount).BoundedBut cfg base := by
  obtain ⟨shifts, hshifts⟩ := changeReputation_eq cfg faction amount
  rw [hshifts]
  clear hshifts
  induction shifts generalizing l with
  | nil => exact h
  | cons p rest ih => exact ih (h.setReputation hcfg p.1 _)

theorem onLedger (hcfg : cfg.Accepted) {o : Outcome} (ho : o.onLedger cfg l = .ok m) :
    m.BoundedBut cfg base := by
  obtain ⟨hreputation, hrelationship⟩ := hcfg.ordered
  unfold Outcome.onLedger at ho
  split at ho <;> cases ho
  · exact h
  · exact h.changeReputation hreputation _ _
  · unfold Ledger.setFlag
    split
    · exact h
    · exact ⟨h.reputation, h.relationship⟩
  · exact ⟨h.reputation, h.relationship⟩
  · unfold Ledger.meetCompanion
    split
    · exact h
    · exact h.setRelationship hrelationship _ _
  · exact h.setRelationship hrelationship _ _
  · exact h

end BoundedBut

end Ledger

theorem Session.Lasting.boundedBut {cfg : Settings} (hcfg : cfg.Accepted) (base : Ledger) :
    Session.Lasting cfg fun s => s.ledger.BoundedBut cfg base := by
  refine ⟨fun {_ a s} h ha => ?_, fun _ _ h => h⟩
  have hmakes := Act.makes cfg ha
  generalize a.run cfg s = t at hmakes ⊢
  cases hmakes with
  | @applies _ o t happlied =>
    rw [happlied.ledger]
    cases hl : o.onLedger cfg s.ledger with
    | error why => exact h
    | ok m => exact h.onLedger hcfg hl
  | moves => exact ⟨h.reputation, h.relationship⟩
  | _ => exact h

/-- Whatever a game is asked, its scores lie within the bounds of the settings, unless it goes on
from a save whose scores do not.  Then each score out of bounds still is as that save has it. -/
theorem scores_bounded_unless_saved_otherwise {cfg : Settings} (hcfg : cfg.Accepted)
    {graphs : List Graph} {host : Host} {clock : Clock} {built : Engine}
    (hbuilt : Engine.ofGraphs graphs host clock = .ok built) (calls : List Call) :
    (built.afterAll cfg calls).session.ledger.Bounded cfg ∨
    ∃ saved, built.GoesOnFrom cfg calls saved ∧ ¬ saved.ledger.Bounded cfg ∧
      (built.afterAll cfg calls).session.ledger.BoundedBut cfg saved.ledger := by
  have hconsistent := Engine.Consistent.ofGraphs hbuilt
  suffices hfrom : (built.afterAll cfg calls).session.ledger.BoundedBut cfg .empty ∨
      ∃ saved, built.GoesOnFrom cfg calls saved ∧
        (built.afterAll cfg calls).session.ledger.BoundedBut cfg saved.ledger by
    rcases hfrom with hempty | ⟨saved, hsaved, hbut⟩
    · exact .inl (hempty.bounded (Ledger.bounded_empty cfg))
    · by_cases hbounded : saved.ledger.Bounded cfg
      · exact .inl (hbut.bounded hbounded)
      · exact .inr ⟨saved, hsaved, hbounded, hbut⟩
  induction calls using List.reverseRecOn with
  | nil =>
    left
    change built.session.ledger.BoundedBut cfg .empty
    rw [(Engine.of_register hbuilt).1]
    exact .refl cfg .empty
  | append_singleton calls c ih =>
    rw [Engine.afterAll_append]
    change (c.after cfg (built.afterAll cfg calls)).session.ledger.BoundedBut cfg .empty ∨
      ∃ saved, _ ∧ (c.after cfg (built.afterAll cfg calls)).session.ledger.BoundedBut cfg _
    have lasts (base : Ledger) := Session.Lasting.boundedBut hcfg base
    cases (hconsistent.afterAll cfg calls).passes cfg c with
    | plays hkeeps hcourse =>
      exact ih.imp (fun h => (lasts _).course h hcourse) fun ⟨saved, hsaved, h⟩ =>
        ⟨saved, hsaved.snoc hkeeps, (lasts _).course h hcourse⟩
    | aside hkeeps hsession =>
      rw [hsession]
      exact ih.imp_right fun ⟨saved, hsaved, h⟩ => ⟨saved, hsaved.snoc hkeeps, h⟩
    | begins hcall hcourse => exact .inl ((lasts .empty).course (.refl cfg .empty) hcourse)
    | @resumes data saved hcall haccept hsession =>
      rw [hsession]
      exact .inr ⟨saved, ⟨calls, data, [], by rw [hcall], haccept, trivial⟩, .refl cfg _⟩

/-- The Alliance is praised beyond all measure while the patrol is walked. -/
theorem scores_bounded_unless_saved_otherwise_patrol :
    let walked : List Call := [.newGame false, .start "patrol",
      .external [.data (.record [("kind", "reputation_delta"), ("faction", "Alliance"),
        ("amount", .int (10 ^ 30))])] "praise", .choose "patrol" "walk"]
    ∃ built, Settings.builtIn.Accepted ∧
      Engine.ofGraphs [.patrol] {} (.ticking 0 1) = .ok built ∧
      ("Alliance", 100) ∈ (built.afterAll .builtIn walked).session.ledger.reputation ∧
      (built.afterAll .builtIn walked).session.ledger.Bounded .builtIn := by
  intro walked
  have hbuilt := Engine.ofGraphs_patrol {} (.ticking 0 1)
  refine ⟨_, Settings.accepted_builtIn, hbuilt, by decide +kernel, ?_⟩
  rcases scores_bounded_unless_saved_otherwise Settings.accepted_builtIn hbuilt walked with
    hbounded | ⟨saved, ⟨before, data, later, hwalked, _⟩, _⟩
  · exact hbounded
  · have hmem : Call.restore data ∈ walked := by simp [hwalked]
    simp [walked] at hmem

/-- A save in which the Alliance thinks too well of the player is taken up as it is. -/
theorem reputation_taken_up_out_of_bounds :
    let data : Value := .record [("ledger", .record [("reputation", .record
        [("Alliance", .int 1000)])]), ("graph_lifecycle_states", .record []),
      ("active_node_ids", .record []), ("event_log", .list [])]
    ∃ built, Engine.ofGraphs [.patrol] {} (.ticking 0 1) = .ok built ∧
      ¬ (built.afterAll .builtIn [.restore data]).session.ledger.Bounded .builtIn := by
  intro data
  refine ⟨_, Engine.ofGraphs_patrol {} (.ticking 0 1), fun hbounded => ?_⟩
  have hholds : Settings.builtIn.reputation.Holds 1000 :=
    hbounded.reputation ("Alliance", 1000) (by decide +kernel)
  exact absurd hholds (by decide +kernel)

end Questline
