import Questline.Proofs.Reaching
import Questline.Proofs.RoundTrip
import Questline.Proofs.TwinCalls

/-! A game that is saved goes on in any other engine over the same graphs as it would have gone on
where it was saved. -/

namespace Questline

/-- An engine within a given world: the rest of the game, and a clock. -/
def Engine.within (e : Engine) (host : Host) (clock : Clock) : Engine :=
  { e with session := { e.session with host, clock } }

namespace Engine

variable {e r : Engine}

theorem twin_within {flags : List Atom} (hperm : flags.Perm e.session.ledger.flags)
    (htidy : e.session.ledger.Tidy) (hpending : r.session.pending = e.session.pending)
    {clock clock' : Clock} (hclock : clock.Alike clock') (host : Host) :
    Twin (within { session := { r.session with
        ledger := { e.session.ledger with flags }
        log := e.session.log
        instances := e.session.instances
        ending := e.session.ending }, diagnostics := [] } host clock) (e.within host clock') := by
  have hmatches : Ledger.Matches { e.session.ledger with flags } e.session.ledger :=
    ⟨hperm, rfl, rfl, rfl⟩
  refine ⟨e.session.ledger, clock', .inr ⟨hmatches, htidy.of_matches hmatches.symm⟩, hclock, ?_⟩
  simp only [within, hpending]

end Engine

/-- Whatever a game has been through, it can be saved, and every engine over the same graphs that
has no entry open takes the save: then it holds the same, and is saved as the same data.  In worlds
that are the same, no calls can tell it from the engine that was saved. -/
theorem save_carries_over {cfg : Settings} {e other : Engine} (h : Reached cfg e)
    (hgraphs : other.session.graphs = e.session.graphs) (hidle : other.session.pending = none) :
    ∃ data restored, e.serialize = .ok data ∧ Engine.restore data other = .ok () restored ∧
      restored.session.ledger.Matches e.session.ledger ∧
      restored.session.log = e.session.log ∧
      restored.session.instances = e.session.instances ∧
      restored.session.ending = e.session.ending ∧
      restored.serialize = .ok data ∧
      ∀ host clock clock', clock.Alike clock' → ∀ calls,
        (restored.within host clock).answers cfg calls =
          (e.within host clock').answers cfg calls := by
  have hsettled := h.settled
  have htidy := hsettled.storable.ledger
  -- the one thing that no save holds is an open entry, and neither engine has one
  have hpending := hidle.trans hsettled.idle.symm
  obtain ⟨flags, data, _, hperm, hdata, hrestore⟩ := Engine.restore_serialize
    hsettled.consistent.agrees hsettled.consistent.sound hsettled.storable hgraphs
  refine ⟨data, _, hdata, hrestore, ⟨hperm, rfl, rfl, rfl⟩, rfl, rfl, rfl, ?_, ?_⟩
  · have htwin := Engine.twin_within hperm htidy hpending
      (fun n => rfl : e.session.clock.Alike e.session.clock) e.session.host
    exact (Engine.serialize_twin htwin).trans hdata
  · exact fun host clock clock' hclock calls =>
      (Engine.twin_within hperm htidy hpending hclock host).answers cfg calls

/-- The patrol is saved at the gate while no badge can be given, and taken up again where it had
been given up. -/
theorem save_carries_over_patrol :
    let walked : List Call := [.start "patrol", .choose "patrol" "walk",
      .turn (({} : Host).breakService .giveItem none),
      .external [.data (.record [("kind", "set_flag"), ("flag", "seen")])] "watch"]
    ∃ e begun data restored, Engine.ofGraphs [.patrol] {} (.ticking 0 1) = .ok e ∧
      begun = (Call.newGame false).after .builtIn e ∧
      (begun.afterAll .builtIn walked).serialize = .ok data ∧
      Engine.restore data (begun.afterAll .builtIn [.start "patrol", .abandon "patrol"]) =
        .ok () restored ∧
      restored.session.log = (begun.afterAll .builtIn walked).session.log ∧
      ∀ calls, (restored.within {} (.scripted 7 [])).answers .builtIn calls =
        ((begun.afterAll .builtIn walked).within {} (.scripted 7 [])).answers .builtIn calls := by
  intro walked
  have hbuilt := Engine.ofGraphs_patrol {} (.ticking 0 1)
  have hreached : Reached .builtIn _ := .built hbuilt
  have hsettled := hreached.settled
  obtain ⟨r, _, hnew⟩ := hsettled.consistent.newGame_begins .builtIn hsettled.idle
    (by simp [Session.graphs, Graph.patrol]) (fun _ _ _ _ h => by cases h) false
  have hbegun := hreached.called (Call.concludes_newGame hnew)
  obtain ⟨hwalked, hgraphs⟩ := hbegun.afterAll
    (show ∀ c ∈ walked, c.isPlay = true by simp [walked, Call.isPlay])
  obtain ⟨hother, hgraphs'⟩ := hbegun.afterAll
    (show ∀ c ∈ ([.start "patrol", .abandon "patrol"] : List Call), c.isPlay = true by
      simp [Call.isPlay])
  obtain ⟨data, restored, hdata, hrestored, _, hlog, _, _, _, hanswers⟩ :=
    save_carries_over hwalked (hgraphs'.trans hgraphs.symm) hother.settled.idle
  exact ⟨_, _, data, restored, hbuilt, rfl, hdata, hrestored, hlog,
    hanswers {} _ _ fun _ => rfl⟩

end Questline
