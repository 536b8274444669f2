import Questline.Proofs.Endings
import Questline.Proofs.Faltering
import Questline.Proofs.Ranges
import Questline.Proofs.Resuming

/-! Outcomes that the host has made itself.  They are applied as they are, but replaying reads them
from the log, and there an outcome needs the target and the amount of its kind. -/

namespace Questline

namespace Outcome

/-- Data that can be read as an outcome. -/
def ReadFrom (data : Table) : Prop := ∃ o, Outcome.read (.table data) none = .ok o

theorem readFrom_toTable_iff {o : Outcome} : ReadFrom o.toTable ↔ o.Readable :=
  ⟨fun ⟨_, h⟩ => readable_of_read_toTable h, fun h => ⟨_, h.read_toTable⟩⟩

/-- The data of an outcome is read or refused. -/
theorem onlyRefused_read_toTable (o : Outcome) : OnlyRefused (read (.table o.toTable) none) :=
  OnlyRefused.readFields (fun _ hk => (mem_fieldsOf o hk).imp fun _ h => h.2) (toTable_kind o) none

end Outcome

namespace Session

/-- Everything on record can be read again. -/
def Retellable (s : Session) : Prop := ∀ data ∈ s.noted, Outcome.ReadFrom data

/-- The log accounts for the ledger, if all that is on record can be read again. -/
def Retold (cfg : Settings) (s : Session) : Prop := s.Retellable → s.Accounted cfg

namespace Retold

variable {cfg : Settings} {reported : Outcome → Prop} {s t : Session}

theorem run (h : s.Retold cfg) {a : Act} (ha : a.Lawful reported s) : (a.run cfg s).Retold cfg := by
  unfold Retold Retellable at *
  rw [(Act.record_run cfg ha).1, List.forall_mem_append]
  rintro ⟨hs, hnotes⟩
  refine (h hs).run ha ?_
  rintro c o rfl
  exact Outcome.readFrom_toTable_iff.1 (hnotes o.toTable (List.mem_singleton.2 rfl))

theorem course (h : s.Retold cfg) {acts : List Act} (hc : Course cfg reported s acts t) :
    t.Retold cfg :=
  hc.keeps (fun _ _ hs ha => hs.run ha) h

end Retold

theorem noted_of_idle {s : Session} (h : s.pending = none) : s.noted = s.log.noted := by
  rw [noted, h]
  exact List.append_nil _

end Session

/-- A call that brings no graphs but from content and no outcomes but as data or of some making. -/
def Call.Supplies (cfg : Settings) (made : Outcome → Prop) : Call → Prop
  | .external reports _ => ∀ o, .ready o ∈ reports → made o
  | .register graphs => Loaded cfg graphs
  | .restore _ => False
  | _ => True

/-- The engines that hosts lead to who also report outcomes of their own making.  Only saves of such
engines are restored, and only such as were made while no entry was open. -/
inductive Hosted (cfg : Settings) (made : Outcome → Prop) : Engine → Prop
  | built {graphs : List Graph} {host : Host} {clock : Clock} {e : Engine} :
      Loaded cfg graphs → Engine.ofGraphs graphs host clock = .ok e → Hosted cfg made e
  | called {e : Engine} {c : Call} :
      Hosted cfg made e → c.Supplies cfg made → Hosted cfg made (c.after cfg e)
  | restored {e saved : Engine} {data : Value} : Hosted cfg made e → Hosted cfg made saved →
      saved.session.pending = none → saved.serialize = .ok data →
      Hosted cfg made ((Call.restore data).after cfg e)

namespace Engine

variable {cfg : Settings} {made : Outcome → Prop} {graphs : List Graph} {e e' : Engine}

namespace Settled

theorem accounted_forget (cfg : Settings) (h : e.Settled) : e.forget.session.Accounted cfg := by
  refine ⟨.empty, .empty, rfl, ?_, ?_⟩ <;> rw [show e.forget.session.pending = none from h.idle]
  · rfl
  · exact .refl _

/-- A log that accounts for the ledger still does where both have been taken up from a save. -/
theorem accounted_restored {saved : Engine} {data : Value} {taken : Saved} (h : e.Settled)
    (hsaved : saved.Settled) (haccounted : saved.session.Accounted cfg)
    (hdata : saved.serialize = .ok data) (haccept : accept data e.session = .ok taken) :
    (restoredSession taken e.session).Accounted cfg := by
  obtain ⟨_, hmatches, hlog, _⟩ := taken_over hsaved hdata haccept
  obtain ⟨base, now, hbase, hnow, haccount⟩ := haccounted
  rw [hsaved.idle] at hnow haccount
  refine ⟨base, now, ?_, ?_, ?_⟩
  · change Ledger.replay cfg taken.log.entries = _
    rw [hlog, hbase]
  · exact (show e.session.pending = none from h.idle) ▸ hnow
  · exact (show e.session.pending = none from h.idle) ▸ haccount.trans hmatches

end Settled

/-- What holds of an engine between two calls: its log has been written by sessions, all that is on
record are outcomes of the content or of some making, and the log leads to the ledger if they can be
read again. -/
structure Traced (cfg : Settings) (made : Outcome → Prop) (e : Engine) : Prop
    extends e.Settled where
  regular : ∀ g ∈ e.session.graphs, g.Regular
  counted : e.session.log.Counted
  noted : e.session.Notes fun o => o.Regular ∨ made o
  retold : e.session.Retold cfg

namespace Traced

theorem ofGraphs {host : Host} {clock : Clock} (hgraphs : ∀ g ∈ graphs, g.Regular)
    (h : Engine.ofGraphs graphs host clock = .ok e) : e.Traced cfg made := by
  have hsettled : e.Settled := .ofGraphs h
  obtain ⟨he, _, _⟩ := of_register h
  refine ⟨hsettled, ?_, he ▸ EventLog.counted_empty, he ▸ nofun, fun _ => ?_⟩
  · rw [graphs_register h]
    exact hgraphs
  · rw [he]
    exact ⟨.empty, .empty, rfl, rfl, .refl _⟩

theorem forget (h : e.Traced cfg made) : e.forget.Traced cfg made := by
  refine ⟨h.toSettled.forget, graphs_forget e ▸ h.regular, EventLog.counted_empty, ?_,
    fun _ => h.toSettled.accounted_forget cfg⟩
  exact fun data hdata => h.noted data (List.mem_append_right _ hdata)

theorem course (h : e.Traced cfg made) {c : Call} {acts : List Act} (hs : e'.Settled)
    (hreports : ∀ o, c.Reports o → o.Regular ∨ made o)
    (hdoes : c.Does cfg e.session acts e'.session) : e'.Traced cfg made := by
  have hc := hdoes.course
  exact ⟨hs, hc.graphs ▸ h.regular, (Session.lasting_counted cfg).course h.counted hc,
    h.noted.course hreports (fun g hg o ho => .inl ((h.regular g hg).outcome o ho)) hc,
    h.retold.course hc⟩

theorem register (h : e.Traced cfg made) (hs : e'.Settled) (hgraphs : ∀ g ∈ graphs, g.Regular)
    (hr : e.register graphs = .ok e') : e'.Traced cfg made := by
  obtain ⟨he, _, _⟩ := of_register hr
  refine ⟨hs, ?_, he ▸ h.counted, he ▸ h.noted, he ▸ fun hretellable => ?_⟩
  · rw [graphs_register hr]
    exact List.forall_mem_append.2 ⟨h.regular, hgraphs⟩
  · exact (h.retold hretellable).congr rfl rfl rfl rfl

theorem restored {saved : Engine} {data : Value} (h : e.Traced cfg made)
    (hsaved : saved.Traced cfg made) (hdata : saved.serialize = .ok data) :
    ((Call.restore data).after cfg e).Traced cfg made := by
  have hsettled := h.toSettled.restored cfg hsaved.toSettled hdata
  cases haccept : accept data e.session with
  | error why =>
    rw [Call.after, Call.ask, Call.answer_error (restore_of_refused haccept)]
    exact h
  | ok taken =>
    obtain ⟨_, _, hlog, hordered⟩ := Settled.taken_over hsaved.toSettled hdata haccept
    rw [Call.after, Call.ask, Call.answer_ok (restore_of_accept haccept hordered)] at hsettled ⊢
    have hnoted : (restoredSession taken e.session).noted = saved.session.noted := by
      rw [Session.noted_of_idle hsettled.idle, Session.noted_of_idle hsaved.idle, ← hlog]
      rfl
    refine ⟨hsettled, graphs_restoredSession _ e.session ▸ h.regular, ?_, ?_, fun hretellable => ?_⟩
    · change taken.log.Counted
      exact hlog ▸ hsaved.counted
    · unfold Session.Notes
      exact hnoted ▸ hsaved.noted
    · refine h.toSettled.accounted_restored hsaved.toSettled (hsaved.retold ?_) hdata haccept
      unfold Session.Retellable at *
      exact hnoted ▸ hretellable

theorem after (h : e.Traced cfg made) {c : Call} (hc : c.Supplies cfg made)
    (hconcludes : c.Concludes cfg e) : (c.after cfg e).Traced cfg made := by
  have hsettled := h.toSettled.after hconcludes
  by_cases hplay : c.isPlay = true
  · obtain ⟨acts, hdoes⟩ := h.toSettled.does cfg hplay
    refine h.course hsettled ?_ hdoes
    rintro o ⟨reports, source, outcomes, rfl, hread, ho⟩
    rcases of_readReports hread o ho with hready | ⟨_, _, _, hread⟩
    · exact .inr (hc o hready)
    · exact .inl (Outcome.regular_of_read hread)
  cases c with
  | newGame startMain =>
    obtain ⟨acts, hdoes⟩ := h.toSettled.does_newGame hconcludes
    exact h.forget.course hsettled (fun o ⟨_, _, _, hother, _⟩ => by cases hother) hdoes
  | register graphs =>
    rw [Call.after, Call.ask] at hsettled ⊢
    cases hr : e.register graphs with
    | ok e' =>
      rw [hr] at hsettled
      exact h.register hsettled hc.regular hr
    | error why => exact h
  | restore data => cases hc
  | _ => exact absurd rfl hplay

end Traced

end Engine

theorem Call.Supplies.concludes {cfg : Settings} {made : Outcome → Prop} {e : Engine} {c : Call}
    (h : c.Supplies cfg made) (hunbroken : ¬ c.BreaksOff cfg e) : c.Concludes cfg e := by
  cases c with
  | newGame startMain => exact fun why hbroken => hunbroken ⟨startMain, why, rfl, hbroken⟩
  | restore data => exact h
  | _ => trivial

namespace Hosted

variable {cfg : Settings} {made : Outcome → Prop} {e : Engine}

theorem visited (h : Hosted cfg made e) : Visited cfg e := by
  induction h with
  | built hloaded hbuilt => exact .built hloaded hbuilt
  | called _ hc ih => exact ih.called fun graphs he => by rw [he] at hc; exact hc
  | restored _ _ _ _ ih => exact ih.called nofun

theorem traced (h : Hosted cfg made e) (hidle : e.session.pending = none) : e.Traced cfg made := by
  induction h with
  | built hloaded hbuilt => exact .ofGraphs hloaded.regular hbuilt
  | @called e c he hc ih =>
    have hclosed : ¬ (c.after cfg e).session.inEntry = true := by simp [Session.inEntry, hidle]
    rw [he.visited.sturdy.consistent.inEntry_after, not_or] at hclosed
    have hidle' : e.session.pending = none := by simpa [Session.inEntry] using hclosed.1
    exact (ih hidle').after hc (hc.concludes hclosed.2)
  | restored _ _ hidle' hdata ih ih' =>
    rw [Engine.pending_restore] at hidle
    exact (ih hidle).restored (ih' hidle') hdata

end Hosted

namespace Engine.Traced

variable {cfg : Settings} {made : Outcome → Prop} {e : Engine} (h : e.Traced cfg made)
include h

theorem replayed (hretellable : e.session.Retellable) : ∃ l, e.replay cfg = .ok l ∧
    l.Matches e.session.ledger ∧ e.verifyReplay cfg = .ok true := by
  obtain ⟨base, now, hbase, hnow, hmatches⟩ := h.retold hretellable
  rw [h.idle] at hnow hmatches
  cases hnow
  have hreplay : e.replay cfg = .ok base := hbase
  refine ⟨base, hreplay, hmatches, ?_⟩
  rw [Engine.verifyReplay, hreplay, ok_bind]
  exact if_pos (hmatches.same h.storable.ledger)

theorem replay_eq_ok : (∃ l, e.replay cfg = .ok l) ↔ e.session.Retellable := by
  refine ⟨fun hreplay data hdata => ?_,
    fun hretellable => (h.replayed hretellable).imp fun _ => And.left⟩
  rw [Session.noted_of_idle h.idle] at hdata
  obtain ⟨entry, hentry, hmem⟩ := List.mem_flatMap.1 hdata
  exact (Ledger.replay_eq_ok.1 hreplay entry hentry).outcomes data hmem

/-- Replaying can only fail on an outcome, and then it is refused. -/
theorem onlyRefused_replay : OnlyRefused (e.replay cfg) := by
  intro why hwhy
  obtain ⟨entry, hentry, l, hfailed⟩ := exists_error_of_foldlM hwhy
  rcases bind_eq_error.1 hfailed with houtcomes | ⟨_, _, htransitions⟩
  · obtain ⟨data, hdata, l, hfailed⟩ := exists_error_of_foldlM houtcomes
    have hnoted : data ∈ e.session.noted :=
      List.mem_append_left _ (List.mem_flatMap.2 ⟨entry, hentry, hdata⟩)
    obtain ⟨o, _, rfl⟩ := h.noted data hnoted
    rcases bind_eq_error.1 hfailed with hread | ⟨p, hread, hledger⟩
    · exact o.onlyRefused_read_toTable why hread
    · have hreadable := Outcome.readable_of_read_toTable hread
      cases hreadable.read_toTable.symm.trans hread
      obtain ⟨m, hm⟩ := hreadable.regular_told.onLedger cfg l
      cases hm.symm.trans hledger
  · -- the graphs of the transitions are texts, as sessions have written them
    obtain ⟨transition, htransition, l, hfailed⟩ := exists_error_of_foldlM htransitions
    obtain ⟨_, _, p, time, rfl⟩ := h.counted.of_mem hentry
    obtain ⟨change, _, rfl⟩ := List.mem_map.1 htransition
    cases hfailed

end Engine.Traced

/-- A report is taken only while no entry is open, and leaves none open.  Its outcomes go on record
as they are. -/
theorem Visited.takes {cfg : Settings} {e : Engine} (h : Visited cfg e) {reports : List Report}
    {source : String} {entry : Entry}
    (haccepted : ((Call.external reports source).ask cfg e).1.Accepts entry) :
    let e' := (Call.external reports source).after cfg e
    e.session.pending = none ∧ e'.session.pending = none ∧ ∃ outcomes,
      Engine.readReports source 0 reports = .ok outcomes ∧
      e'.session.noted = e.session.noted ++ outcomes.map Outcome.toTable := by
  intro e'
  have hconsistent := h.sturdy.consistent
  have hrun := Engine.of_external_accepted haccepted
  have hidle : e.session.pending = none := by
    by_contra hopen
    have hopen : e.session.inEntry = true := Option.isSome_iff_ne_none.2 hopen
    rcases Engine.applyExternal_cases cfg reports source e with
      ⟨message, hanswer⟩ | ⟨why, _, _, hanswer⟩ | ⟨outcomes, _, happlied⟩
    · cases hanswer.symm.trans hrun
    · cases hanswer.symm.trans hrun
    · have hblocked := Ends.and (Step.applyAsEntry_blocked hopen outcomes (some source)) happlied
      unfold Ends at hblocked
      split at hblocked
      · exact hblocked.1
      · obtain ⟨-, messages, hanswer⟩ := hblocked
        cases hanswer.symm.trans hrun
  have hclosed : e'.session.pending = none := by
    have hafter : ¬ e'.session.inEntry = true := by
      rw [hconsistent.inEntry_after]
      rintro (hopen | ⟨_, _, hother, _⟩)
      · simp [Session.inEntry, hidle] at hopen
      · cases hother
    simpa [Session.inEntry] using hafter
  refine ⟨hidle, hclosed, ?_⟩
  have hgranted := (h.sturdy.settles_external hidle reports source).granted entry haccepted
  obtain ⟨_, _, ⟨outcomes, hread, rfl⟩, _, _, houtcomes, _⟩ := hgranted.told
  refine ⟨outcomes, hread, ?_⟩
  rw [flatMap_notes_eq, appliedBy_script] at houtcomes
  rw [Session.noted_of_idle hclosed, Session.noted_of_idle hidle, EventLog.noted, hgranted.log,
    List.flatMap_append, List.flatMap_singleton, houtcomes]
  rfl

/-- What is reported ready is among the outcomes that are read off the reports. -/
theorem Engine.ready_mem_of_readReports {source : String} {reports : List Report} {place : Nat}
    {outcomes : List Outcome} (h : readReports source place reports = .ok outcomes) {o : Outcome}
    (ho : .ready o ∈ reports) : o ∈ outcomes := by
  induction reports generalizing place outcomes with
  | nil => cases ho
  | cons r rest ih =>
    cases r with
    | ready p =>
      obtain ⟨os, hos, rfl⟩ := map_eq_ok.1 h
      rcases List.mem_cons.1 ho with hp | ho
      · cases hp
        exact List.mem_cons_self
      · exact List.mem_cons_of_mem _ (ih hos ho)
    | data v =>
      obtain ⟨p, _, h⟩ := bind_eq_ok.1 h
      obtain ⟨os, hos, h⟩ := bind_eq_ok.1 h
      cases h
      rcases List.mem_cons.1 ho with hv | ho
      · cases hv
      · exact List.mem_cons_of_mem _ (ih hos ho)

/-- Of a report that is taken, all goes on record so that it can be read again just if this is so of
the outcomes that the host has made. -/
theorem Visited.retellable_takes {cfg : Settings} {e : Engine} (h : Visited cfg e)
    {reports : List Report} {source : String} {entry : Entry}
    (haccepted : ((Call.external reports source).ask cfg e).1.Accepts entry) :
    ((Call.external reports source).after cfg e).session.Retellable ↔
      e.session.Retellable ∧ ∀ o, .ready o ∈ reports → o.Readable := by
  obtain ⟨-, -, outcomes, hread, hnoted⟩ := h.takes haccepted
  unfold Session.Retellable
  rw [hnoted, List.forall_mem_append, List.forall_mem_map]
  refine and_congr_right fun _ => ⟨fun hall o ho => ?_, fun hready o ho => ?_⟩
  · exact Outcome.readFrom_toTable_iff.1 (hall o (Engine.ready_mem_of_readReports hread ho))
  · refine Outcome.readFrom_toTable_iff.2 ?_
    rcases Engine.of_readReports hread o ho with hmade | ⟨_, _, _, hread⟩
    · exact hready o hmade
    · exact (Outcome.regular_of_read hread).readable

/-- A new game of the patrol is one of a host, whatever the host may make. -/
theorem Hosted.patrol (made : Outcome → Prop) :
    Hosted .builtIn made ((Call.newGame false).after .builtIn (.fresh .patrol {})) := by
  obtain ⟨_, hload, hbuilt⟩ := Engine.ofGraphs_fresh {}
    (show (Content.load .builtIn .patrol []).toOption.isSome = true by decide +kernel)
  exact .called (c := .newGame false) (.built ⟨_, _, hload⟩ hbuilt) trivial

end Questline
