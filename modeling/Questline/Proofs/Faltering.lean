import Questline.Proofs.Accounts
import Questline.Proofs.Entries
import Questline.Proofs.Quiet

/-! Outcomes for which a service is down.  A pass over the availability of graphs follows every
outcome that is carried out, but none that falters on the way: what such an outcome has put on
record already may leave a graph waiting that is due. -/

namespace Questline

namespace Host

/-- No service is down, whatever is called. -/
def Up (h : Host) : Prop :=
  ∀ (service : Service) (outage : Outage), Assoc.get? h.outages service = some outage →
    ∀ call, outage.fails call = false

variable {h h' : Host}

theorem Up.answering (hup : h.Up) : h.Answering :=
  fun _ service outage _ houtage => hup service outage houtage

theorem Up.of_mended (hmended : h.outages = []) : h.Up := by
  intro service outage houtage
  rw [hmended] at houtage
  cases houtage

theorem FailsAlike.up (hh : h.FailsAlike h') (hup : h.Up) : h'.Up :=
  fun service => hh.serves (hup service)

end Host

/-- A step of the host that fails only when a service is down, and then before anything is done. -/
def Prompt {α : Type} (x : HostStep α) : Prop :=
  ∀ h, Ends x h (fun _ _ => True) fun why h' =>
    why.IsDown ∧ ¬ h.Up ∧ ∃ outages, h' = { h with outages }

namespace Prompt

variable {α : Type}

/-- Once its service has answered, a step does not fail any more. -/
theorem call_bind (service : Service) {f : Unit → HostStep α}
    (hf : ∀ h, Ends (f ()) h (fun _ _ => True) fun _ _ => False) :
    Prompt (Host.call service >>= f) := by
  intro h
  rw [ends_bind]
  have hgoOn (h' : Host) : Ends (f ()) h' (fun _ _ => True) fun why h' =>
      why.IsDown ∧ ¬ h.Up ∧ ∃ outages, h' = { h with outages } :=
    (hf h').mono (fun _ _ _ => trivial) fun _ _ h => h.elim
  unfold Host.call
  rw [ends_bind, ends_get]
  cases houtage : Assoc.get? h.outages service with
  | none => exact hgoOn h
  | some outage =>
    rw [ends_bind, ends_set]
    split
    next hfails =>
      refine ⟨⟨service, rfl⟩, fun hup => ?_, _, rfl⟩
      rw [hup service outage houtage] at hfails
      cases hfails
    next => exact hgoOn _

theorem modify (service : Service) (f : Host → Host) :
    Prompt (do
      Host.call service
      modify f) :=
  call_bind service fun _ => trivial

theorem giveItem (item : String) (quantity : Int) : Prompt (Host.giveItem item quantity) :=
  modify _ _

theorem removeItem (item : String) (quantity : Int) : Prompt (Host.removeItem item quantity) := by
  refine call_bind _ fun h => ?_
  rw [ends_bind, ends_get]
  split <;> trivial

theorem grantExperience (amount : Int) : Prompt (Host.grantExperience amount) := modify _ _

theorem unlockLocation (location : String) : Prompt (Host.unlockLocation location) := modify _ _

theorem adjustRelationship (companion : String) (change : Int) :
    Prompt (Host.adjustRelationship companion change) := modify _ _

theorem unlockCompanion (companion : String) (relationship : Int) :
    Prompt (Host.unlockCompanion companion relationship) := modify _ _

theorem startEncounter (kind : Encounter) (encounter : String) :
    Prompt (Host.startEncounter kind encounter) := modify _ _

theorem triggerEnding (ending : String) (failed : Bool) :
    Prompt (Host.triggerEnding ending failed) := modify _ _

end Prompt

/-- Two ledgers that meet the same requirements, but for some. -/
def Ledger.AlikeBut (P : Requirement → Prop) (l m : Ledger) : Prop :=
  ∀ r, ¬ P r → ∀ h : Host, r.fact l h = r.fact m h

namespace Ledger

variable {cfg : Settings} {l m : Ledger} {P : Requirement → Prop}

theorem alikeBut_setState (l : Ledger) (g : String) (state : Lifecycle) :
    (l.setState g state).AlikeBut (fun r => r.kind = .questCompleted ∧ r.subject = g) l := by
  intro r hr h
  unfold Requirement.fact
  split <;> try rfl
  next hkind =>
    rw [stateOf_setState, if_neg]
    exact fun hsubject => hr ⟨hkind, hsubject⟩

theorem alikeBut_setRelationship (l : Ledger) (cfg : Settings) (companion : String) (value : Int) :
    (l.setRelationship cfg companion value).AlikeBut
      (fun r => r.kind = .relationship ∧ r.subject = companion) l := by
  intro r hr h
  unfold Requirement.fact
  split <;> try rfl
  next hkind =>
    unfold relationshipWith setRelationship Assoc.getD
    rw [Assoc.get?_put _ (Assoc.exact _) (Assoc.exact _), if_neg]
    exact fun hsubject => hr ⟨hkind, hsubject⟩

end Ledger

/-- Whether an outcome is carried out with the host as well. -/
def OutcomeKind.callsHost : OutcomeKind → Bool
  | .reputationDelta | .setFlag | .clearFlag | .unlockQuest => false
  | _ => true

namespace Outcome

variable {cfg : Settings} {o : Outcome} {l m : Ledger}

/-- A requirement about the relationship that an outcome changes, of which it tells the host. -/
def BearsOn (o : Outcome) (r : Requirement) : Prop :=
  (o.kind = .unlockCompanion ∨ o.kind = .relationshipDelta) ∧ r.kind = .relationship ∧
    o.target = some r.subject

theorem alikeBut_of_callsHost (hkind : o.kind.callsHost = true)
    (hl : o.onLedger cfg l = .ok m) : m.AlikeBut o.BearsOn l := by
  unfold Outcome.onLedger at hl
  split at hl
  next => cases hl; exact fun _ _ _ => rfl
  next => cases hl
  next hk _ => rw [hk] at hkind; cases hkind
  next hk _ => rw [hk] at hkind; cases hkind
  next hk _ => rw [hk] at hkind; cases hkind
  next companion hk htarget =>
    cases hl
    unfold Ledger.meetCompanion
    split
    · exact fun _ _ _ => rfl
    · intro r hr
      refine l.alikeBut_setRelationship cfg companion _ r fun ⟨hrelationship, hsubject⟩ => hr ?_
      exact ⟨.inl hk, hrelationship, hsubject ▸ htarget⟩
  next companion hk htarget =>
    cases hl
    intro r hr
    refine l.alikeBut_setRelationship cfg companion _ r fun ⟨hrelationship, hsubject⟩ => hr ?_
    exact ⟨.inr hk, hrelationship, hsubject ▸ htarget⟩
  next => cases hl; exact fun _ _ _ => rfl

/-- What is reported of an outcome that has failed. -/
def failure (o : Outcome) (why : Fault) : String :=
  let target := o.target.getD ""
  s!"{o.kind.word} {target} ({o.id.plain}) failed: {why.message}, continuing"

end Outcome

/-- A graph that is due by one ledger is due by another, unless it waits for something in which they
differ. -/
theorem Instance.isDue_of_alikeBut {i : Instance} {l m : Ledger} {h : Host}
    {P : Requirement → Prop} (hl : l.AlikeBut P m) (hdue : i.isDue l h = true) :
    i.isDue m h = true ∨ ∃ r ∈ i.graph.requirements, P r := by
  by_cases hnone : ∃ r ∈ i.graph.requirements, P r
  · exact .inr hnone
  · refine .inl (Instance.isDue_eq_true.2 ?_)
    obtain ⟨hlife, hready, hmet⟩ := Instance.isDue_eq_true.1 hdue
    refine ⟨hlife, hready, fun r hr => ?_⟩
    rw [Requirement.holds, ← hl r fun hP => hnone ⟨r, hr, hP⟩]
    exact hmet r hr

/-- An outcome has been noted in the open entry and reported as failed, since a service is down.
Only what it does to the ledger is done. -/
structure Falters (cfg : Settings) (o : Outcome) (s t : Session) : Prop where
  down : ¬ s.host.Up
  calls : o.kind.callsHost = true
  instances : t.instances = s.instances
  ledger : o.onLedger cfg s.ledger = .ok t.ledger
  host : ∃ outages, t.host = { s.host with outages }
  reported : ∃ service, t.diagnostics = s.diagnostics ++ [o.failure (.down service)]

namespace Step

variable {cfg : Settings} {s t : Session} {o : Outcome}

theorem ends_actOnHost (o : Outcome) (target : String) (old new : Ledger) (s : Session) :
    Ends (actOnHost o target old new) s (fun _ _ => True) fun why t => why.IsDown ∧
      o.kind.callsHost = true ∧ ¬ s.host.Up ∧
        ∃ outages, t = { s with host := { s.host with outages } } := by
  have asked {α : Type} {x : HostStep α} (hx : Prompt x) (hkind : o.kind.callsHost = true) :
      Ends (onHost x) s (fun _ _ => True) fun why t => why.IsDown ∧
        o.kind.callsHost = true ∧ ¬ s.host.Up ∧
          ∃ outages, t = { s with host := { s.host with outages } } := by
    rw [ends_onHost]
    refine (hx s.host).mono (fun _ _ _ => trivial) ?_
    rintro why h' ⟨hwhy, hdown, outages, hh⟩
    exact ⟨hwhy, hkind, hdown, outages, by rw [hh]⟩
  unfold actOnHost
  cases hkind : o.kind <;> rw [hkind] at asked
  case grantExperience => exact asked (.grantExperience _) rfl
  case giveItem => exact asked (.giveItem _ _) rfl
  case removeItem =>
    rw [ends_bind]
    refine (asked (.removeItem _ _) rfl).mono (fun taken t _ => ?_) fun _ _ h => h
    cases taken <;> trivial
  case unlockLocation => exact asked (.unlockLocation _) rfl
  case unlockCompanion => exact asked (.unlockCompanion _ _) rfl
  case relationshipDelta => exact asked (.adjustRelationship _ _) rfl
  case startCombat => exact asked (.startEncounter _ _) rfl
  case startPuzzle => exact asked (.startEncounter _ _) rfl
  case triggerEnding => exact asked (.triggerEnding _ _) rfl
  all_goals trivial

/-- Graphs that do not hear of an outcome's being carried out are left alone by it. -/
theorem ends_actOnGraphs (o : Outcome) (target : String) (s : Session) :
    Ends (actOnGraphs {} o target) s (fun _ t => o.kind.callsHost = true →
      ∃ ending, t = { s with ending }) fun _ _ => False := by
  unfold actOnGraphs
  cases hkind : o.kind
  case unlockQuest =>
    unfold unlockGraph
    rw [ends_bind, ends_get]
    split <;> exact nofun
  case triggerEnding => exact fun _ => ⟨_, rfl⟩
  all_goals exact fun _ => ⟨s.ending, rfl⟩

/-- A regular outcome fails only when a service is down. -/
theorem ends_perform (ho : o.Regular) (s : Session) :
    Ends (perform cfg {} o) s (fun _ _ => True) fun why t => why.IsDown ∧ ¬ s.host.Up ∧
      o.kind.callsHost = true ∧ t.instances = s.instances ∧ t.pending = s.pending ∧
        o.onLedger cfg s.ledger = .ok t.ledger ∧ ∃ outages, t.host = { s.host with outages } := by
  obtain ⟨new, hnew⟩ := ho.onLedger cfg s.ledger
  unfold perform
  simp only [if_true, ends_bind, ends_get, ends_modify, hnew, ends_ofExcept_ok]
  refine (ends_actOnGraphs o _ _).mono (fun _ t ht => ?_) fun _ _ h => h.elim
  refine (ends_actOnHost o _ _ _ t).mono (fun _ _ _ => trivial) ?_
  rintro why u ⟨hwhy, hkind, hdown, outages, hu⟩
  obtain ⟨ending, rfl⟩ := ht hkind
  subst hu
  exact ⟨hwhy, hdown, hkind, rfl, rfl, rfl, outages, rfl⟩

/-- Where facts can be had and judged, a pass gets through and leaves nothing behind that is due. -/
theorem ends_pass (hs : s.Working) (hsure : s.Sure) :
    Ends refreshAvailability s (fun _ t => t.Quiet) fun _ _ => False := by
  refine (hs.quiet.and (ends_refreshAvailability s)).mono (fun _ _ h => h.1.1) fun _ _ h => ?_
  refine h.2 ⟨hsure.answering, fun i hi _ => ?_⟩
  exact Requirement.verdict_of_judgeable
    (hsure.judgeable i.graph (List.mem_map_of_mem hi)) s.ledger s.host

/-- An outcome is followed by a pass, or it falters. -/
theorem ends_applyOutcome (hs : s.Working) (hsure : s.Sure) (ho : o.Regular) :
    Ends (applyOutcome cfg {} o) s (fun _ t => t.Quiet ∨ Falters cfg o s t)
      fun _ _ => False := by
  have hlawful : (Act.applies .report o).Lawful (fun _ => True) s := ⟨hs.entry, trivial⟩
  have hcourse := Course.single cfg hlawful
  have hinner : ∀ a ∈ [Act.applies .report o], a.isInner = true := by simp [Act.isInner]
  have hworking := hs.course hcourse hinner
  have hsure' := hsure.of_alike hcourse.graphs (hcourse.host_alike (unturned_of_inner hinner))
  have hrun := ends_of_after (x := (Act.applies .report o).step cfg) (s := s)
    (P := (· = (Act.applies .report o).run cfg s)) rfl
  simp only [Act.step, noteOutcome, ends_bind, ends_modify] at hrun
  unfold applyOutcome
  simp only [noteOutcome, if_true, ends_bind, ends_attempt, ends_modify]
  refine (hrun.and (ends_perform ho _)).mono ?_ ?_
  · rintro _ t ⟨ht, _⟩
    subst ht
    exact (ends_pass hworking hsure').mono (fun _ _ hquiet => .inl hquiet) fun _ _ h => h.elim
  · rintro why t ⟨_, ⟨service, rfl⟩, hdown, hcalls, hinstances, hpending, hledger, hhost⟩
    obtain ⟨p, hp⟩ := Option.isSome_iff_exists.1 hs.entry
    refine .inr ⟨hdown, hcalls, hinstances, hledger, hhost, service, ?_⟩
    simp [Session.diagnostics, hpending, hp, Outcome.failure]

end Step

/-- Outcomes that falter one after the other. -/
inductive Falter (cfg : Settings) : Session → List Outcome → Session → Prop
  | nil (s : Session) : Falter cfg s [] s
  | cons {s t u : Session} {o : Outcome} {rest : List Outcome} :
      Falters cfg o s t → Falter cfg t rest u → Falter cfg s (o :: rest) u

namespace Falter

variable {cfg : Settings} {s t : Session} {outcomes : List Outcome}

theorem not_up (h : Falter cfg s outcomes t) (hne : outcomes ≠ []) : ¬ s.host.Up := by
  cases h with
  | nil => exact absurd rfl hne
  | cons hfirst _ => exact hfirst.down

/-- Each of them has been reported. -/
theorem reported (h : Falter cfg s outcomes t) : ∃ messages,
    t.diagnostics = s.diagnostics ++ messages ∧
      List.Forall₂ (fun o m => ∃ service, m = o.failure (.down service)) outcomes messages := by
  induction h with
  | nil s => exact ⟨[], (List.append_nil _).symm, .nil⟩
  | cons hfirst _ ih =>
    obtain ⟨service, hservice⟩ := hfirst.reported
    obtain ⟨messages, hmessages, hall⟩ := ih
    refine ⟨_, ?_, .cons ⟨service, rfl⟩ hall⟩
    rw [hmessages, hservice, List.append_assoc]
    rfl

/-- What is due after them was due before, unless one of them bears on it. -/
theorem due (h : Falter cfg s outcomes t) {i : Instance} (hi : i ∈ t.instances)
    (hdue : i.isDue t.ledger t.host = true) :
    (i ∈ s.instances ∧ i.isDue s.ledger s.host = true) ∨
      ∃ o ∈ outcomes, ∃ r ∈ i.graph.requirements, o.BearsOn r := by
  induction h with
  | nil => exact .inl ⟨hi, hdue⟩
  | cons hfirst _ ih =>
    rcases ih hi hdue with ⟨hi, hdue⟩ | ⟨o, ho, hr⟩
    · obtain ⟨outages, hhost⟩ := hfirst.host
      rw [hhost, Instance.isDue_congr (.refl _) outages] at hdue
      have halike := Outcome.alikeBut_of_callsHost hfirst.calls hfirst.ledger
      refine (Instance.isDue_of_alikeBut halike hdue).imp (fun hdue => ⟨?_, hdue⟩)
        fun hr => ⟨_, List.mem_cons_self, hr⟩
      rw [← hfirst.instances]
      exact hi
    · exact .inr ⟨o, List.mem_cons_of_mem _ ho, hr⟩

end Falter

namespace Step

variable {cfg : Settings} {s t : Session} {outcomes : List Outcome}

/-- Outcomes have been applied, the last of them perhaps to no avail.  Nothing was due after the
others. -/
def Trails (cfg : Settings) (s : Session) (outcomes : List Outcome) (t : Session) : Prop :=
  ∃ done failed u, outcomes = done ++ failed ∧ (done = [] ∧ u = s ∨ u.Quiet) ∧
    s.host.FailsAlike u.host ∧ Falter cfg u failed t

theorem ends_applyEach (hs : s.Working) (hsure : s.Sure) (ho : ∀ o ∈ outcomes, o.Regular) :
    Ends (applyEach cfg {} outcomes) s (fun _ t => Trails cfg s outcomes t) fun _ _ => False := by
  induction outcomes generalizing s with
  | nil => exact ⟨[], [], s, rfl, .inl ⟨rfl, rfl⟩, .of_outages rfl, .nil s⟩
  | cons o rest ih =>
    rw [List.forall_mem_cons] at ho
    rw [applyEach, ends_bind]
    have hplays : Plays cfg (fun _ => True) (applyOutcome cfg {} o) s _ _ :=
      plays_applyOutcome (c := .report) hs trivial
    refine (Ends.and hplays (ends_applyOutcome hs hsure ho.1)).mono ?_ fun _ _ h => h.2
    rintro _ t ⟨⟨acts, hc, hcalm⟩, hfirst⟩
    have halike := hc.host_alike (unturned_of_inner hcalm.inner)
    refine (ih (hs.course hc hcalm.inner) (hsure.of_alike hc.graphs halike) ho.2).mono ?_
      fun _ _ h => h
    rintro _ v ⟨done, failed, u, hrest, ⟨rfl, rfl⟩ | hquiet, hualike, hfalter⟩
    · -- all that come after this one have faltered
      rcases hfirst with hquiet | hfirst
      · exact ⟨[o], failed, u, by rw [hrest]; rfl, .inr hquiet, halike, hfalter⟩
      · exact ⟨[], o :: failed, s, by rw [hrest]; rfl, .inl ⟨rfl, rfl⟩, .of_outages rfl,
          .cons hfirst hfalter⟩
    · exact ⟨o :: done, failed, u, by rw [hrest]; rfl, .inr hquiet, halike.trans hualike, hfalter⟩

theorem ends_applyOutcomes (hs : s.Working) (hsure : s.Sure) (ho : ∀ o ∈ outcomes, o.Regular) :
    Ends (applyOutcomes cfg {} outcomes) s (fun _ t => Trails cfg s outcomes t)
      fun _ _ => False := by
  unfold applyOutcomes
  rw [ends_bind, ends_get, if_pos hs.entry]
  exact ends_applyEach hs hsure ho

/-- Where no service is down nothing is due any more once some outcomes have been applied. -/
theorem Trails.quiet (h : Trails cfg s outcomes t) (hup : s.host.Up) :
    outcomes = [] ∧ t = s ∨ t.Quiet := by
  obtain ⟨done, failed, u, rfl, hu, halike, hfalter⟩ := h
  obtain rfl : failed = [] := by
    by_contra hne
    exact hfalter.not_up hne (halike.up hup)
  cases hfalter
  rcases hu with ⟨rfl, rfl⟩ | hquiet
  · exact .inl ⟨rfl, rfl⟩
  · exact .inr hquiet

end Step

namespace Engine

variable {cfg : Settings} {e : Engine}

theorem ends_onSession {α : Type} {x : Step α} {Q : α → Engine → Prop}
    {E : Fault → Engine → Prop} : Ends (onSession x) e Q E ↔
      Ends x e.session (fun a session => Q a { e with session }) fun why session =>
        E why { e with session } := by
  unfold Ends onSession
  cases x e.session <;> rfl

/-- Reported outcomes that are taken have been applied in an entry of their own, and what was
reported of them has been passed on. -/
theorem ends_applyExternal (h : e.Sturdy) (hsure : e.session.Sure) {reports : List Report}
    {source : String} (hregular : ∀ outcomes, readReports source 0 reports = .ok outcomes →
      ∀ o ∈ outcomes, o.Regular) :
    Ends (applyExternal cfg reports source) e
      (fun written e' => written.isSome = true → ∃ outcomes u,
        readReports source 0 reports = .ok outcomes ∧
        Step.Trails cfg
          { e.session with pending := some { kind := .external, source := some source } }
          outcomes u ∧
        e'.diagnostics = e.diagnostics ++ u.diagnostics ∧ e'.session.instances = u.instances ∧
        e'.session.ledger = u.ledger ∧ e'.session.host = u.host)
      fun _ _ => True := by
  unfold applyExternal
  rw [ends_bind, ends_get]
  split
  · exact nofun
  cases hread : readReports source 0 reports with
  | error why =>
    dsimp only
    split
    · exact nofun
    · trivial
  | ok outcomes =>
    dsimp only
    rw [ends_bind, ends_onSession]
    cases hidle : e.session.pending with
    | some p =>
      rw [ends_bind]
      unfold Ends
      rw [Step.openEntry_eq_error hidle]
      trivial
    | none =>
      have hworking := Step.working_opened h.consistent.agrees h.consistent.sound
        { kind := .external, source := some source }
      have happlied : Walks cfg (fun _ => True) (Step.applyOutcomes cfg {} outcomes) _ _ _ :=
        Step.walks_applyOutcomes (c := .report) hworking fun _ _ => trivial
      have htrails : Ends (Step.applyOutcomes cfg {} outcomes) _ _ _ :=
        Step.ends_applyOutcomes hworking (hsure.of_alike rfl (.of_outages rfl))
          (hregular outcomes hread)
      rw [Step.ends_openEntry_bind hidle, Step.settling, Step.ends_orElseDo]
      refine (Ends.and happlied htrails).mono ?_ fun _ _ h => h.2.elim
      rintro _ u ⟨⟨acts, hc, hinner, _⟩, hu⟩
      obtain ⟨p, hp⟩ := Option.isSome_iff_exists.1 (hworking.course hc hinner).entry
      rw [ends_bind, ends_get, ends_bind]
      unfold diagnose
      rw [ends_modify, ends_map, ends_onSession]
      unfold Ends
      rw [Step.commit_eq hp]
      exact fun _ => ⟨outcomes, u, rfl, hu, rfl, rfl, rfl, rfl⟩

theorem readReports_ne_nil {source : String} {reports : List Report} {place : Nat}
    {outcomes : List Outcome} (hne : reports ≠ [])
    (h : readReports source place reports = .ok outcomes) : outcomes ≠ [] := by
  rintro rfl
  cases reports with
  | nil => exact hne rfl
  | cons r rest =>
    cases r with
    | ready o =>
      obtain ⟨_, _, hnil⟩ := map_eq_ok.1 h
      cases hnil
    | data v =>
      obtain ⟨_, _, h⟩ := bind_eq_ok.1 h
      obtain ⟨_, _, h⟩ := bind_eq_ok.1 h
      cases h

/-- What is read off data is regular. -/
theorem regular_of_readReports {source : String} {reports : List Report} {place : Nat}
    {outcomes : List Outcome} (hreports : ∀ r ∈ reports, ∃ v, r = .data v)
    (h : readReports source place reports = .ok outcomes) : ∀ o ∈ outcomes, o.Regular := by
  intro o ho
  rcases of_readReports h o ho with hready | ⟨_, _, _, hread⟩
  · obtain ⟨_, hdata⟩ := hreports _ hready
    cases hdata
  · exact Outcome.regular_of_read hread

/-- A report that is answered with an entry has been taken. -/
theorem of_external_accepted {reports : List Report} {source : String} {entry : Entry}
    (h : ((Call.external reports source).ask cfg e).1.Accepts entry) :
    applyExternal cfg reports source e =
      .ok (some entry) ((Call.external reports source).after cfg e) := by
  rw [Call.after, Call.ask]
  rw [Call.ask] at h
  unfold Call.answer at *
  cases hrun : applyExternal cfg reports source e with
  | error why e' =>
    rw [hrun] at h
    cases h
  | ok written e' =>
    rw [hrun] at h
    obtain rfl : written = some entry := Except.ok.inj h
    rfl

end Engine

namespace Session

variable {s t : Session}

theorem due_eq_nil : s.due = [] ↔ ∀ i ∈ s.instances, ¬ i.isDue s.ledger s.host = true := by
  rw [due, List.map_eq_nil_iff, List.filter_eq_nil_iff]

theorem due_congr (hinstances : t.instances = s.instances) (hledger : t.ledger = s.ledger)
    (hhost : t.host = s.host) : t.due = s.due := by
  rw [due, due, hinstances, hledger, hhost]

end Session

/-- Whatever has been asked before, once reported outcomes have been applied no graph is left that
is due, unless services were down for the last of them: each of these has been reported as failed,
and what is due now waits for a relationship that they have changed, or was due before, if they are
all. -/
theorem due_only_by_last_failures {cfg : Settings} {e : Engine} (hvisited : Visited cfg e)
    (hanswers : e.session.host.Answering) {reports : List Report} {source : String} {entry : Entry}
    (hreports : ∀ r ∈ reports, ∃ v, r = .data v) (hne : reports ≠ [])
    (haccepted : ((Call.external reports source).ask cfg e).1.Accepts entry) :
    let e' := (Call.external reports source).after cfg e
    e'.session.due = [] ∨ ∃ done failed earlier messages,
      Engine.readReports source 0 reports = .ok (done ++ failed) ∧ failed ≠ [] ∧
      e'.diagnostics = earlier ++ messages ∧
      List.Forall₂ (fun o m => ∃ service, m = o.failure (.down service)) failed messages ∧
      ∀ i ∈ e'.session.instances, i.isDue e'.session.ledger e'.session.host = true →
        (done = [] ∧ i ∈ e.session.instances ∧ i.isDue e.session.ledger e.session.host = true) ∨
          ∃ o ∈ failed, ∃ r ∈ i.graph.requirements, o.BearsOn r := by
  intro e'
  have h := hvisited.sturdy
  have happlied : Ends (Engine.applyExternal cfg reports source) e _ _ :=
    Engine.ends_applyExternal h (h.sure hanswers) fun _ => Engine.regular_of_readReports hreports
  unfold Ends at happlied
  rw [Engine.of_external_accepted haccepted] at happlied
  obtain ⟨_, u, hread, ⟨done, failed, v, rfl, hv, _, hfalter⟩, hdiagnostics, hinstances, hledger,
    hhost⟩ := happlied rfl
  have hdue : e'.session.due = u.due := Session.due_congr hinstances hledger hhost
  by_cases hfailed : failed = []
  · subst hfailed
    cases hfalter
    rcases hv with ⟨rfl, rfl⟩ | hquiet
    · exact absurd rfl (Engine.readReports_ne_nil hne hread)
    · exact .inl (hdue.trans hquiet.none_due)
  · obtain ⟨messages, hmessages, hall⟩ := hfalter.reported
    refine .inr ⟨done, failed, e.diagnostics ++ v.diagnostics, messages, hread, hfailed, ?_, hall,
      fun i hi hidue => ?_⟩
    · rw [hdiagnostics, hmessages, List.append_assoc]
    · change i ∈ e'.session.instances at hi
      rw [hinstances] at hi
      change i.isDue e'.session.ledger e'.session.host = true at hidue
      rw [hledger, hhost] at hidue
      refine (hfalter.due hi hidue).imp_left fun ⟨hiv, hdue⟩ => ?_
      rcases hv with ⟨rfl, rfl⟩ | hquiet
      · exact ⟨rfl, hiv, hdue⟩
      · exact absurd hdue (Session.due_eq_nil.1 hquiet.none_due i hiv)

/-- A reunion with a companion who has grown close. -/
def Content.reunion : Content :=
  [("reunion", .record [
    ("title", "Reunion"), ("start", "quay"), ("branch", "crew"),
    ("requirements", .list [
      .record [("kind", "relationship"), ("companion", "mira"), ("value", .int 40)]]),
    ("nodes", .list [
      .record [("id", "quay"), ("text", "At the quay."), ("choices", .list [
        .record [("id", "greet"), ("text", "Greet.")]])]])])]

/-- Mira joins, but the crew cannot take her in. -/
def Call.welcome : Call :=
  .external [.data (.record [("kind", "unlock_companion"), ("companion", "mira")])] "port"

theorem Requirement.service?_ne_unlockCompanion (r : Requirement) :
    r.service? ≠ some .unlockCompanion := by
  cases r with | mk kind => cases kind <;> nofun

/-- Nobody notices that the reunion is due. -/
theorem due_only_by_last_failures_reunion :
    let e := (Engine.fresh .reunion {}).afterAll .builtIn
      [.newGame false, .turn (({} : Host).breakService .unlockCompanion none)]
    let e' := Call.welcome.after .builtIn e
    e.session.host.Answering ∧ e'.session.due = ["reunion"] ∧
      ∃ failed earlier messages, failed ≠ [] ∧ e'.diagnostics = earlier ++ messages ∧
        List.Forall₂ (fun (o : Outcome) m => ∃ service, m = o.failure (.down service))
          failed messages ∧
        ∀ i ∈ e'.session.instances, i.isDue e'.session.ledger e'.session.host = true →
          ∃ o ∈ failed, ∃ r ∈ i.graph.requirements, o.BearsOn r := by
  intro e e'
  have hanswers : e.session.host.Answering :=
    (Host.Answering.of_up rfl).breakService Requirement.service?_ne_unlockCompanion none
  obtain ⟨entry, haccepts⟩ := Answer.exists_accepts
    (show (Call.welcome.ask .builtIn e).1.written?.isSome = true by decide +kernel)
  have hwaiting : e'.session.due = ["reunion"] := by decide +kernel
  have hnone : e.session.due = [] := by decide +kernel
  rcases due_only_by_last_failures ((Visited.fresh {} (by decide +kernel)).afterAll (by simp))
    hanswers (by simp) (by simp) haccepts with hnil | hfailed
  · cases hnil.symm.trans hwaiting
  · obtain ⟨_, failed, earlier, messages, -, hne, htold, hall, hdue⟩ := hfailed
    refine ⟨hanswers, hwaiting, failed, earlier, messages, hne, htold, hall, fun i hi hidue => ?_⟩
    exact (hdue i hi hidue).resolve_left fun ⟨_, hi, hdue⟩ => Session.due_eq_nil.1 hnone i hi hdue

/-- The reunion is not available once Mira is close enough, though a pass would have opened it. -/
theorem reunion_left_waiting :
    let e := (Engine.fresh .reunion {}).afterAll .builtIn
      [.newGame false, .turn (({} : Host).breakService .unlockCompanion none)]
    let e' := Call.welcome.after .builtIn e
    (∃ graphs, Engine.ofGraphs graphs {} (.ticking 0 1) = .ok (.fresh .reunion {})) ∧
      e.session.host.Answering ∧ e.session.due = [] ∧
      (∃ entry, (Call.welcome.ask .builtIn e).1.Accepts entry) ∧
      e'.session.graphsIn .unavailable = ["reunion"] ∧ e'.session.due = ["reunion"] := by
  intro e e'
  obtain ⟨graphs, _, hbuilt⟩ := Engine.ofGraphs_fresh {}
    (show (Content.load .builtIn .reunion []).toOption.isSome = true by decide +kernel)
  exact ⟨⟨graphs, hbuilt⟩,
    (Host.Answering.of_up rfl).breakService Requirement.service?_ne_unlockCompanion none,
    by decide +kernel, Answer.exists_accepts (by decide +kernel), by decide +kernel,
    by decide +kernel⟩

end Questline
