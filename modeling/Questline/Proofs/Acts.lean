import Questline.Proofs.Answering
import Questline.Proofs.Instances
import Questline.Proofs.Logs
import Questline.Proofs.Tables

/-! The small acts that requests are made of, done by the steps of the session themselves, and
what each of them changes. -/

namespace Questline

/-- Why an outcome is applied: it stands in a part of a graph, or it is reported from outside. -/
inductive Cause
  | choice (graph : String) : Cause
  | entry (graph : String) : Cause
  | completion (graph : String) : Cause
  | failure (graph : String) : Cause
  | report : Cause
  deriving DecidableEq

inductive Act
  | opens (kind : EntryKind) (graph node choice source : Option String) : Act
  | applies (cause : Cause) (o : Outcome) : Act
  | moves (graph : String) (state : Lifecycle) : Act
  | enters (graph node : String) : Act
  | asks (service : Service) : Act
  | remarks (message : String) : Act
  | closes : Act
  | drops : Act
  /-- The rest of the game goes on between two requests. -/
  | turns (host : Host) : Act

namespace Act

/-- A graph that is begun stands at its start node. -/
def step (cfg : Settings) : Act → Step Unit
  | .opens kind graph node choice source => Step.openEntry kind graph node choice source
  | .applies _ o => do
    Step.noteOutcome o
    Step.perform cfg {} o
  | .moves graph state => do
    Step.transition graph state
    if state = .inProgress then
      modify fun s => s.updateInstance graph fun i => { i with activeNode := some i.graph.start }
  | .enters graph node =>
    modify fun s => s.updateInstance graph fun i => { i with activeNode := some node }
  | .asks service => Step.onHost (Host.call service)
  | .remarks message => Step.report message
  | .closes => do let _ ← Step.commit
  | .drops => Step.discard
  | .turns host => modify fun s => { s with host }

def run (cfg : Settings) (a : Act) (s : Session) : Session := after (a.step cfg) s

end Act

namespace Session

/-- An entry is open in which diagnostics may have been added. -/
def remarked (s : Session) (messages : List String) : Session :=
  { s with
    pending := s.pending.map fun p => { p with diagnostics := p.diagnostics ++ messages } }

def recorded (s : Session) (g : String) (state : Lifecycle) : Session :=
  { s with
    ledger := s.ledger.setState g state
    pending := s.pending.map fun p => { p with transitions := p.transitions ++ [(g, state)] } }

/-- A session with a graph moved to a state, on record everywhere. -/
def moved (s : Session) (g : String) (state : Lifecycle) : Session :=
  (s.updateInstance g fun i => { i with
    lifecycle := state
    activeNode := if state = .inProgress then some i.graph.start else none }).recorded g state

end Session

/-- Whether a message tells of an error inside. -/
def isInternal (message : String) : Bool := "internal error".toList.isPrefixOf message.toList

theorem isInternal_of_head {message : String}
    (h : message.toList.head?.all (· ≠ 'i') = true) : isInternal message = false := by
  unfold isInternal
  cases hm : message.toList with
  | nil => rfl
  | cons c rest =>
    rw [hm] at h
    simp only [List.head?_cons, Option.all_some, decide_eq_true_eq] at h
    simp [List.isPrefixOf, Ne.symm h]

/-- Nothing has changed but the host, and what is remarked about it. -/
def Aside (s t : Session) : Prop :=
  ∃ host messages, s.host.FailsAlike host ∧ (∀ m ∈ messages, isInternal m = false) ∧
    t = { s.remarked messages with host }

namespace Aside

theorem refl (s : Session) : Aside s s :=
  ⟨s.host, [], .of_outages rfl, by simp, by simp [Session.remarked]⟩

theorem onHost {α : Type} {step : HostStep α} (hstep : Steady step) (s : Session) :
    Ends (Step.onHost step) s (fun _ t => Aside s t) (fun _ t => Aside s t) := by
  have aside {host : Host} (h : s.host.FailsAlike host) : Aside s { s with host } :=
    ⟨host, [], h, by simp, by simp [Session.remarked]⟩
  rw [Step.ends_onHost]
  exact (hstep s.host).mono (fun _ _ => aside) fun _ _ => aside

theorem report {s t : Session} (h : Aside s t) {message : String}
    (hm : isInternal message = false) :
    Ends (Step.report message) t (fun _ u => Aside s u) (fun _ u => Aside s u) := by
  obtain ⟨host, messages, halike, hmessages, rfl⟩ := h
  refine ⟨host, messages ++ [message], halike, ?_, ?_⟩
  · simpa [or_imp, forall_and] using ⟨hmessages, hm⟩
  · cases hp : s.pending <;> simp [Session.remarked, hp]

end Aside

theorem Step.actOnHost_aside (o : Outcome) (target : String) (old new : Ledger) (s : Session) :
    Ends (actOnHost o target old new) s (fun _ t => Aside s t) (fun _ t => Aside s t) := by
  unfold actOnHost
  cases o.kind with
  | grantExperience => exact Aside.onHost (.grantExperience _) s
  | giveItem => exact Aside.onHost (.giveItem _ _) s
  | removeItem =>
    rw [ends_bind]
    refine (Aside.onHost (.removeItem target o.amount) s).mono (fun taken t ht => ?_)
      fun _ _ ht => ht
    cases taken with
    | true => exact ht
    | false => exact ht.report (isInternal_of_head (by simp [toString]))
  | unlockLocation => exact Aside.onHost (.unlockLocation _) s
  | unlockCompanion => exact Aside.onHost (.unlockCompanion _ _) s
  | relationshipDelta => exact Aside.onHost (.adjustRelationship _ _) s
  | startCombat => exact Aside.onHost (.startEncounter _ _) s
  | startPuzzle => exact Aside.onHost (.startEncounter _ _) s
  | triggerEnding => exact Aside.onHost (.triggerEnding _ _) s
  | reputationDelta | setFlag | clearFlag | unlockQuest => exact Aside.refl s

/-- What an outcome makes of an instance: it can only unlock it. -/
def Instance.upon (i : Instance) (o : Outcome) : Instance :=
  if o.kind = .unlockQuest ∧ o.target = some i.graph.id then { i with unlocked := true } else i

namespace Instance

@[simp] theorem upon_graph (i : Instance) (o : Outcome) : (i.upon o).graph = i.graph := by
  unfold upon
  split <;> rfl

@[simp] theorem upon_lifecycle (i : Instance) (o : Outcome) :
    (i.upon o).lifecycle = i.lifecycle := by
  unfold upon
  split <;> rfl

@[simp] theorem upon_activeNode (i : Instance) (o : Outcome) :
    (i.upon o).activeNode = i.activeNode := by
  unfold upon
  split <;> rfl

theorem upon_of_kind (i : Instance) {o : Outcome} (h : o.kind ≠ .unlockQuest) : i.upon o = i := by
  simp [upon, h]

end Instance

/-- The ending that an outcome triggers. -/
def Outcome.ending? (o : Outcome) : Option (String × Bool) :=
  if o.kind = .triggerEnding then o.target.map fun ending => (ending, o.fail) else none

/-- What an outcome leaves behind once it has been noted and carried out, also when the host
failed in between. -/
structure Applied (cfg : Settings) (o : Outcome) (s t : Session) : Prop where
  ledger : t.ledger = (o.onLedger cfg s.ledger).toOption.getD s.ledger
  log : t.log = s.log
  clock : t.clock = s.clock
  instances : t.instances = s.instances.map (·.upon o)
  ending : t.ending = o.ending?.or s.ending
  host : s.host.FailsAlike t.host
  pending : ∃ messages, (∀ m ∈ messages, isInternal m = false) ∧ t.pending = s.pending.map fun p =>
    { p with outcomes := p.outcomes ++ [o.toTable], diagnostics := p.diagnostics ++ messages }

namespace Applied

variable {cfg : Settings} {o : Outcome} {s t u : Session}

theorem aside (h : Applied cfg o s t) (hu : Aside t u) : Applied cfg o s u := by
  obtain ⟨host, further, halike, hfurther, rfl⟩ := hu
  obtain ⟨messages, hmessages, hp⟩ := h.pending
  refine ⟨h.ledger, h.log, h.clock, h.instances, h.ending, h.host.trans halike,
    messages ++ further, ?_, ?_⟩
  · simpa [or_imp, forall_and] using ⟨hmessages, hfurther⟩
  · change Option.map _ t.pending = _
    rw [hp, Option.map_map]
    congr 1
    funext p
    simp

theorem listened {new : Ledger} (hnew : o.onLedger cfg s.ledger = .ok new)
    (ht : t = { s with
      pending := s.pending.map fun p => { p with outcomes := p.outcomes ++ [o.toTable] }
      ledger := new }) :
    Ends (Step.actOnGraphs {} o (o.target.getD "")) t (fun _ u => Applied cfg o s u)
      (fun _ u => Applied cfg o s u) := by
  have hledger : new = (o.onLedger cfg s.ledger).toOption.getD s.ledger := by
    rw [hnew]
    rfl
  have hpending : t.pending = s.pending.map fun p => { p with
      outcomes := p.outcomes ++ [o.toTable], diagnostics := p.diagnostics ++ [] } := by
    simp [ht]
  have hother (hkind : o.kind ≠ .unlockQuest) : t.instances = s.instances.map (·.upon o) := by
    simp [ht, Instance.upon_of_kind _ hkind]
  have hgoing (hkind : o.kind ≠ .triggerEnding) : s.ending = o.ending?.or s.ending := by
    simp [Outcome.ending?, hkind]
  unfold Step.actOnGraphs
  split
  next hkind =>
    obtain ⟨graph, htarget⟩ : ∃ graph, o.target = some graph := by
      cases htarget : o.target with
      | none => simp [Outcome.onLedger, hkind, htarget] at hnew
      | some graph => exact ⟨graph, rfl⟩
    have hunlocks : s.instances.map (·.upon o) =
        (s.updateInstance graph fun i => { i with unlocked := true }).instances := by
      apply List.map_congr_left
      intro i _
      simp [Instance.upon, hkind, htarget, eq_comm]
    simp only [htarget, Option.getD_some, Step.unlockGraph, ends_bind, ends_get]
    subst ht
    split
    next hnone =>
      refine aside (t := { s with
          pending := s.pending.map fun p => { p with outcomes := p.outcomes ++ [o.toTable] }
          ledger := new }) ⟨hledger, rfl, rfl, ?_, hgoing (by simp [hkind]), .of_outages rfl, [],
            by simp, hpending⟩
        ⟨s.host, [s!"cannot unlock unknown graph {graph}"], .of_outages rfl, ?_, rfl⟩
      · rw [hunlocks]
        exact (Session.updateInstance_of_none hnone _).symm
      · simpa using isInternal_of_head (by simp [toString])
    next =>
      exact ⟨hledger, rfl, rfl, hunlocks.symm, hgoing (by simp [hkind]), .of_outages rfl, [],
        by simp, hpending⟩
  next hkind =>
    subst ht
    refine ⟨hledger, rfl, rfl, hother (by simp [hkind]), ?_, .of_outages rfl, [], by simp, hpending⟩
    cases htarget : o.target with
    | none => simp [Outcome.onLedger, hkind, htarget] at hnew
    | some ending => simp [Outcome.ending?, hkind, htarget]
  next hkind hending =>
    subst ht
    exact ⟨hledger, rfl, rfl, hother hkind, hgoing hending, .of_outages rfl, [], by simp, hpending⟩

end Applied

namespace Act

variable {cfg : Settings} {s : Session}

theorem run_opens (h : s.pending = none) (kind : EntryKind)
    (graph node choice source : Option String) :
    (opens kind graph node choice source).run cfg s =
      { s with pending := some { kind, graph, node, choice, source } } := by
  obtain ⟨ledger, log, pending, clock, host, instances, ending⟩ := s
  subst h
  rfl

theorem run_moves (g : String) (state : Lifecycle) :
    (moves g state).run cfg s = s.moved g state := by
  by_cases hstate : state = .inProgress
  · subst hstate
    let put (i : Instance) : Instance :=
      { i with
        lifecycle := .inProgress
        activeNode := if Lifecycle.inProgress = .inProgress then i.activeNode else none }
    have htwo := s.updateInstance_updateInstance (f := put) (fun _ => rfl) g
      fun i : Instance => { i with activeNode := some i.graph.start }
    exact congrArg (fun t : Session => t.recorded g .inProgress) htwo
  · unfold run step
    simp only [if_neg hstate, Step.transition]
    unfold Session.moved
    simp only [if_neg hstate]
    rfl

theorem run_asks (cfg : Settings) (s : Session) (service : Service) :
    ∃ outages, (asks service).run cfg s =
    { s with host := { s.host with outages } } := by
  unfold run step after Step.onHost Host.call
  simp only [run_get]
  cases Assoc.get? s.host.outages service with
  | none => exact ⟨s.host.outages, rfl⟩
  | some outage =>
    cases hf : outage.fails outage.calls with
    | false => exact ⟨_, by simp [hf]; rfl⟩
    | true => exact ⟨_, by simp [hf]; rfl⟩

theorem applied (cfg : Settings) (c : Cause) (o : Outcome) (s : Session) :
    Applied cfg o s ((applies c o).run cfg s) := by
  apply Ends.after (P := Applied cfg o s)
  simp only [step, Step.noteOutcome, Step.perform, if_true, ends_bind, ends_modify, ends_get]
  cases hnew : o.onLedger cfg s.ledger with
  | error why =>
    have hkept (i : Instance) : i.upon o = i := by
      rw [Instance.upon, if_neg]
      rintro ⟨hkind, htarget⟩
      simp [Outcome.onLedger, hkind, htarget] at hnew
    have hgoing : o.ending? = none := by
      unfold Outcome.ending?
      split
      next hkind => cases htarget : o.target <;> simp_all [Outcome.onLedger]
      next => rfl
    exact ⟨by simp [hnew, Except.toOption], rfl, rfl, by simp [hkept], by simp [hgoing],
      .of_outages rfl, [], by simp, by simp⟩
  | ok new =>
    rw [Step.ends_ofExcept_ok]
    refine Ends.mono (Applied.listened hnew rfl) (fun _ t ht => ?_) fun _ _ ht => ht
    exact (Step.actOnHost_aside o _ _ _ t).mono (fun _ _ hu => ht.aside hu) fun _ _ hu =>
      ht.aside hu

theorem run_closes (cfg : Settings) {p : Pending} (h : s.pending = some p) :
    closes.run cfg s = s.closed p := by
  unfold run step after
  simp only [bind, EStateM.bind, Step.commit_eq h]
  rfl

theorem run_drops (cfg : Settings) {p : Pending} (h : s.pending = some p)
    (hp : p.hasChanges = false) : drops.run cfg s = { s with pending := none } := by
  change after Step.discard s = _
  unfold after
  rw [Step.discard_eq h hp]

end Act

end Questline
