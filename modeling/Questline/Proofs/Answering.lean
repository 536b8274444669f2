import Questline.Proofs.Authoring
import Questline.Proofs.Steps
import Questline.Session.Availability

/-! Which services answer.  The calls for which a service fails are laid down beforehand, and no
step of the host changes them; where all facts can be had, requirements can be judged. -/

namespace Questline

/-- A step that keeps a condition, and from there fails in some ways only. -/
def Guarded {σ α : Type} (I : σ → Prop) (F : Fault → Prop) (x : EStateM Fault σ α) : Prop :=
  ∀ s, I s → Ends x s (fun _ t => I t) fun why _ => F why

def Fault.IsDown (why : Fault) : Prop := ∃ service, why = .down service

namespace Host

/-- Whatever a requirement asks for, the host answers. -/
def Answering (h : Host) : Prop :=
  ∀ (r : Requirement) (service : Service) (outage : Outage), r.service? = some service →
    Assoc.get? h.outages service = some outage → ∀ call, outage.fails call = false

/-- A service answers every call. -/
def Serves (h : Host) (service : Service) : Prop :=
  ∀ outage, Assoc.get? h.outages service = some outage → ∀ call, outage.fails call = false

/-- The same calls of the same services fail, however many have been made. -/
def FailsAlike (h h' : Host) : Prop :=
  ∀ service, (Assoc.get? h'.outages service).map (·.fails) =
    (Assoc.get? h.outages service).map (·.fails)

variable {h h' h'' : Host}

theorem FailsAlike.of_outages (heq : h'.outages = h.outages) : h.FailsAlike h' :=
  fun _ => by rw [heq]

theorem FailsAlike.trans (hh : h.FailsAlike h') (hh' : h'.FailsAlike h'') : h.FailsAlike h'' :=
  fun service => (hh' service).trans (hh service)

theorem FailsAlike.serves (hh : h.FailsAlike h') {service : Service} (hserves : h.Serves service) :
    h'.Serves service := by
  intro outage houtage call
  have hsame := hh service
  rw [houtage, Option.map_some, eq_comm, Option.map_eq_some_iff] at hsame
  obtain ⟨before, hbefore, hfails⟩ := hsame
  rw [← hfails]
  exact hserves before hbefore call

theorem Answering.serves (hanswers : h.Answering) {r : Requirement} {service : Service}
    (hr : r.service? = some service) : h.Serves service :=
  fun outage => hanswers r service outage hr

theorem FailsAlike.answering (hh : h.FailsAlike h') (hanswers : h.Answering) : h'.Answering :=
  fun _ _ outage hr => hh.serves (hanswers.serves hr) outage

/-- Where no service is down none will be. -/
theorem FailsAlike.mended (hh : h.FailsAlike h') (hmended : h.outages = []) : h'.outages = [] := by
  cases houtages : h'.outages with
  | nil => rfl
  | cons p rest =>
    have hsame := hh p.1
    simp [houtages, hmended, Assoc.get?] at hsame

theorem ends_call {service : Service} (hserves : h.Serves service) : Ends (Host.call service) h
    (fun _ h' => ∃ outages, h' = { h with outages }) fun _ _ => False := by
  unfold Host.call
  rw [ends_bind, ends_get]
  cases houtage : Assoc.get? h.outages service with
  | none => exact ⟨h.outages, rfl⟩
  | some outage =>
    dsimp only
    rw [ends_bind, ends_set, hserves outage houtage]
    exact ⟨_, rfl⟩

theorem Answering.of_up (hup : h.outages = []) : h.Answering := by
  intro r service outage _ houtage
  rw [hup] at houtage
  cases houtage

/-- Facts can still be had when a service fails that is asked for none. -/
theorem Answering.breakService (hanswers : h.Answering) {service : Service}
    (hno : ∀ r : Requirement, r.service? ≠ some service) (count : Option Nat) :
    (h.breakService service count).Answering := by
  intro r asked outage hr houtage call
  unfold Host.breakService at houtage
  dsimp only at houtage
  rw [Assoc.get?_put _ (Assoc.exact _) (Assoc.exact _)] at houtage
  split at houtage
  next hasked => exact absurd (hasked ▸ hr) (hno r)
  next => exact hanswers r asked outage hr houtage call

end Host

/-- If a requirement cannot be judged, it is for one of some reasons. -/
def Requirement.ErrsWithin (F : Fault → Prop) (r : Requirement) : Prop :=
  ∀ f why, r.compare f = .error why → F why

theorem Requirement.Judgeable.errsWithin {r : Requirement} (h : r.Judgeable) (F : Fault → Prop) :
    r.ErrsWithin F := by
  intro f why hwhy
  obtain ⟨b, hb⟩ := h.compare f
  cases hb.symm.trans hwhy

theorem Requirement.service?_ne_giveItem (r : Requirement) : r.service? ≠ some .giveItem := by
  cases r with | mk kind => cases kind <;> nofun

/-- A step of the host that leaves it as it is laid down which calls fail. -/
def Steady {α : Type} (x : HostStep α) : Prop :=
  ∀ h, Ends x h (fun _ h' => h.FailsAlike h') fun _ h' => h.FailsAlike h'

namespace Steady

variable {α β : Type}

theorem bind {x : HostStep α} {f : α → HostStep β} (hx : Steady x) (hf : ∀ a, Steady (f a)) :
    Steady (x >>= f) := by
  intro h
  rw [ends_bind]
  exact (hx h).mono (fun a h' hh => (hf a h').mono (fun _ _ => hh.trans) fun _ _ => hh.trans)
    fun _ _ hh => hh

theorem modify {f : Host → Host} (hf : ∀ h, (f h).outages = h.outages) :
    Steady (modify f : HostStep Unit) := fun h => .of_outages (hf h)

theorem call (service : Service) : Steady (Host.call service) := by
  intro h
  unfold Host.call
  rw [ends_bind, ends_get]
  cases houtage : Assoc.get? h.outages service with
  | none => exact .of_outages rfl
  | some outage =>
    have hcounted : h.FailsAlike { h with
        outages := Assoc.put h.outages service { outage with calls := outage.calls + 1 } } := by
      intro service'
      dsimp only
      rw [Assoc.get?_put _ (Assoc.exact _) (Assoc.exact _)]
      split
      next he => simp [he, houtage]
      next => rfl
    rw [ends_bind, ends_set]
    split
    · exact hcounted
    · exact hcounted

theorem giveItem (item : String) (quantity : Int) : Steady (Host.giveItem item quantity) :=
  (call _).bind fun _ => .modify fun _ => rfl

theorem removeItem (item : String) (quantity : Int) : Steady (Host.removeItem item quantity) := by
  refine (call _).bind fun _ h => ?_
  rw [ends_bind, ends_get]
  split
  · exact .of_outages rfl
  · exact .of_outages rfl

theorem grantExperience (amount : Int) : Steady (Host.grantExperience amount) :=
  (call _).bind fun _ => .modify fun _ => rfl

theorem unlockLocation (location : String) : Steady (Host.unlockLocation location) :=
  (call _).bind fun _ => .modify fun _ => rfl

theorem adjustRelationship (companion : String) (change : Int) :
    Steady (Host.adjustRelationship companion change) :=
  (call _).bind fun _ => .modify fun _ => rfl

theorem unlockCompanion (companion : String) (relationship : Int) :
    Steady (Host.unlockCompanion companion relationship) :=
  (call _).bind fun _ => .modify fun _ => by split <;> rfl

theorem startEncounter (kind : Encounter) (encounter : String) :
    Steady (Host.startEncounter kind encounter) :=
  (call _).bind fun _ => .modify fun _ => rfl

theorem triggerEnding (ending : String) (failed : Bool) :
    Steady (Host.triggerEnding ending failed) :=
  (call _).bind fun _ => .modify fun _ => rfl

end Steady

namespace Guarded

variable {σ α β : Type} {I : σ → Prop} {F : Fault → Prop}

theorem pure (a : α) : Guarded I F (pure a) := fun _ hs => hs

theorem throw {why : Fault} (h : F why) :
    Guarded I F (throw why : EStateM Fault σ α) := fun _ _ => h

theorem get_bind {f : σ → EStateM Fault σ β} (h : ∀ s, Guarded I F (f s)) :
    Guarded I F (get >>= f) := fun s hs => h s s hs

theorem modify {f : σ → σ} (h : ∀ s, I s → I (f s)) : Guarded I F (modify f) := h

theorem mono {G : Fault → Prop} {x : EStateM Fault σ α} (hx : Guarded I F x)
    (hF : ∀ why, F why → G why) : Guarded I G x :=
  fun s hs => (hx s hs).mono (fun _ _ h => h) fun why _ => hF why

theorem bind {x : EStateM Fault σ α} {f : α → EStateM Fault σ β} (hx : Guarded I F x)
    (hf : ∀ a, Guarded I F (f a)) : Guarded I F (x >>= f) := by
  intro s hs
  rw [ends_bind]
  exact (hx s hs).mono (fun a t ht => hf a t ht) fun _ _ h => h

theorem onHost {I : Host → Prop} {x : HostStep α} (hx : Guarded I F x) :
    Guarded (fun s : Session => I s.host) F (Step.onHost x) := by
  intro s hs
  rw [Step.ends_onHost]
  exact hx s.host hs

theorem call_down (service : Service) :
    Guarded (fun _ => True) Fault.IsDown (Host.call service) := by
  intro h _
  unfold Host.call
  rw [ends_bind, ends_get]
  split
  · trivial
  · rw [ends_bind, ends_set]
    split
    · exact ⟨service, rfl⟩
    · trivial

theorem call_answering {r : Requirement} {service : Service} (hr : r.service? = some service) :
    Guarded Host.Answering (fun _ => False) (Host.call service) := by
  intro h hanswers
  have hserves := Host.ends_call (hanswers.serves hr)
  exact (hserves.and (Steady.call service h)).mono (fun _ _ hh => hh.2.answering hanswers)
    fun _ _ hh => hh.1

variable {I : Host → Prop} (hcall : ∀ (r : Requirement) (service : Service),
  r.service? = some service → Guarded I F (Host.call service))

include hcall

theorem evaluate {r : Requirement} (hr : r.ErrsWithin F) (l : Ledger) :
    Guarded I F (r.evaluate l) := by
  have hjudged : Guarded I F (r.judged l) := by
    intro host hhost
    rw [Requirement.judged, ends_bind, ends_get]
    cases hcompare : r.compare (r.fact l host) with
    | ok b => exact hhost
    | error why => exact hr _ why hcompare
  cases hservice : r.service? with
  | none =>
    rw [Requirement.evaluate_of_unasked hservice]
    exact hjudged
  | some service =>
    rw [Requirement.evaluate_of_asked hservice]
    exact (hcall r service hservice).bind fun _ => hjudged

theorem allMet {requirements : List Requirement} (h : ∀ r ∈ requirements, r.ErrsWithin F)
    (l : Ledger) : Guarded I F (Requirement.allMet l requirements) := by
  induction requirements with
  | nil => exact .pure true
  | cons r rest ih =>
    rw [List.forall_mem_cons] at h
    refine (evaluate hcall h.1 l).bind fun met => ?_
    cases met
    · exact .pure false
    · exact ih h.2

theorem unmet {requirements : List Requirement} (h : ∀ r ∈ requirements, r.ErrsWithin F)
    (l : Ledger) : Guarded I F (Requirement.unmet l requirements) := by
  induction requirements with
  | nil => exact .pure []
  | cons r rest ih =>
    rw [List.forall_mem_cons] at h
    exact (evaluate hcall h.1 l).bind fun _ => (ih h.2).bind fun _ => .pure _

theorem promote {waiting : List Instance}
    (h : ∀ i ∈ waiting, ∀ r ∈ i.graph.requirements, r.ErrsWithin F) (l : Ledger) :
    Guarded (fun s : Session => I s.host) F (Step.promote l waiting) := by
  induction waiting with
  | nil => exact .pure ()
  | cons i rest ih =>
    rw [List.forall_mem_cons] at h
    rw [Step.promote]
    split
    · refine (allMet hcall h.1 l).onHost.bind fun met => ?_
      cases met
      · exact ih h.2
      · exact Guarded.bind (fun _ hs => hs) fun _ => ih h.2
    · exact ih h.2

end Guarded

end Questline
