import Questline.Proofs.Coupling

/-! Companions are known in two places, to the ledger and to the host, each with rules of its own:
the ledger cuts every relationship to its bounds and gives a new companion the initial one, the host
adds what it is told and takes a companion in once.  Both come to the same relationships. -/

namespace Questline

namespace Ledger

variable {cfg : Settings} {l m : Ledger}

theorem relationshipWith_setRelationship (cfg : Settings) (l : Ledger) (c : String) (n : Int)
    (d : String) : (l.setRelationship cfg c n).relationshipWith d =
      if d = c then cfg.relationship.clip n else l.relationshipWith d := by
  unfold relationshipWith setRelationship Assoc.getD
  rw [Assoc.get?_put _ (Assoc.exact d) (Assoc.exact c)]
  split <;> rfl

theorem knowsCompanion_setRelationship (cfg : Settings) (l : Ledger) (c : String) (n : Int)
    (d : String) : (l.setRelationship cfg c n).knowsCompanion d = true ↔
      d = c ∨ l.knowsCompanion d = true := by
  unfold knowsCompanion setRelationship Assoc.has
  rw [Assoc.get?_put _ (Assoc.exact d) (Assoc.exact c)]
  split <;> simp_all

theorem relationshipWith_meetCompanion_of_ne (cfg : Settings) (l : Ledger) {c d : String}
    (h : d ≠ c) : (l.meetCompanion cfg c).relationshipWith d = l.relationshipWith d := by
  unfold meetCompanion
  split
  · rfl
  · rw [relationshipWith_setRelationship, if_neg h]

theorem knowsCompanion_meetCompanion (cfg : Settings) (l : Ledger) (c d : String) :
    (l.meetCompanion cfg c).knowsCompanion d = true ↔ d = c ∨ l.knowsCompanion d = true := by
  unfold meetCompanion
  split
  next hknown => exact ⟨.inr, fun h => h.elim (fun heq => heq ▸ hknown) id⟩
  next => exact knowsCompanion_setRelationship ..

/-- Only what is about a companion changes a relationship. -/
theorem relationship_onLedger {o : Outcome} (hunlock : o.kind ≠ .unlockCompanion)
    (hdelta : o.kind ≠ .relationshipDelta) (h : o.onLedger cfg l = .ok m) :
    m.relationship = l.relationship := by
  unfold Outcome.onLedger at h
  split at h
  next => cases h; rfl
  next => cases h
  next => cases h; exact (changeReputation_others cfg l _ _).2.2
  next =>
    cases h
    unfold setFlag
    split <;> rfl
  next => cases h; rfl
  next hkind _ => exact absurd hkind hunlock
  next hkind _ => exact absurd hkind hdelta
  next => cases h; rfl

end Ledger

namespace Host

/-- The services for companions answer every call. -/
structure Hospitable (h : Host) : Prop where
  relationship : h.Serves .getRelationship
  adjusting : h.Serves .adjustRelationship
  unlocking : h.Serves .unlockCompanion

variable {h h' : Host}

theorem FailsAlike.hospitable (hh : h.FailsAlike h') (hup : h.Hospitable) : h'.Hospitable :=
  ⟨hh.serves hup.relationship, hh.serves hup.adjusting, hh.serves hup.unlocking⟩

/-- What a host knows about companions. -/
def company (h : Host) : Assoc String Int × List String := (h.relationships, h.companions)

/-- The relationships are those of a ledger, which knows everybody who has joined. -/
structure Mirrors (h : Host) (l : Ledger) : Prop where
  scores : ∀ c, Assoc.getD h.relationships c 0 = l.relationshipWith c
  known : ∀ c ∈ h.companions, l.knowsCompanion c = true

namespace Mirrors

variable {l m : Ledger}

theorem congr (hmirrors : Mirrors h l) (hcompany : h'.company = h.company)
    (hledger : m.relationship = l.relationship) : Mirrors h' m := by
  obtain ⟨hscores, hcompanions⟩ := Prod.mk.inj hcompany
  refine ⟨fun c => ?_, fun c hc => ?_⟩
  · rw [hscores, hmirrors.scores, Ledger.relationshipWith, Ledger.relationshipWith, hledger]
  · rw [Ledger.knowsCompanion, hledger]
    exact hmirrors.known c (hcompanions ▸ hc)

variable (hmirrors : Mirrors h l) (hup : h.Hospitable)
include hmirrors hup

/-- Who joins is given the relationship that the ledger has come to, unless the host has taken them
in before; then the ledger knows them as well and changes nothing. -/
theorem unlockCompanion (cfg : Settings) (c : String) :
    Ends (Host.unlockCompanion c ((l.meetCompanion cfg c).relationshipWith c)) h
      (fun _ h' => Mirrors h' (l.meetCompanion cfg c)) fun _ _ => False := by
  unfold Host.unlockCompanion
  rw [ends_bind]
  refine (ends_call hup.unlocking).mono ?_ fun _ _ hno => hno
  rintro _ _ ⟨outages, rfl⟩
  rw [ends_modify]
  split
  next hjoined =>
    have hknown : l.knowsCompanion c = true := hmirrors.known c (List.contains_iff_mem.1 hjoined)
    rw [Ledger.meetCompanion, if_pos hknown]
    exact hmirrors.congr rfl rfl
  next =>
    refine ⟨fun d => ?_, fun d hd => (Ledger.knowsCompanion_meetCompanion ..).2 ?_⟩
    · rw [Assoc.getD, Assoc.get?_put _ (Assoc.exact d) (Assoc.exact c)]
      split
      next heq => rw [heq, Option.getD_some]
      next hne =>
        rw [Ledger.relationshipWith_meetCompanion_of_ne cfg l hne]
        exact hmirrors.scores d
    · rcases List.mem_append.1 hd with hd | hd
      · exact .inr (hmirrors.known d hd)
      · exact .inl (List.mem_singleton.1 hd)

/-- The host is told by how much the relationship has changed once it has been cut. -/
theorem adjustRelationship (cfg : Settings) (c : String) (amount : Int) :
    Ends (Host.adjustRelationship c ((l.changeRelationship cfg c amount).relationshipWith c -
        l.relationshipWith c)) h
      (fun _ h' => Mirrors h' (l.changeRelationship cfg c amount)) fun _ _ => False := by
  unfold Host.adjustRelationship
  rw [ends_bind]
  refine (ends_call hup.adjusting).mono ?_ fun _ _ hno => hno
  rintro _ _ ⟨outages, rfl⟩
  rw [ends_modify]
  refine ⟨fun d => ?_, fun d hd => ?_⟩
  · rw [Assoc.getD, Assoc.get?_put _ (Assoc.exact d) (Assoc.exact c)]
    split
    next heq =>
      rw [Option.getD_some, hmirrors.scores c, heq]
      omega
    next hne =>
      rw [Ledger.changeRelationship, Ledger.relationshipWith_setRelationship, if_neg hne]
      exact hmirrors.scores d
  · exact (Ledger.knowsCompanion_setRelationship ..).2 (.inr (hmirrors.known d hd))

/-- What the host has is what the ledger has. -/
theorem getRelationship (c : String) :
    ∃ h', Host.getRelationship c h = .ok (l.relationshipWith c) h' := by
  have hends : Ends (Host.getRelationship c) h (fun n _ => n = l.relationshipWith c)
      fun _ _ => False := by
    unfold Host.getRelationship
    rw [ends_bind]
    refine (ends_call hup.relationship).mono ?_ fun _ _ hno => hno
    rintro _ _ ⟨outages, rfl⟩
    exact hmirrors.scores c
  obtain ⟨_, h', hget, rfl⟩ := hends.exists_ok
  exact ⟨h', hget⟩

end Mirrors

end Host

/-- A step of the host that has nothing to do with companions. -/
def Aloof {α : Type} (x : HostStep α) : Prop :=
  ∀ h, Ends x h (fun _ h' => h'.company = h.company) fun _ h' => h'.company = h.company

namespace Aloof

variable {α β : Type}

theorem bind {x : HostStep α} {f : α → HostStep β} (hx : Aloof x) (hf : ∀ a, Aloof (f a)) :
    Aloof (x >>= f) := by
  intro h
  rw [ends_bind]
  exact (hx h).mono (fun a h' hh => (hf a h').mono (fun _ _ hh' => hh'.trans hh) fun _ _ hh' =>
    hh'.trans hh) fun _ _ hh => hh

theorem modify {f : Host → Host} (hf : ∀ h, (f h).company = h.company) :
    Aloof (modify f : HostStep Unit) := hf

theorem call (service : Service) : Aloof (Host.call service) := by
  intro h
  unfold Host.call
  rw [ends_bind, ends_get]
  split
  · rfl
  · rw [ends_bind, ends_set]
    split <;> rfl

theorem giveItem (item : String) (quantity : Int) : Aloof (Host.giveItem item quantity) :=
  (call _).bind fun _ => .modify fun _ => rfl

theorem removeItem (item : String) (quantity : Int) : Aloof (Host.removeItem item quantity) := by
  refine (call _).bind fun _ h => ?_
  rw [ends_bind, ends_get]
  split <;> rfl

theorem grantExperience (amount : Int) : Aloof (Host.grantExperience amount) :=
  (call _).bind fun _ => .modify fun _ => rfl

theorem unlockLocation (location : String) : Aloof (Host.unlockLocation location) :=
  (call _).bind fun _ => .modify fun _ => rfl

theorem startEncounter (kind : Encounter) (encounter : String) :
    Aloof (Host.startEncounter kind encounter) :=
  (call _).bind fun _ => .modify fun _ => rfl

theorem triggerEnding (ending : String) (failed : Bool) :
    Aloof (Host.triggerEnding ending failed) :=
  (call _).bind fun _ => .modify fun _ => rfl

end Aloof

/-- The host has the relationships of the ledger. -/
def Session.Mirrored (s : Session) : Prop := s.host.Mirrors s.ledger

namespace Step

variable {cfg : Settings} {s : Session}

theorem mirrored_onHost {α : Type} {x : HostStep α} {l : Ledger} (hx : Aloof x)
    (hs : s.host.Mirrors l) (hledger : s.ledger.relationship = l.relationship) :
    Ends (onHost x) s (fun _ t => t.Mirrored) fun _ t => t.Mirrored := by
  rw [ends_onHost]
  exact (hx s.host).mono (fun _ _ hcompany => hs.congr hcompany hledger) fun _ _ hcompany =>
    hs.congr hcompany hledger

/-- What an outcome has done to the ledger, it does to the host. -/
theorem mirrored_actOnHost {o : Outcome} {old new : Ledger} (hnew : o.onLedger cfg old = .ok new)
    (hledger : s.ledger = new) (hs : s.host.Mirrors old) (hup : s.host.Hospitable) :
    Ends (actOnHost o (o.target.getD "") old new) s (fun _ t => t.Mirrored)
      fun _ t => t.Mirrored := by
  have kept (hunlock : o.kind ≠ .unlockCompanion) (hdelta : o.kind ≠ .relationshipDelta) :
      s.ledger.relationship = old.relationship :=
    hledger ▸ Ledger.relationship_onLedger hunlock hdelta hnew
  have aloof {α : Type} {x : HostStep α} (hx : Aloof x) (hunlock : o.kind ≠ .unlockCompanion)
      (hdelta : o.kind ≠ .relationshipDelta) :
      Ends (onHost x) s (fun _ t => t.Mirrored) fun _ t => t.Mirrored :=
    mirrored_onHost hx hs (kept hunlock hdelta)
  have about {α : Type} {x : HostStep α}
      (hx : Ends x s.host (fun _ host => host.Mirrors new) fun _ _ => False) :
      Ends (onHost x) s (fun _ t => t.Mirrored) fun _ t => t.Mirrored := by
    rw [ends_onHost]
    refine hx.mono (fun _ host hhost => ?_) fun _ _ hno => hno.elim
    rwa [Session.Mirrored, hledger]
  unfold actOnHost
  split
  next hkind => exact aloof (.grantExperience _) (by simp [hkind]) (by simp [hkind])
  next hkind => exact aloof (.giveItem _ _) (by simp [hkind]) (by simp [hkind])
  next hkind =>
    rw [ends_bind]
    refine (aloof (.removeItem _ _) (by simp [hkind]) (by simp [hkind])).mono
      (fun taken t ht => ?_) fun _ _ ht => ht
    cases taken with
    | true => exact ht
    | false => exact ht
  next hkind => exact aloof (.unlockLocation _) (by simp [hkind]) (by simp [hkind])
  next hkind =>
    cases htarget : o.target with
    | none => simp [Outcome.onLedger, hkind, htarget] at hnew
    | some c =>
      obtain rfl : old.meetCompanion cfg c = new := by
        simpa [Outcome.onLedger, hkind, htarget] using hnew
      exact about (hs.unlockCompanion hup cfg c)
  next hkind =>
    cases htarget : o.target with
    | none => simp [Outcome.onLedger, hkind, htarget] at hnew
    | some c =>
      obtain rfl : old.changeRelationship cfg c o.amount = new := by
        simpa [Outcome.onLedger, hkind, htarget] using hnew
      exact about (hs.adjustRelationship hup cfg c o.amount)
  next hkind => exact aloof (.startEncounter _ _) (by simp [hkind]) (by simp [hkind])
  next hkind => exact aloof (.startEncounter _ _) (by simp [hkind]) (by simp [hkind])
  next hkind => exact aloof (.triggerEnding _ _) (by simp [hkind]) (by simp [hkind])
  all_goals
    next hkind =>
      have hsame : s.Mirrored := hs.congr rfl (kept (by simp [hkind]) (by simp [hkind]))
      exact hsame

/-- Graphs that hear of an outcome have nothing to do with companions. -/
theorem mirrored_actOnGraphs (o : Outcome) (target : String) (s : Session) :
    Ends (actOnGraphs {} o target) s (fun _ t => t.ledger = s.ledger ∧ t.host = s.host)
      fun _ _ => False := by
  unfold actOnGraphs
  split
  · unfold unlockGraph
    rw [ends_bind, ends_get]
    split <;> exact ⟨rfl, rfl⟩
  · exact ⟨rfl, rfl⟩
  · exact ⟨rfl, rfl⟩

end Step

namespace Session.Mirrored

variable {cfg : Settings} {reported : Outcome → Prop} {s t : Session}

theorem applies (hs : s.Mirrored) (hup : s.host.Hospitable) (c : Cause) (o : Outcome) :
    ((Act.applies c o).run cfg s).Mirrored := by
  apply Ends.after (P := Session.Mirrored)
  simp only [Act.step, Step.noteOutcome, Step.perform, if_true, ends_bind, ends_modify, ends_get]
  cases hnew : o.onLedger cfg s.ledger with
  | error why => exact hs
  | ok new =>
    rw [Step.ends_ofExcept_ok]
    refine (Step.mirrored_actOnGraphs o _ _).mono (fun _ t hsame => ?_) fun _ _ hno => hno.elim
    obtain ⟨hledger, hhost⟩ := hsame
    exact Step.mirrored_actOnHost hnew hledger (hhost ▸ hs) (hhost ▸ hup)

theorem run (hs : s.Mirrored) (hup : s.host.Hospitable) {a : Act} (ha : a.Lawful reported s)
    (hturn : ∀ host, a ≠ .turns host) : (a.run cfg s).Mirrored := by
  have hmakes := Act.makes cfg ha
  cases a with
  | applies c o => exact hs.applies hup c o
  | turns host => exact absurd rfl (hturn host)
  | _ =>
    generalize Act.run cfg _ s = t at hmakes ⊢
    cases hmakes
    exact Host.Mirrors.congr hs rfl rfl

/-- Along a course the host keeps the relationships of the ledger, if nobody else changes them. -/
theorem course {acts : List Act} (hs : s.Mirrored) (hup : s.host.Hospitable)
    (h : Course cfg reported s acts t) (hturn : ∀ a ∈ acts, ∀ host, a ≠ .turns host) :
    t.Mirrored ∧ t.host.Hospitable := by
  refine h.keepsAmong (I := fun u => u.Mirrored ∧ u.host.Hospitable) hturn ?_ ⟨hs, hup⟩
  intro a u ⟨hu, huup⟩ hturn ha
  exact ⟨hu.run huup ha hturn, (Act.host_run cfg ha hturn).hospitable huup⟩

end Session.Mirrored

namespace Engine

variable {cfg : Settings} {graphs : List Graph} {e : Engine} {calls : List Call}

/-- Whenever the rest of the game goes on between two calls, it leaves the companions as they are,
and their services answer. -/
def LeavesCompany (cfg : Settings) (e : Engine) (calls : List Call) : Prop :=
  ∀ before host later, calls = before ++ .turn host :: later →
    host.company = (e.afterAll cfg before).session.host.company ∧ host.Hospitable

theorem LeavesCompany.of_unturned (h : ∀ host, .turn host ∉ calls) : e.LeavesCompany cfg calls := by
  rintro before host later rfl
  exact absurd (by simp) (h host)

theorem LeavesCompany.tail {c : Call} (h : e.LeavesCompany cfg (c :: calls)) :
    (c.after cfg e).LeavesCompany cfg calls :=
  fun before host later hsplit => h (c :: before) host later (by rw [hsplit]; rfl)

theorem Consistent.mirrored_after (h : e.Consistent graphs) (hs : e.session.Mirrored)
    (hup : e.session.host.Hospitable) {c : Call} (hc : c.isPlay = true)
    (hturn : ∀ host, c = .turn host → host.company = e.session.host.company ∧ host.Hospitable) :
    (c.after cfg e).session.Mirrored ∧ (c.after cfg e).session.host.Hospitable := by
  by_cases hturns : ∃ host, c = .turn host
  · obtain ⟨host, rfl⟩ := hturns
    obtain ⟨hcompany, hhost⟩ := hturn host rfl
    exact ⟨Host.Mirrors.congr hs hcompany rfl, hhost⟩
  · obtain ⟨acts, hruns⟩ := h.runs cfg hc fun host hcall => absurd ⟨host, hcall⟩ hturns
    refine hs.course hup hruns.course ?_
    rintro a ha host rfl
    exact hturns ⟨host, hruns.turned host ha⟩

theorem Consistent.mirrored_afterAll (h : e.Consistent graphs) (hs : e.session.Mirrored)
    (hup : e.session.host.Hospitable) (hcalls : ∀ c ∈ calls, c.isPlay = true)
    (halone : e.LeavesCompany cfg calls) :
    (e.afterAll cfg calls).session.Mirrored ∧ (e.afterAll cfg calls).session.host.Hospitable := by
  induction calls generalizing e with
  | nil => exact ⟨hs, hup⟩
  | cons c rest ih =>
    rw [List.forall_mem_cons] at hcalls
    obtain ⟨hnext, hnextup⟩ := h.mirrored_after hs hup hcalls.1 fun host hcall =>
      halone [] host rest (by rw [hcall]; rfl)
    exact ih (h.after c) hnext hnextup hcalls.2 halone.tail

end Engine

end Questline
