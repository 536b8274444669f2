import Questline.Proofs.Calls

/-! What is asked of the host.  A pass over the availability of graphs asks for facts and calls no
service that acts on the rest of the game. -/

namespace Questline

/-- A step leaves a state that is related to the one before, whether it succeeds or fails. -/
def Keeps {ε σ α : Type} (R : σ → σ → Prop) (x : EStateM ε σ α) : Prop :=
  ∀ s, Ends x s (fun _ t => R s t) fun _ t => R s t

namespace Keeps

variable {ε σ α β : Type} {R : σ → σ → Prop} {x : EStateM ε σ α} {f : α → EStateM ε σ β}

theorem pure (hrefl : ∀ s, R s s) (a : α) : Keeps R (pure a : EStateM ε σ α) := hrefl

theorem throw (hrefl : ∀ s, R s s) (why : ε) : Keeps R (throw why : EStateM ε σ α) := hrefl

theorem get_bind {f : σ → EStateM ε σ β} (h : ∀ s, Keeps R (f s)) : Keeps R (get >>= f) :=
  fun s => h s s

theorem modify {f : σ → σ} (h : ∀ s, R s (f s)) : Keeps R (modify f : EStateM ε σ PUnit) := h

theorem bind (htrans : ∀ {s t u}, R s t → R t u → R s u) (hx : Keeps R x)
    (hf : ∀ a, Keeps R (f a)) : Keeps R (x >>= f) := by
  intro s
  rw [ends_bind]
  exact (hx s).mono (fun a t ht => (hf a t).mono (fun _ _ hu => htrans ht hu)
    fun _ _ hu => htrans ht hu) fun _ _ h => h

theorem after (h : Keeps R x) (s : σ) : R s (after x s) := (h s).after

end Keeps

/-- A service is asked for the fact that some requirement is about. -/
def Service.TellsFacts (service : Service) : Prop :=
  ∃ r : Requirement, r.service? = some service

/-- None of the services that act on the rest of the game tells facts. -/
theorem Service.tellsFacts_iff (service : Service) : service.TellsFacts ↔
    service ∈ [hasItem, getSkillLevel, isLocationVisited, currentLocation] := by
  constructor
  · rintro ⟨⟨kind, _, _, _⟩, hasked⟩
    cases kind <;> cases hasked <;> simp
  · intro h
    simp only [List.mem_cons, List.not_mem_nil, or_false] at h
    rcases h with rfl | rfl | rfl | rfl
    · exact ⟨⟨.item, "", .holds, none⟩, rfl⟩
    · exact ⟨⟨.skillLevel, "", .holds, none⟩, rfl⟩
    · exact ⟨⟨.locationVisited, "", .holds, none⟩, rfl⟩
    · exact ⟨⟨.atLocation, "", .holds, none⟩, rfl⟩

namespace Host

/-- A host has been asked for facts, and no other service of it has been called. -/
def Queried (h h' : Host) : Prop :=
  ∃ outages, h' = { h with outages } ∧ ∀ service : Service, ¬ service.TellsFacts →
    Assoc.get? outages service = Assoc.get? h.outages service

theorem Queried.refl (h : Host) : h.Queried h := ⟨h.outages, rfl, fun _ _ => rfl⟩

theorem Queried.trans {h h' h'' : Host} (hh : h.Queried h') (hh' : h'.Queried h'') :
    h.Queried h'' := by
  obtain ⟨outages, rfl, hsame⟩ := hh
  obtain ⟨outages', rfl, hsame'⟩ := hh'
  exact ⟨outages', rfl, fun service hno => (hsame' service hno).trans (hsame service hno)⟩

theorem call_queried {service : Service} (h : service.TellsFacts) :
    Keeps Queried (call service) := by
  intro host
  unfold call
  rw [ends_bind, ends_get]
  cases houtage : Assoc.get? host.outages service with
  | none => exact .refl host
  | some outage =>
    have hcounted : host.Queried { host with
        outages := Assoc.put host.outages service { outage with calls := outage.calls + 1 } } := by
      refine ⟨_, rfl, fun service' hno => ?_⟩
      rw [Assoc.get?_put _ (Assoc.exact _) (Assoc.exact _), if_neg]
      rintro rfl
      exact hno h
    rw [ends_bind, ends_set]
    split
    · exact hcounted
    · exact hcounted

end Host

namespace Requirement

theorem evaluate_queried (r : Requirement) (l : Ledger) : Keeps Host.Queried (r.evaluate l) := by
  have hjudged : Keeps Host.Queried (r.judged l) := by
    refine .get_bind fun host => ?_
    split
    · exact .pure .refl _
    · exact .throw .refl _
  cases hservice : r.service? with
  | none => exact evaluate_of_unasked hservice l ▸ hjudged
  | some service =>
    rw [evaluate_of_asked hservice]
    exact .bind .trans (Host.call_queried ⟨r, hservice⟩) fun _ => hjudged

theorem allMet_queried (l : Ledger) (requirements : List Requirement) :
    Keeps Host.Queried (allMet l requirements) := by
  induction requirements with
  | nil => exact .pure .refl true
  | cons r rest ih =>
    refine .bind .trans (r.evaluate_queried l) fun met => ?_
    cases met
    · exact .pure .refl false
    · exact ih

end Requirement

/-- In the course of a session its host has been asked for facts only. -/
def Session.Queried (s t : Session) : Prop := s.host.Queried t.host

namespace Session.Queried

theorem refl (s : Session) : s.Queried s := Host.Queried.refl _

theorem trans {s t u : Session} (h : s.Queried t) (h' : t.Queried u) : s.Queried u :=
  Host.Queried.trans h h'

end Session.Queried

namespace Step

theorem onHost_queried {α : Type} {x : HostStep α} (h : Keeps Host.Queried x) :
    Keeps Session.Queried (onHost x) := by
  intro s
  rw [ends_onHost]
  exact h s.host

theorem promote_queried (l : Ledger) (waiting : List Instance) :
    Keeps Session.Queried (promote l waiting) := by
  induction waiting with
  | nil => exact .pure .refl ()
  | cons i rest ih =>
    rw [promote]
    split
    · refine .bind .trans (onHost_queried (Requirement.allMet_queried l _)) fun met => ?_
      cases met
      · exact ih
      · exact .bind .trans (.bind .trans (.modify fun s => Host.Queried.refl s.host) fun _ =>
          .modify fun s => Host.Queried.refl s.host) fun _ => ih
    · exact ih

theorem refreshAvailability_queried : Keeps Session.Queried refreshAvailability :=
  .get_bind fun s => promote_queried s.ledger s.instances

theorem commit_queried : Keeps Session.Queried commit := by
  intro s
  unfold Ends
  cases hp : s.pending with
  | none =>
    rw [commit_none hp]
    exact .refl s
  | some p =>
    rw [commit_eq hp]
    exact .refl s

theorem settle_queried : Keeps Session.Queried settle := by
  refine .get_bind fun s => ?_
  split
  · exact .pure .refl none
  · split
    · intro t
      rw [ends_map]
      exact commit_queried t
    · exact .bind .trans (.modify fun s => Host.Queried.refl s.host) fun _ => .pure .refl none

theorem discard_queried : Keeps Session.Queried discard := by
  refine .get_bind fun s => ?_
  split
  · exact .throw .refl _
  · split
    · exact .bind .trans (.throw .refl _) fun _ => .modify fun s => Host.Queried.refl s.host
    · exact .modify fun s => Host.Queried.refl s.host

theorem settling_queried {α : Type} {x : Step α} (h : Keeps Session.Queried x) :
    Keeps Session.Queried (settling x) := by
  intro s
  unfold settling
  rw [ends_orElseDo]
  exact (h s).mono (fun _ _ h => h) fun _ t ht =>
    (settle_queried t).mono (fun _ _ hu => ht.trans hu) fun _ _ hu => ht.trans hu

theorem refreshed_queried : Keeps Session.Queried refreshed := by
  refine .bind .trans (.get_bind fun s => ?_) fun _ =>
    .bind .trans (settling_queried refreshAvailability_queried) fun _ => .get_bind fun s => ?_
  · split
    · exact .throw .refl _
    · exact .modify fun s => Host.Queried.refl s.host
  · split
    · exact .bind .trans commit_queried fun _ => .pure .refl ()
    · exact discard_queried

end Step

end Questline
