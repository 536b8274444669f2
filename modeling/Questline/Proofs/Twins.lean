import Questline.Proofs.Calls
import Questline.Proofs.Ledgers

/-! Sessions that are the same but for the order of their flags.  Nothing that is asked of them can
tell one from the other. -/

namespace Questline

/-- From related states two steps come to the same end, with the same answer or the same failure,
and to related states again. -/
def Respects {ε σ α : Type} (R : σ → σ → Prop) (x y : EStateM ε σ α) : Prop :=
  ∀ s t, R s t → match x s, y t with
    | .ok a s', .ok b t' => a = b ∧ R s' t'
    | .error why s', .error why' t' => why = why' ∧ R s' t'
    | _, _ => False

namespace Respects

variable {ε σ α β : Type} {R : σ → σ → Prop} {x y : EStateM ε σ α}

theorem pure (a : α) : Respects R (pure a : EStateM ε σ α) (pure a) := fun _ _ h => ⟨rfl, h⟩

theorem throw (why : ε) : Respects R (throw why : EStateM ε σ α) (throw why) :=
  fun _ _ h => ⟨rfl, h⟩

theorem cases (h : Respects R x y) {s t : σ} (hst : R s t) :
    (∃ a s' t', x s = .ok a s' ∧ y t = .ok a t' ∧ R s' t') ∨
      ∃ why s' t', x s = .error why s' ∧ y t = .error why t' ∧ R s' t' := by
  have hxy := h s t hst
  cases hx : x s <;> cases hy : y t <;> rw [hx, hy] at hxy
  · obtain ⟨rfl, hR⟩ := hxy
    exact .inl ⟨_, _, _, rfl, rfl, hR⟩
  · exact hxy.elim
  · exact hxy.elim
  · obtain ⟨rfl, hR⟩ := hxy
    exact .inr ⟨_, _, _, rfl, rfl, hR⟩

theorem bind {f g : α → EStateM ε σ β} (hx : Respects R x y)
    (hf : ∀ a, Respects R (f a) (g a)) : Respects R (x >>= f) (y >>= g) := by
  intro s t h
  simp only [Bind.bind, EStateM.bind]
  rcases hx.cases h with ⟨a, s', t', hx, hy, hR⟩ | ⟨why, s', t', hx, hy, hR⟩ <;> rw [hx, hy]
  · exact hf a s' t' hR
  · exact ⟨rfl, hR⟩

theorem throw_bind (why : ε) (f g : α → EStateM ε σ β) :
    Respects R (MonadExcept.throw why >>= f) (MonadExcept.throw why >>= g) := fun _ _ h => ⟨rfl, h⟩

theorem get_bind {f g : σ → EStateM ε σ β} (h : ∀ s t, R s t → Respects R (f s) (g t)) :
    Respects R (get >>= f) (get >>= g) := fun s t hR => h s t hR s t hR

theorem modify {f g : σ → σ} (h : ∀ s t, R s t → R (f s) (g t)) :
    Respects R (modify f : EStateM ε σ PUnit) (modify g) := fun s t hR => ⟨rfl, h s t hR⟩

theorem map (f : α → β) (hx : Respects R x y) : Respects R (f <$> x) (f <$> y) := by
  intro s t h
  simp only [Functor.map, EStateM.map]
  rcases hx.cases h with ⟨a, s', t', hx, hy, hR⟩ | ⟨why, s', t', hx, hy, hR⟩ <;> rw [hx, hy] <;>
    exact ⟨rfl, hR⟩

end Respects

/-- The same ledger, or a tidy one that is the same but for the order of its flags. -/
def Ledger.Twin (l m : Ledger) : Prop := l = m ∨ l.Matches m ∧ l.Tidy

namespace Ledger

variable {l m : Ledger}

theorem Matches.same_congr (h : l.Matches m) (k : Ledger) : k.same l = k.same m := by
  have hcontains : l.flags.contains = m.flags.contains := by
    funext a
    rw [Bool.eq_iff_iff, List.contains_iff_exists_mem_beq, List.contains_iff_exists_mem_beq]
    simp only [h.flags.mem_iff]
  rw [Ledger.same, Ledger.same, h.flags.length_eq, hcontains, h.reputation, h.questState,
    h.relationship]

namespace Twin

theorem alike (h : l.Twin m) : l.Matches m := h.elim (fun h => h ▸ .refl l) And.left

theorem sortedFlags (h : l.Twin m) : l.sortedFlags = m.sortedFlags := by
  rcases h with rfl | ⟨hm, ht⟩
  · rfl
  · exact Atom.sort_perm ht.texts hm.flags

theorem toValue (h : l.Twin m) : l.toValue = m.toValue := by
  rw [Ledger.toValue, Ledger.toValue, h.sortedFlags, h.alike.reputation, h.alike.questState,
    h.alike.relationship]

theorem describe (h : l.Twin m) : l.describe = m.describe := by
  rw [Ledger.describe, Ledger.describe, h.sortedFlags, h.alike.reputation, h.alike.questState,
    h.alike.relationship]

theorem relationshipWith (h : l.Twin m) (companion : String) :
    l.relationshipWith companion = m.relationshipWith companion := by
  rw [Ledger.relationshipWith, Ledger.relationshipWith, h.alike.relationship]

theorem fact (h : l.Twin m) (r : Requirement) (host : Host) : r.fact l host = r.fact m host := by
  unfold Requirement.fact
  rw [h.alike.hasFlag, h.relationshipWith, reputationOf, reputationOf, stateOf, stateOf,
    h.alike.reputation, h.alike.questState]

theorem setState (h : l.Twin m) (g : String) (state : Lifecycle) :
    (l.setState g state).Twin (m.setState g state) := by
  rcases h with rfl | ⟨hm, ht⟩
  · exact .inl rfl
  · exact .inr ⟨hm.setState g state, ht.setState g state⟩

theorem onLedger (h : l.Twin m) (cfg : Settings) (o : Outcome) :
    (∃ l' m', o.onLedger cfg l = .ok l' ∧ o.onLedger cfg m = .ok m' ∧ l'.Twin m') ∨
    ∃ why, o.onLedger cfg l = .error why ∧ o.onLedger cfg m = .error why := by
  rcases h with rfl | ⟨hm, ht⟩
  · cases ho : o.onLedger cfg l with
    | ok l' => exact .inl ⟨l', l', rfl, rfl, .inl rfl⟩
    | error why => exact .inr ⟨why, rfl, rfl⟩
  · rcases hm.onLedger cfg o with ⟨l', m', hl', hm', hmatches⟩ | ⟨hl', hm'⟩
    · exact .inl ⟨l', m', hl', hm', .inr ⟨hmatches, ht.onLedger hl'⟩⟩
    · exact .inr ⟨_, hl', hm'⟩

end Twin

end Ledger

namespace Clock

/-- What a clock shows after having been read some times. -/
def reading (c : Clock) : Nat → Float
  | 0 => c.read.1
  | n + 1 => c.read.2.reading n

/-- Two clocks that show the same from now on. -/
def Alike (c d : Clock) : Prop := ∀ n, c.reading n = d.reading n

end Clock

/-- The same session, but for the order of the flags and for what the clock is made of. -/
def Session.Twin (s t : Session) : Prop :=
  ∃ ledger clock, s.ledger.Twin ledger ∧ s.clock.Alike clock ∧ t = { s with ledger, clock }

theorem Session.instance?_twin (s : Session) (ledger : Ledger) (clock : Clock) (g : String) :
    instance? { s with ledger, clock } g = s.instance? g := rfl

theorem Session.currentGraph_twin (s : Session) (ledger : Ledger) (clock : Clock) :
    currentGraph { s with ledger, clock } = s.currentGraph := rfl

/-- Two steps that do the same to twin sessions. -/
abbrev Twinned {α : Type} (x y : Step α) : Prop := Respects Session.Twin x y

namespace Requirement

variable {l m : Ledger}

theorem evaluate_twin (h : l.Twin m) (r : Requirement) : r.evaluate l = r.evaluate m := by
  unfold evaluate
  simp only [h.fact]

theorem allMet_twin (h : l.Twin m) (requirements : List Requirement) :
    allMet l requirements = allMet m requirements := by
  induction requirements with
  | nil => rfl
  | cons r rest ih => rw [allMet, allMet, evaluate_twin h, ih]

theorem unmet_twin (h : l.Twin m) (requirements : List Requirement) :
    unmet l requirements = unmet m requirements := by
  induction requirements with
  | nil => rfl
  | cons r rest ih => rw [unmet, unmet, evaluate_twin h, ih]

end Requirement

namespace Step

theorem get_twin {α : Type} {f g : Session → Step α}
    (h : ∀ s ledger clock, s.ledger.Twin ledger → Twinned (f s) (g { s with ledger, clock })) :
    Twinned (get >>= f) (get >>= g) :=
  .get_bind fun s _ ⟨l, c, hl, _, ht⟩ => ht ▸ h s l c hl

theorem onHost_twin {α : Type} (x : HostStep α) : Twinned (onHost x) (onHost x) := by
  rintro s t ⟨l, c, hl, hc, rfl⟩
  unfold onHost
  cases x s.host with
  | ok a host => exact ⟨rfl, l, c, hl, hc, rfl⟩
  | error why host => exact ⟨rfl, l, c, hl, hc, rfl⟩

/-- A change that neither asks for the ledger and the clock nor touches them. -/
theorem modify_twin {f : Session → Session}
    (h : ∀ s ledger clock, f { s with ledger, clock } = { f s with ledger, clock }) :
    Twinned (modify f) (modify f) := by
  refine .modify fun s t ⟨l, c, hl, hc, ht⟩ => ?_
  have hsame : f s = { f s with ledger := s.ledger, clock := s.clock } := h s s.ledger s.clock
  have hledger : (f s).ledger = s.ledger := by rw [hsame]
  have hclock : (f s).clock = s.clock := by rw [hsame]
  exact ⟨l, c, hledger ▸ hl, hclock ▸ hc, ht ▸ h s l c⟩

theorem report_twin (message : String) : Twinned (report message) (report message) :=
  modify_twin fun _ _ _ => rfl

theorem update_twin (g : String) (f : Instance → Instance) :
    Twinned (modify fun s => s.updateInstance g f) (modify fun s => s.updateInstance g f) :=
  modify_twin fun _ _ _ => rfl

theorem transition_twin (g : String) (state : Lifecycle) :
    Twinned (transition g state) (transition g state) :=
  .bind (update_twin g _) fun _ => .modify fun _ _ ⟨l, c, hl, hc, ht⟩ =>
    ⟨l.setState g state, c, hl.setState g state, hc, ht ▸ rfl⟩

theorem unlockGraph_twin (g : String) : Twinned (unlockGraph g) (unlockGraph g) := by
  refine get_twin fun s l c hl => ?_
  simp only [Session.instance?_twin]
  split
  · exact report_twin _
  · exact update_twin g _

theorem promote_twin {l m : Ledger} (h : l.Twin m) (waiting : List Instance) :
    Twinned (promote l waiting) (promote m waiting) := by
  induction waiting with
  | nil => exact .pure ()
  | cons i rest ih =>
    rw [promote, promote, Requirement.allMet_twin h]
    split
    · refine .bind (onHost_twin _) fun met => ?_
      split
      · exact .bind (transition_twin _ _) fun _ => ih
      · exact ih
    · exact ih

theorem refreshAvailability_twin : Twinned refreshAvailability refreshAvailability := by
  refine get_twin fun s l c hl => ?_
  exact promote_twin hl s.instances

theorem openEntry_twin (kind : EntryKind) (graph node choice source : Option String) :
    Twinned (openEntry kind graph node choice source)
      (openEntry kind graph node choice source) := by
  refine get_twin fun s l c hl => ?_
  dsimp only
  split
  · exact .throw _
  · exact modify_twin fun _ _ _ => rfl

theorem commit_twin : Twinned commit commit := by
  rintro s t ⟨l, c, hl, hc, rfl⟩
  rcases Option.eq_none_or_eq_some s.pending with hp | ⟨p, hp⟩
  · rw [commit_none hp, commit_none (s := { s with ledger := l, clock := c }) hp]
    exact ⟨rfl, l, c, hl, hc, rfl⟩
  · have hread : s.clock.read.1 = c.read.1 := hc 0
    have hentry : s.entry p = Session.entry { s with ledger := l, clock := c } p := by
      unfold Session.entry Session.entryTime
      rw [hread]
    rw [commit_eq hp, commit_eq (s := { s with ledger := l, clock := c }) hp]
    refine ⟨hentry, l, c.read.2, hl, fun n => hc (n + 1), ?_⟩
    rw [Session.closed, Session.closed, ← hentry]

theorem settle_twin : Twinned settle settle := by
  refine get_twin fun s l c hl => ?_
  dsimp only
  split
  · exact .pure none
  · split
    · exact .map _ commit_twin
    · exact .bind (modify_twin fun _ _ _ => rfl) fun _ => .pure none

theorem discard_twin : Twinned discard discard := by
  refine get_twin fun s l c hl => ?_
  dsimp only
  split
  · exact .throw _
  · split
    · exact .bind (.throw _) fun _ => modify_twin fun _ _ _ => rfl
    · exact modify_twin fun _ _ _ => rfl

theorem attempt_twin {x y : Step Unit} (h : Twinned x y) : Twinned (attempt x) (attempt y) := by
  intro s t hst
  unfold attempt
  rcases h.cases hst with ⟨_, s', t', hx, hy, hR⟩ | ⟨why, s', t', hx, hy, hR⟩ <;> rw [hx, hy] <;>
    exact ⟨rfl, hR⟩

theorem settling_twin {α : Type} {x y : Step α} (h : Twinned x y) :
    Twinned (settling x) (settling y) := by
  intro s t hst
  unfold settling orElseDo
  rcases h.cases hst with ⟨a, s', t', hx, hy, hR⟩ | ⟨why, s', t', hx, hy, hR⟩ <;> rw [hx, hy]
  · exact ⟨rfl, hR⟩
  · dsimp only
    rcases settle_twin.cases hR with ⟨_, u, v, hu, hv, hR⟩ | ⟨later, u, v, hu, hv, hR⟩ <;>
      rw [hu, hv] <;> exact ⟨rfl, hR⟩

theorem actOnHost_twin {old new old' new' : Ledger} (hold : old.Twin old') (hnew : new.Twin new')
    (o : Outcome) (target : String) :
    Twinned (actOnHost o target old new) (actOnHost o target old' new') := by
  unfold actOnHost
  rw [hold.relationshipWith, hnew.relationshipWith]
  split
  case h_3 =>
    refine .bind (onHost_twin _) fun taken => ?_
    split
    · exact .pure ()
    · exact report_twin _
  all_goals first
    | exact onHost_twin _
    | exact .pure ()

theorem actOnGraphs_twin (w : Wiring) (o : Outcome) (target : String) :
    Twinned (actOnGraphs w o target) (actOnGraphs w o target) := by
  unfold actOnGraphs
  split
  · exact unlockGraph_twin _
  · split
    · exact .pure ()
    · exact modify_twin fun _ _ _ => rfl
  · exact .pure ()

theorem perform_twin (cfg : Settings) (w : Wiring) (o : Outcome) :
    Twinned (perform cfg w o) (perform cfg w o) := by
  refine get_twin fun s l c hl => ?_
  change Twinned (ofExcept (o.onLedger cfg s.ledger) >>= fun new => _)
    (ofExcept (o.onLedger cfg l) >>= fun new => _)
  -- the outcome changes both ledgers alike or fails on both, before anything else is done
  rcases hl.onLedger cfg o with ⟨new, new', hnew, hnew', hchanged⟩ | ⟨why, hwhy, hwhy'⟩
  · rw [hnew, hnew']
    change Twinned (modify (fun s => { s with ledger := new }) >>= fun _ => _)
      (modify (fun s => { s with ledger := new' }) >>= fun _ => _)
    refine .bind (.modify fun _ _ ⟨_, c, _, hc, ht⟩ => ⟨new', c, hchanged, hc, ht ▸ rfl⟩)
      fun _ => ?_
    dsimp only
    have hhost := actOnHost_twin hl hchanged o (o.target.getD "")
    cases w.hooked <;> cases w.replaying
    · exact hhost
    · exact .pure ()
    · exact .bind (actOnGraphs_twin _ _ _) fun _ => hhost
    · exact .bind (actOnGraphs_twin _ _ _) fun _ => .pure ()
  · rw [hwhy, hwhy']
    exact .throw why

theorem applyOutcome_twin (cfg : Settings) (w : Wiring) (o : Outcome) :
    Twinned (applyOutcome cfg w o) (applyOutcome cfg w o) := by
  refine .bind (modify_twin fun _ _ _ => rfl) fun _ => .bind (attempt_twin ?_) fun failed => ?_
  · refine .bind (perform_twin _ _ _) fun _ => ?_
    cases w.hooked
    · exact .pure ()
    · exact refreshAvailability_twin
  · cases failed with
    | none => exact .pure ()
    | some why => exact report_twin _

theorem applyEach_twin (cfg : Settings) (w : Wiring) (outcomes : List Outcome) :
    Twinned (applyEach cfg w outcomes) (applyEach cfg w outcomes) := by
  induction outcomes with
  | nil => exact .pure ()
  | cons o rest ih => exact .bind (applyOutcome_twin _ _ _) fun _ => ih

theorem applyOutcomes_twin (cfg : Settings) (w : Wiring) (outcomes : List Outcome) :
    Twinned (applyOutcomes cfg w outcomes) (applyOutcomes cfg w outcomes) := by
  refine get_twin fun s l c hl => ?_
  change Twinned (if s.inEntry then _ else _) (if s.inEntry then _ else _)
  split
  · exact applyEach_twin _ _ _
  · exact .throw _

end Step

end Questline
