import Questline.Session

/-! Reasoning about steps that may fail.  What a step did before it failed stays done, so a step
is described by two conditions, one for its answer and one for its failure. -/

namespace Questline

variable {ε σ α β : Type}

/-- A step that succeeds ends with the first condition, one that fails with the second. -/
def Ends (x : EStateM ε σ α) (s : σ) (Q : α → σ → Prop) (E : ε → σ → Prop) : Prop :=
  match x s with
  | .ok a t => Q a t
  | .error why t => E why t

/-- The state that a step leaves, whether it succeeds or fails. -/
def after (x : EStateM ε σ α) (s : σ) : σ :=
  match x s with
  | .ok _ t => t
  | .error _ t => t

section Rules

variable {x : EStateM ε σ α} {f : α → EStateM ε σ β} {s : σ}
variable {Q Q' : α → σ → Prop} {E E' : ε → σ → Prop}

theorem Ends.mono (h : Ends x s Q E) (hQ : ∀ a t, Q a t → Q' a t)
    (hE : ∀ why t, E why t → E' why t) : Ends x s Q' E' := by
  unfold Ends at *
  split at h
  · exact hQ _ _ h
  · exact hE _ _ h

theorem Ends.of_ok (h : Ends x s Q E) {a : α} {t : σ} (hrun : x s = .ok a t) : Q a t := by
  unfold Ends at h
  rwa [hrun] at h

theorem Ends.of_error (h : Ends x s Q E) {why : ε} {t : σ} (hrun : x s = .error why t) :
    E why t := by
  unfold Ends at h
  rwa [hrun] at h

theorem ends_of_ok {a : α} {t : σ} (hrun : x s = .ok a t) (hQ : Q a t) : Ends x s Q E := by
  unfold Ends
  rwa [hrun]

/-- A step that cannot fail succeeds. -/
theorem Ends.exists_ok (h : Ends x s Q fun _ _ => False) : ∃ a t, x s = .ok a t ∧ Q a t := by
  unfold Ends at h
  split at h
  next a t hrun => exact ⟨a, t, hrun, h⟩
  next => exact h.elim

/-- A step that fails wherever a condition is not met succeeds just if it is. -/
theorem Ends.ok_iff {P : Prop} (h : Ends x s (fun _ _ => P) fun _ _ => ¬ P) :
    (∃ a t, x s = .ok a t) ↔ P := by
  constructor
  · rintro ⟨a, t, hrun⟩
    exact h.of_ok hrun
  · intro hP
    obtain ⟨a, t, hrun, _⟩ := Ends.exists_ok (Ends.mono h (fun _ _ h => h) fun _ _ hno => hno hP)
    exact ⟨a, t, hrun⟩

theorem Ends.and (h : Ends x s Q E) (h' : Ends x s Q' E') :
    Ends x s (fun a t => Q a t ∧ Q' a t) fun why t => E why t ∧ E' why t := by
  unfold Ends at *
  split at h <;> simp_all

theorem Ends.imp {P : Prop} (h : P → Ends x s Q E) :
    Ends x s (fun a t => P → Q a t) fun why t => P → E why t := by
  unfold Ends at *
  split
  next heq =>
    simp only [heq] at h
    exact h
  next heq =>
    simp only [heq] at h
    exact h

theorem ends_congr {y : EStateM ε σ α} {t : σ} (hxy : x s = y t) :
    Ends x s Q E ↔ Ends y t Q E := by
  unfold Ends
  rw [hxy]

theorem ends_run (x : EStateM ε σ α) (s : σ) :
    Ends x s (fun a t => x s = .ok a t) fun why t => x s = .error why t := by
  unfold Ends
  split <;> assumption

theorem Ends.after {P : σ → Prop} (h : Ends x s (fun _ => P) (fun _ => P)) : P (after x s) := by
  unfold Ends at h
  unfold Questline.after
  split at h <;> simp_all

theorem ends_of_after {P : σ → Prop} (h : P (Questline.after x s)) :
    Ends x s (fun _ => P) (fun _ => P) := by
  unfold Questline.after at h
  unfold Ends
  split at h <;> simp_all

@[simp] theorem ends_pure (a : α) : Ends (pure a) s Q E ↔ Q a s := Iff.rfl

@[simp] theorem ends_throw (why : ε) : Ends (throw why) s Q E ↔ E why s := Iff.rfl

@[simp] theorem ends_get {R : σ → σ → Prop} : Ends get s R E ↔ R s s := Iff.rfl

@[simp] theorem ends_set (t : σ) {R : PUnit → σ → Prop} : Ends (set t) s R E ↔ R ⟨⟩ t := Iff.rfl

@[simp] theorem ends_modify (g : σ → σ) {R : PUnit → σ → Prop} :
    Ends (modify g) s R E ↔ R ⟨⟩ (g s) := Iff.rfl

@[simp] theorem ends_bind {R : β → σ → Prop} :
    Ends (x >>= f) s R E ↔ Ends x s (fun a t => Ends (f a) t R E) E := by
  simp only [Ends, bind, EStateM.bind]
  cases x s <;> rfl

@[simp] theorem ends_map (g : α → β) {R : β → σ → Prop} :
    Ends (g <$> x) s R E ↔ Ends x s (fun a t => R (g a) t) E := by
  simp only [Ends, Functor.map, EStateM.map]
  cases x s <;> rfl

theorem run_bind {a : α} {t : σ} (h : x s = .ok a t) : (x >>= f) s = f a t := by
  simp only [bind, EStateM.bind, h]

theorem run_bind_error {why : ε} {t : σ} (h : x s = .error why t) :
    (x >>= f) s = .error why t := by
  simp only [bind, EStateM.bind, h]

theorem run_get (f : σ → EStateM ε σ β) (s : σ) : (get >>= f) s = f s s := rfl

theorem run_set (f : PUnit → EStateM ε σ β) (t s : σ) : (set t >>= f) s = f ⟨⟩ t := rfl

theorem run_modify (f : PUnit → EStateM ε σ β) (g : σ → σ) (s : σ) :
    (modify g >>= f) s = f ⟨⟩ (g s) := rfl

end Rules

section Sessions

variable {s : Session} {Q : α → Session → Prop} {E : Fault → Session → Prop}

@[simp] theorem Step.ends_attempt {x : Step Unit} {Q : Option Fault → Session → Prop} :
    Ends (attempt x) s Q E ↔
      Ends x s (fun _ t => Q none t) fun why t => Q (some why) t := by
  unfold Ends attempt
  cases x s <;> rfl

@[simp] theorem Step.ends_orElseDo {x : Step α} {y : Step β} :
    Ends (x.orElseDo y) s Q E ↔
      Ends x s Q fun why t => Ends y t (fun _ u => E why u) E := by
  unfold Ends orElseDo
  cases x s with
  | ok a t => rfl
  | error why t =>
    dsimp only
    cases y t <;> rfl

theorem Step.ends_onHost {x : HostStep α} : Ends (onHost x) s Q E ↔
    Ends x s.host (fun a host => Q a { s with host }) fun why host => E why { s with host } := by
  unfold Ends onHost
  cases x s.host <;> rfl

@[simp] theorem Step.ends_ofExcept_ok (a : α) : Ends (ofExcept (.ok a)) s Q E ↔ Q a s := Iff.rfl

@[simp] theorem Step.ends_ofExcept_error (why : Fault) :
    Ends (ofExcept (.error why) : Step α) s Q E ↔ E why s := Iff.rfl

end Sessions

namespace Requirement

/-- Judges a requirement by what the world says, once the host has been asked. -/
def judged (r : Requirement) (l : Ledger) : HostStep Bool := do
  match r.compare (r.fact l (← get)) with
  | .ok b => pure b
  | .error why => throw why

theorem evaluate_of_unasked {r : Requirement} (h : r.service? = none) (l : Ledger) :
    r.evaluate l = r.judged l := by
  unfold evaluate
  rw [h]
  rfl

theorem evaluate_of_asked {r : Requirement} {service : Service} (h : r.service? = some service)
    (l : Ledger) : r.evaluate l = Host.call service >>= fun _ => r.judged l := by
  unfold evaluate
  rw [h]
  rfl

end Requirement

end Questline
