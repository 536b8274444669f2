import Questline.Proofs.Agreement

/-! Steps and the courses that they run through.  What a step does is put together from what its
parts do, whether it succeeds or fails on the way. -/

namespace Questline

namespace Act

/-- Whether an act belongs inside an entry.  No error inside is ever remarked upon there. -/
def isInner : Act → Bool
  | .applies _ _ | .moves _ _ | .enters _ _ | .asks _ => true
  | .remarks message => !isInternal message
  | _ => false

/-- Whether an act leaves every graph that has become available as it is. -/
def isCalm : Act → Bool
  | .applies _ _ | .moves _ .available | .asks _ => true
  | .remarks message => !isInternal message
  | _ => false

theorem isInner_of_isCalm {a : Act} (h : a.isCalm = true) : a.isInner = true := by
  unfold isCalm at h
  split at h <;> simp_all [isInner]

def application? : Act → Option (Cause × Outcome)
  | .applies c o => some (c, o)
  | _ => none

def fired (c : Cause) (acts : List Act) : List Outcome :=
  ((acts.filterMap application?).filter (·.1 = c)).map Prod.snd

def isMove (g : String) (state : Lifecycle) : Act → Bool
  | .moves h state' => h = g && state' = state
  | _ => false

end Act

/-- A stretch of acts that applies the given outcomes and is calm otherwise. -/
structure Calm (fired : List (Cause × Outcome)) (acts : List Act) : Prop where
  calm : ∀ a ∈ acts, a.isCalm = true
  fired : acts.filterMap Act.application? = fired

/-- Each time that a graph is completed its completion outcomes are applied, all of them, in order,
and at no other time. -/
def Balanced (graphs : List Graph) (acts : List Act) : Prop :=
  ∀ g ∈ graphs, Act.fired (.completion g.id) acts =
    (List.replicate (acts.countP (Act.isMove g.id .completed)) g.completion).flatten

section Stretches

variable {fired fired' : List (Cause × Outcome)} {acts acts' : List Act} {graphs : List Graph}

theorem Calm.nil : Calm [] [] := ⟨by simp, rfl⟩

theorem Calm.append (h : Calm fired acts) (h' : Calm fired' acts') :
    Calm (fired ++ fired') (acts ++ acts') := by
  constructor
  · intro a ha
    exact (List.mem_append.1 ha).elim (h.calm a) (h'.calm a)
  · rw [List.filterMap_append, h.fired, h'.fired]

theorem Calm.inner (h : Calm fired acts) : ∀ a ∈ acts, a.isInner = true :=
  fun a ha => Act.isInner_of_isCalm (h.calm a ha)

theorem Calm.countP_isMove (h : Calm fired acts) (g : String) :
    acts.countP (Act.isMove g .completed) = 0 := by
  rw [List.countP_eq_zero]
  intro a ha hmove
  have hcalm := h.calm a ha
  unfold Act.isMove at hmove
  split at hmove <;> simp_all [Act.isCalm]

theorem Balanced.nil : Balanced graphs [] := fun _ _ => rfl

theorem Balanced.append (h : Balanced graphs acts) (h' : Balanced graphs acts') :
    Balanced graphs (acts ++ acts') := by
  intro g hg
  have hsplit : Act.fired (.completion g.id) (acts ++ acts') =
      Act.fired (.completion g.id) acts ++ Act.fired (.completion g.id) acts' := by
    simp [Act.fired]
  rw [hsplit, h g hg, h' g hg, List.countP_append, List.replicate_add, List.flatten_append]

theorem Balanced.of_none (hmoves : ∀ g, acts.countP (Act.isMove g .completed) = 0)
    (hfired : ∀ p ∈ acts.filterMap Act.application?, ∀ g, p.1 ≠ .completion g) :
    Balanced graphs acts := by
  intro g _
  rw [hmoves, List.replicate_zero, List.flatten_nil, Act.fired, List.map_eq_nil_iff,
    List.filter_eq_nil_iff]
  intro p hp
  simpa using hfired p hp g.id

theorem Calm.balanced (h : Calm fired acts) (hfired : ∀ p ∈ fired, ∀ g, p.1 ≠ .completion g) :
    Balanced graphs acts :=
  .of_none h.countP_isMove (h.fired ▸ hfired)

/-- A graph is completed and its completion outcomes are applied. -/
theorem Calm.balanced_completed {g : Graph} (hg : g ∈ graphs)
    (hdistinct : (graphs.map (·.id)).Nodup)
    (h : Calm (g.completion.map (Cause.completion g.id, ·)) acts) :
    Balanced graphs (.moves g.id .completed :: acts) := by
  intro k hk
  have happlied : Act.fired (.completion k.id) (.moves g.id .completed :: acts) =
      if k.id = g.id then g.completion else [] := by
    rw [Act.fired, List.filterMap_cons_none rfl, h.fired, List.filter_map]
    by_cases hid : k.id = g.id
    · simp [hid, Function.comp_def]
    · simp [hid, Ne.symm hid, Function.comp_def]
  rw [happlied, List.countP_cons, h.countP_isMove]
  by_cases hid : k.id = g.id
  · have he : k = g := List.inj_on_of_nodup_map hdistinct hk hg hid
    simp [he, Act.isMove]
  · simp [hid, Ne.symm hid, Act.isMove]

end Stretches

/-- A step runs through a course of acts, and ends with the first condition or fails with the
second. -/
def Plays {α : Type} (cfg : Settings) (reported : Outcome → Prop) (x : Step α) (s : Session)
    (Q : List Act → α → Session → Prop) (E : List Act → Session → Prop) : Prop :=
  Ends x s (fun a t => ∃ acts, Course cfg reported s acts t ∧ Q acts a t)
    (fun _ t => ∃ acts, Course cfg reported s acts t ∧ E acts t)

namespace Plays

variable {α β : Type} {cfg : Settings} {reported : Outcome → Prop} {s : Session}
variable {x : Step α} {f : α → Step β}
variable {Q Q' : List Act → α → Session → Prop} {E E' : List Act → Session → Prop}

theorem mono (h : Plays cfg reported x s Q E) (hQ : ∀ acts a t, Q acts a t → Q' acts a t)
    (hE : ∀ acts t, E acts t → E' acts t) : Plays cfg reported x s Q' E' :=
  Ends.mono h (fun _ _ ⟨acts, hc, hq⟩ => ⟨acts, hc, hQ _ _ _ hq⟩)
    fun _ _ ⟨acts, hc, he⟩ => ⟨acts, hc, hE _ _ he⟩

theorem pure {a : α} (h : Q [] a s) : Plays cfg reported (pure a) s Q E := ⟨[], .nil s, h⟩

theorem throw {why : Fault} (h : E [] s) :
    Plays cfg reported (throw why : Step α) s Q E := ⟨[], .nil s, h⟩

theorem bind {R : List Act → β → Session → Prop} {E : List Act → Session → Prop}
    (hx : Plays cfg reported x s Q E)
    (hf : ∀ acts a t, Course cfg reported s acts t → Q acts a t →
      Plays cfg reported (f a) t (fun acts' => R (acts ++ acts')) fun acts' => E (acts ++ acts')) :
    Plays cfg reported (x >>= f) s R E := by
  unfold Plays at *
  rw [ends_bind]
  refine hx.mono (fun a t ⟨acts, hc, hq⟩ => ?_) fun _ _ h => h
  exact (hf acts a t hc hq).mono (fun _ _ ⟨acts', hc', hr⟩ => ⟨_, hc.append hc', hr⟩)
    fun _ _ ⟨acts', hc', he⟩ => ⟨_, hc.append hc', he⟩

theorem get_bind {f : Session → Step β} {R : List Act → β → Session → Prop}
    (h : Plays cfg reported (f s) s R E) : Plays cfg reported (get >>= f) s R E := h

theorem act {a : Act} {x : Step Unit} (ha : a.Lawful reported s)
    (hx : Ends x s (fun _ t => t = a.run cfg s) (fun _ t => t = a.run cfg s))
    {Q : List Act → Unit → Session → Prop} (hQ : Q [a] () (a.run cfg s))
    (hE : E [a] (a.run cfg s)) : Plays cfg reported x s Q E :=
  Ends.mono hx (fun _ _ h => h ▸ ⟨[a], .single cfg ha, hQ⟩)
    fun _ _ h => h ▸ ⟨[a], .single cfg ha, hE⟩

theorem done {a : Act} {x : Step Unit} (ha : a.Lawful reported s)
    (hx : x s = .ok () (a.run cfg s)) {Q : List Act → Unit → Session → Prop}
    (hQ : Q [a] () (a.run cfg s)) : Plays cfg reported x s Q E := by
  unfold Plays Ends
  rw [hx]
  exact ⟨[a], .single cfg ha, hQ⟩

theorem congr {y : Step α} (hxy : x s = y s) (h : Plays cfg reported y s Q E) :
    Plays cfg reported x s Q E := by
  unfold Plays Ends at *
  rwa [hxy]

/-- The course that a step runs through, however it ends. -/
theorem course {P : List Act → Session → Prop}
    (h : Plays cfg reported x s (fun acts _ t => P acts t) P) :
    ∃ acts, Course cfg reported s acts (after x s) ∧ P acts (after x s) :=
  Ends.after (P := fun t => ∃ acts, Course cfg reported s acts t ∧ P acts t) h

end Plays

end Questline
