/-! Laws of results that may be errors. -/

namespace Questline

variable {ε α β : Type}

theorem bind_eq_ok {x : Except ε α} {f : α → Except ε β} {b : β} :
    x >>= f = .ok b ↔ ∃ a, x = .ok a ∧ f a = .ok b := by
  cases x with
  | error why => exact ⟨nofun, nofun⟩
  | ok a => exact ⟨fun h => ⟨a, rfl, h⟩, fun ⟨_, h, hb⟩ => Except.ok.inj h ▸ hb⟩

theorem ok_bind (a : α) (f : α → Except ε β) : (Except.ok a >>= f) = f a := rfl

theorem exists_of_toBool {x : Except ε α} (h : x.toBool = true) : ∃ a, x = .ok a := by
  cases x with
  | error why => cases h
  | ok a => exact ⟨a, rfl⟩

theorem map_eq_ok {x : Except ε α} {f : α → β} {b : β} :
    x.map f = .ok b ↔ ∃ a, x = .ok a ∧ f a = b := by
  cases x with
  | error why => exact ⟨nofun, nofun⟩
  | ok a => exact ⟨fun h => ⟨a, rfl, Except.ok.inj h⟩, fun ⟨_, h, hb⟩ => by cases h; rw [← hb]; rfl⟩

theorem bind_eq_error {x : Except ε α} {f : α → Except ε β} {why : ε} :
    x >>= f = .error why ↔ x = .error why ∨ ∃ a, x = .ok a ∧ f a = .error why := by
  cases x with
  | error why' =>
    constructor
    · intro h
      cases h
      exact .inl rfl
    · rintro (h | ⟨_, h, _⟩)
      · cases h
        rfl
      · cases h
  | ok a =>
    constructor
    · exact fun h => .inr ⟨a, rfl, h⟩
    · rintro (h | ⟨_, ha, h⟩)
      · cases h
      · cases ha
        exact h

theorem map_eq_error {x : Except ε α} {f : α → β} {why : ε} :
    x.map f = .error why ↔ x = .error why := by
  cases x with
  | error why' => exact ⟨fun h => by cases h; rfl, fun h => by cases h; rfl⟩
  | ok a => exact ⟨nofun, nofun⟩

theorem toOption_eq_some {x : Except ε α} {a : α} : x.toOption = some a ↔ x = .ok a := by
  cases x with
  | error why => exact ⟨nofun, nofun⟩
  | ok b => exact ⟨fun h => by cases h; rfl, fun h => by cases h; rfl⟩

theorem forM_eq_ok {l : List α} {f : α → Except ε Unit} :
    l.forM f = .ok () ↔ ∀ a ∈ l, f a = .ok () := by
  induction l with
  | nil => simp [List.forM, pure, Except.pure]
  | cons a rest ih =>
    change (f a >>= fun _ => rest.forM f) = _ ↔ _
    rw [bind_eq_ok, List.forall_mem_cons, ← ih]
    exact ⟨fun ⟨_, h⟩ => h, fun h => ⟨(), h⟩⟩

/-- Reading a list reads each of its members, and nothing else. -/
theorem mem_of_mapM {f : α → Except ε β} {l : List α} {bs : List β} (h : l.mapM f = .ok bs) :
    (∀ a ∈ l, ∃ b ∈ bs, f a = .ok b) ∧ ∀ b ∈ bs, ∃ a ∈ l, f a = .ok b := by
  induction l generalizing bs with
  | nil =>
    cases h
    exact ⟨nofun, nofun⟩
  | cons a rest ih =>
    rw [List.mapM_cons, bind_eq_ok] at h
    obtain ⟨b, hb, h⟩ := h
    obtain ⟨others, hothers, h⟩ := bind_eq_ok.1 h
    cases h
    obtain ⟨hto, hfrom⟩ := ih hothers
    constructor
    · exact List.forall_mem_cons.2 ⟨⟨b, List.mem_cons_self, hb⟩, fun a' ha' =>
        (hto a' ha').imp fun _ h => ⟨List.mem_cons_of_mem _ h.1, h.2⟩⟩
    · exact List.forall_mem_cons.2 ⟨⟨a, List.mem_cons_self, hb⟩, fun b' hb' =>
        (hfrom b' hb').imp fun _ h => ⟨List.mem_cons_of_mem _ h.1, h.2⟩⟩

theorem map_of_mapM {γ : Type} {f : α → Except ε β} {g : β → γ} {k : α → γ}
    (hf : ∀ a b, f a = .ok b → g b = k a) {l : List α} {bs : List β} (h : l.mapM f = .ok bs) :
    bs.map g = l.map k := by
  induction l generalizing bs with
  | nil =>
    cases h
    rfl
  | cons a rest ih =>
    rw [List.mapM_cons, bind_eq_ok] at h
    obtain ⟨b, hb, h⟩ := h
    obtain ⟨others, hothers, h⟩ := bind_eq_ok.1 h
    cases h
    rw [List.map_cons, List.map_cons, hf a b hb, ih hothers]

/-- An error in reading a list comes from one of its members. -/
theorem exists_error_of_mapM {f : α → Except ε β} {l : List α} {why : ε}
    (h : l.mapM f = .error why) : ∃ a ∈ l, f a = .error why := by
  induction l with
  | nil => cases h
  | cons a rest ih =>
    rw [List.mapM_cons, bind_eq_error] at h
    rcases h with h | ⟨b, _, h⟩
    · exact ⟨a, List.mem_cons_self, h⟩
    · rcases bind_eq_error.1 h with h | ⟨_, _, h⟩
      · obtain ⟨a', ha', h⟩ := ih h
        exact ⟨a', List.mem_cons_of_mem _ ha', h⟩
      · cases h

/-- A list can be read whose members can all be read. -/
theorem exists_ok_of_mapM {f : α → Except ε β} {l : List α} (h : ∀ a ∈ l, ∃ b, f a = .ok b) :
    ∃ bs, l.mapM f = .ok bs := by
  cases hl : l.mapM f with
  | ok bs => exact ⟨bs, rfl⟩
  | error why =>
    obtain ⟨a, ha, hfails⟩ := exists_error_of_mapM hl
    obtain ⟨b, hb⟩ := h a ha
    cases hb.symm.trans hfails

theorem exists_error_of_foldlM {f : β → α → Except ε β} {l : List α} {b : β} {why : ε}
    (h : l.foldlM f b = .error why) : ∃ a ∈ l, ∃ c, f c a = .error why := by
  induction l generalizing b with
  | nil => cases h
  | cons a rest ih =>
    rw [List.foldlM_cons, bind_eq_error] at h
    rcases h with h | ⟨c, _, h⟩
    · exact ⟨a, List.mem_cons_self, b, h⟩
    · obtain ⟨a', ha', h⟩ := ih h
      exact ⟨a', List.mem_cons_of_mem _ ha', h⟩

/-- Where it does not depend on what came before whether a step succeeds, all steps succeed just if
each of them does. -/
theorem foldlM_eq_ok {f : β → α → Except ε β} {P : α → Prop}
    (hf : ∀ a b, (∃ c, f b a = .ok c) ↔ P a) {l : List α} {b : β} :
    (∃ c, l.foldlM f b = .ok c) ↔ ∀ a ∈ l, P a := by
  induction l generalizing b with
  | nil => exact ⟨fun _ => nofun, fun _ => ⟨b, rfl⟩⟩
  | cons a rest ih =>
    rw [List.foldlM_cons, List.forall_mem_cons]
    constructor
    · intro ⟨d, hd⟩
      obtain ⟨c, hc, hd⟩ := bind_eq_ok.1 hd
      exact ⟨(hf a b).1 ⟨c, hc⟩, ih.1 ⟨d, hd⟩⟩
    · intro ⟨ha, hrest⟩
      obtain ⟨c, hc⟩ := (hf a b).2 ha
      obtain ⟨d, hd⟩ := ih.2 hrest
      exact ⟨d, by rw [hc, ok_bind, hd]⟩

theorem foldlM_keeps {f : β → α → Except ε β} {I : β → Prop}
    (hf : ∀ b a c, I b → f b a = .ok c → I c) {l : List α} {b c : β} (hb : I b)
    (h : l.foldlM f b = .ok c) : I c := by
  induction l generalizing b with
  | nil => cases h; exact hb
  | cons a rest ih =>
    rw [List.foldlM_cons, bind_eq_ok] at h
    obtain ⟨d, hd, h⟩ := h
    exact ih (hf b a d hb hd) h

theorem filterM_eq_ok {f : α → Except ε Bool} {p : α → Bool} {l : List α}
    (h : ∀ a ∈ l, f a = .ok (p a)) : l.filterM f = .ok (l.filter p) := by
  have step : ∀ (l kept : List α), (∀ a ∈ l, f a = .ok (p a)) →
      l.filterAuxM f kept = .ok ((l.filter p).reverse ++ kept) := by
    intro l
    induction l with
    | nil => exact fun kept _ => rfl
    | cons a rest ih =>
      intro kept h
      rw [List.forall_mem_cons] at h
      rw [List.filterAuxM, h.1, ok_bind, ih _ h.2, List.filter_cons]
      cases p a <;> simp
  rw [List.filterM, step l [] h, ok_bind, List.append_nil, List.reverse_reverse]
  rfl

end Questline
