import Mathlib.Data.List.Forall2
import Mathlib.Data.List.Nodup
import Questline.Ledger

/-! Laws of tables, and what they say about the ledger. -/

namespace Questline

/-- Whatever stands in one of two lists that correspond has its counterpart in the other. -/
theorem exists_of_forall₂ {α β : Type} {R : α → β → Prop} {l : List α} {m : List β}
    (h : List.Forall₂ R l m) {b : β} (hb : b ∈ m) : ∃ a ∈ l, R a b := by
  induction h with
  | nil => cases hb
  | cons hab _ ih =>
    rcases List.mem_cons.1 hb with rfl | hb
    · exact ⟨_, List.mem_cons_self, hab⟩
    · exact (ih hb).imp fun _ => And.imp_left (List.mem_cons_of_mem _)

/-- Where no two members have a key in common, each is found by its own. -/
theorem find?_of_distinct {α κ : Type} [DecidableEq κ] {key : α → κ} {l : List α}
    (hl : (l.map key).Nodup) {a : α} (ha : a ∈ l) : l.find? (key · = key a) = some a := by
  induction l with
  | nil => cases ha
  | cons b rest ih =>
    rw [List.map_cons, List.nodup_cons] at hl
    rcases List.mem_cons.1 ha with rfl | hrest
    · simp
    · have hne : key b ≠ key a := fun he => hl.1 (he ▸ List.mem_map_of_mem hrest)
      rw [List.find?_cons_of_neg (by simpa using hne)]
      exact ih hl.2 hrest

namespace Assoc

variable {κ α : Type}

def keys (m : Assoc κ α) : List κ := m.map Prod.fst

@[simp] theorem keys_nil : keys ([] : Assoc κ α) = [] := rfl

@[simp] theorem keys_cons (p : κ × α) (m : Assoc κ α) : keys (p :: m) = p.1 :: keys m := rfl

theorem mem_keys_of_mem {m : Assoc κ α} {k : κ} {a : α} (h : (k, a) ∈ m) : k ∈ keys m :=
  List.mem_map_of_mem h

variable [BEq κ]

/-- A key that no other key passes for. -/
def Exact (k : κ) : Prop := ∀ j : κ, (j == k) = true ↔ j = k

theorem exact [LawfulBEq κ] (k : κ) : Exact k := fun _ => beq_iff_eq

theorem Exact.beq_self {k : κ} (hk : Exact k) : (k == k) = true := (hk k).2 rfl

theorem Exact.beq_of_ne {j k : κ} (hk : Exact k) (h : j ≠ k) : (j == k) = false := by
  rw [Bool.eq_false_iff]
  exact fun hb => h ((hk j).1 hb)

theorem mem_of_get? {m : Assoc κ α} {k : κ} {a : α} (hk : Exact k) (h : get? m k = some a) :
    (k, a) ∈ m := by
  induction m with
  | nil => simp at h
  | cons p rest ih =>
    obtain ⟨k', a'⟩ := p
    by_cases hp : k' = k
    · subst hp
      rw [get?, if_pos hk.beq_self] at h
      cases h
      exact List.mem_cons_self
    · rw [get?, hk.beq_of_ne hp] at h
      exact List.mem_cons_of_mem _ (ih h)

theorem get?_eq_none_iff {m : Assoc κ α} {k : κ} (hk : Exact k) :
    get? m k = none ↔ k ∉ keys m := by
  induction m with
  | nil => simp
  | cons p rest ih =>
    by_cases hp : p.1 = k
    · simp [get?, hp, hk.beq_self]
    · simp [get?, hk.beq_of_ne hp, ih, Ne.symm hp]

theorem get?_isSome_iff {m : Assoc κ α} {k : κ} (hk : Exact k) :
    (get? m k).isSome ↔ k ∈ keys m := by
  rw [← not_iff_not, ← get?_eq_none_iff hk, Bool.not_eq_true, Option.isSome_eq_false_iff,
    Option.isNone_iff_eq_none]

theorem get?_of_mem {m : Assoc κ α} {k : κ} {a : α} (hk : Exact k) (hm : (keys m).Nodup)
    (h : (k, a) ∈ m) : get? m k = some a := by
  induction m with
  | nil => simp at h
  | cons p rest ih =>
    rw [keys_cons, List.nodup_cons] at hm
    rcases List.mem_cons.1 h with rfl | hrest
    · simp [get?, hk.beq_self]
    · have hne : p.1 ≠ k := fun he => hm.1 (he ▸ mem_keys_of_mem hrest)
      rw [get?, hk.beq_of_ne hne]
      exact ih hm.2 hrest

theorem get?_put {m : Assoc κ α} {j k : κ} (a : α) (hj : Exact j) (hk : Exact k)
    [Decidable (j = k)] : get? (put m k a) j = if j = k then some a else get? m j := by
  induction m with
  | nil =>
    split
    case isTrue h => simp [put, get?, h, hk.beq_self]
    case isFalse h => simp [put, get?, hj.beq_of_ne (Ne.symm h)]
  | cons p rest ih =>
    obtain ⟨k', a'⟩ := p
    by_cases hp : k' = k
    · subst hp
      rw [put, if_pos hk.beq_self, get?]
      by_cases hjk : j = k'
      · subst hjk
        simp [hj.beq_self]
      · simp [hjk, get?, hj.beq_of_ne (Ne.symm hjk)]
    · rw [put, hk.beq_of_ne hp]
      by_cases hpj : k' = j
      · subst hpj
        simp [get?, hj.beq_self, hp]
      · simp [get?, hj.beq_of_ne hpj, ih]

theorem of_mem_put {m : Assoc κ α} {k : κ} {a : α} {p : κ × α} (h : p ∈ put m k a) :
    p ∈ m ∨ p.2 = a := by
  induction m with
  | nil => exact .inr (by simp_all [put])
  | cons q rest ih =>
    rw [put] at h
    split at h
    · rcases List.mem_cons.1 h with rfl | h
      · exact .inr rfl
      · exact .inl (List.mem_cons_of_mem _ h)
    · rcases List.mem_cons.1 h with rfl | h
      · exact .inl List.mem_cons_self
      · exact (ih h).imp_left (List.mem_cons_of_mem _)

theorem put_of_notMem {m : Assoc κ α} {k : κ} (a : α) (hk : Exact k) (h : k ∉ keys m) :
    put m k a = m ++ [(k, a)] := by
  induction m with
  | nil => rfl
  | cons p rest ih =>
    rw [keys_cons, List.mem_cons, not_or] at h
    rw [put, hk.beq_of_ne (Ne.symm h.1)]
    simp [ih h.2]

theorem keys_put_of_mem {m : Assoc κ α} {k : κ} (a : α) (hk : Exact k) (h : k ∈ keys m) :
    keys (put m k a) = keys m := by
  induction m with
  | nil => simp at h
  | cons p rest ih =>
    by_cases hp : p.1 = k
    · simp [put, hp, hk.beq_self]
    · have hrest : k ∈ keys rest := by simpa [Ne.symm hp] using h
      rw [put, hk.beq_of_ne hp]
      simp [ih hrest]

theorem keys_put_of_notMem {m : Assoc κ α} {k : κ} (a : α) (hk : Exact k) (h : k ∉ keys m) :
    keys (put m k a) = keys m ++ [k] := by
  simp [put_of_notMem a hk h, keys]

theorem mem_keys_put {m : Assoc κ α} {j k : κ} (a : α) (hk : Exact k) :
    j ∈ keys (put m k a) ↔ j ∈ keys m ∨ j = k := by
  by_cases h : k ∈ keys m
  · rw [keys_put_of_mem a hk h]
    exact ⟨Or.inl, fun hj => hj.elim id fun he => he ▸ h⟩
  · simp [keys_put_of_notMem a hk h]

theorem nodup_keys_put {m : Assoc κ α} {k : κ} (a : α) (hk : Exact k) (hm : (keys m).Nodup) :
    (keys (put m k a)).Nodup := by
  by_cases h : k ∈ keys m
  · rwa [keys_put_of_mem a hk h]
  · rw [keys_put_of_notMem a hk h, ← List.concat_eq_append]
    exact hm.concat h

theorem same_self [BEq α] [LawfulBEq α] {m : Assoc κ α} (hk : ∀ k ∈ keys m, Exact k)
    (hm : (keys m).Nodup) : same m m = true := by
  rw [same, Bool.and_eq_true, List.all_eq_true]
  refine ⟨beq_self_eq_true _, fun ⟨k, a⟩ hp => ?_⟩
  dsimp only
  rw [get?_of_mem (hk k (mem_keys_of_mem hp)) hm hp]
  exact beq_self_eq_true _

end Assoc

namespace Atom

theorem beq_text (a : Atom) (s : String) : (a == .text s) = decide (a = .text s) := by
  change same a (.text s) = _
  cases a <;> simp [same, number?]

theorem text_beq (s : String) (a : Atom) : (.text s == a) = decide (a = .text s) := by
  change same (.text s) a = _
  cases a <;> simp [same, number?, eq_comm]

theorem contains_text (atoms : List Atom) (s : String) :
    atoms.contains (.text s) = true ↔ .text s ∈ atoms := by
  rw [List.contains_iff_exists_mem_beq]
  simp [text_beq]

theorem exact_text (s : String) : Assoc.Exact (Atom.text s) := by
  intro a
  simp [beq_text]

end Atom

namespace Ledger

theorem stateOf_setState (l : Ledger) (g h : String) (state : Lifecycle) :
    (l.setState g state).stateOf h = if h = g then state else l.stateOf h := by
  unfold stateOf setState Assoc.getD
  rw [Assoc.get?_put state (Atom.exact_text h) (Atom.exact_text g)]
  by_cases hg : h = g <;> simp [hg]

/-- A reputation is changed together with others by shifts one after the other. -/
theorem changeReputation_eq (cfg : Settings) (faction : String) (amount : Int) :
    ∃ shifts : List (String × Int), ∀ l : Ledger, l.changeReputation cfg faction amount =
      shifts.foldl (fun l p => l.shiftReputation cfg p.1 p.2) l := by
  refine ⟨(faction, amount) :: (cfg.coupledWith faction).filterMap fun c =>
    if induced amount c.2 = 0 then none else some (c.1, induced amount c.2), fun l => ?_⟩
  unfold changeReputation
  rw [List.foldl_cons, List.foldl_filterMap]
  congr 1
  funext l c
  by_cases hnone : induced amount c.2 = 0 <;> simp [hnone]

theorem mem_keys_of_stateOf {l : Ledger} {g : String} (h : l.stateOf g ≠ .unavailable) :
    Atom.text g ∈ Assoc.keys l.questState := by
  by_contra hn
  apply h
  rw [stateOf, Assoc.getD, (Assoc.get?_eq_none_iff (Atom.exact_text g)).2 hn]
  rfl

end Ledger

end Questline
