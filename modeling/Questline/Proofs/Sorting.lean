import Mathlib.Data.List.Perm.Basic
import Questline.Proofs.Floats
import Questline.Proofs.Results
import Questline.Value.Order

/-! Atoms can be sorted just if each can be compared with each other.  Those that can be compared
are of one family, and so sorting need not look at every pair to find out. -/

namespace Questline.Atom

/-- Equality of atoms has no direction. -/
theorem beq_comm (a b : Atom) : (a == b) = (b == a) := by
  change same a b = same b a
  unfold same
  cases a.number? with
  | none => cases b.number? <;> simp [eq_comm]
  | some m =>
    cases b.number? with
    | none => cases m <;> rfl
    | some n =>
      cases m <;> cases n
      case inl.inl m n => exact Bool.beq_comm
      case inr.inr x y => exact Decimal.beq_comm x y
      all_goals rfl

/-- What atoms are compared by. -/
inductive Family
  | number : Family
  | text : Family
  | bytes : Family
  | extension : Family
  deriving DecidableEq

/-- The null value and moments cannot be compared with anything. -/
def family? : Atom → Option Family
  | .bool _ | .int _ | .float _ => some .number
  | .text _ => some .text
  | .bytes _ => some .bytes
  | .extension _ _ => some .extension
  | .null | .moment _ _ => none

def Comparable (a b : Atom) : Prop := (before? a b).isSome = true

instance (a b : Atom) : Decidable (Comparable a b) := inferInstanceAs (Decidable (_ = true))

theorem comparable_iff {a b : Atom} :
    Comparable a b ↔ ∃ family, a.family? = some family ∧ b.family? = some family := by
  unfold Comparable
  cases a <;> cases b <;> simp [before?, number?, family?]

theorem Comparable.symm {a b : Atom} (h : Comparable a b) : Comparable b a := by
  obtain ⟨family, ha, hb⟩ := comparable_iff.1 h
  exact comparable_iff.2 ⟨family, hb, ha⟩

theorem Comparable.trans {a b c : Atom} (h : Comparable a b) (h' : Comparable b c) :
    Comparable a c := by
  obtain ⟨family, ha, hb⟩ := comparable_iff.1 h
  obtain ⟨_, hb', hc⟩ := comparable_iff.1 h'
  cases hb.symm.trans hb'
  exact comparable_iff.2 ⟨family, ha, hc⟩

theorem perm_of_insertSorted {a : Atom} {l m : List Atom} (h : insertSorted a l = .ok m) :
    m.Perm (a :: l) := by
  induction l generalizing m with
  | nil =>
    cases h
    exact .refl _
  | cons b rest ih =>
    rw [insertSorted] at h
    split at h
    · cases h
    · cases h
      exact .refl _
    · obtain ⟨m, hm, rfl⟩ := map_eq_ok.1 h
      exact ((ih hm).cons b).trans (.swap a b rest)

theorem insertSorted_eq_ok {a : Atom} {l : List Atom} (hl : l.Pairwise Comparable) :
    (∃ m, insertSorted a l = .ok m) ↔ ∀ b ∈ l, Comparable a b := by
  induction l with
  | nil => simp [insertSorted]
  | cons b rest ih =>
    rw [List.pairwise_cons] at hl
    rw [insertSorted, List.forall_mem_cons]
    constructor
    · intro ⟨m, hm⟩
      have hab : Comparable a b := by
        unfold Comparable
        cases hbefore : before? a b with
        | none =>
          rw [hbefore] at hm
          cases hm
        | some before => rfl
      exact ⟨hab, fun c hc => hab.trans (hl.1 c hc)⟩
    · intro ⟨hab, hrest⟩
      obtain ⟨before, hbefore⟩ := Option.isSome_iff_exists.1 hab
      rw [hbefore]
      cases before with
      | true => exact ⟨_, rfl⟩
      | false =>
        obtain ⟨m, hm⟩ := (ih hl.2).2 hrest
        exact ⟨b :: m, by rw [hm]; rfl⟩

section Fold

variable {l acc m : List Atom}

theorem perm_of_insertEach (h : l.foldlM (fun sorted a => insertSorted a sorted) acc = .ok m) :
    m.Perm (acc ++ l) := by
  induction l generalizing acc with
  | nil =>
    cases h
    simp
  | cons a rest ih =>
    rw [List.foldlM_cons] at h
    obtain ⟨acc', hacc', h⟩ := bind_eq_ok.1 h
    have hperm := (perm_of_insertSorted hacc').append_right rest
    exact (ih h).trans (hperm.trans List.perm_middle.symm)

theorem insertEach_eq_ok (hacc : acc.Pairwise Comparable) :
    (∃ m, l.foldlM (fun sorted a => insertSorted a sorted) acc = .ok m) ↔
      (acc ++ l).Pairwise Comparable := by
  induction l generalizing acc with
  | nil =>
    rw [List.append_nil]
    exact ⟨fun _ => hacc, fun _ => ⟨acc, rfl⟩⟩
  | cons a rest ih =>
    -- the pairs do not change when the next atom goes to its place among those before it
    have next {acc' : List Atom} (hacc' : insertSorted a acc = .ok acc') :
        (acc' ++ rest).Pairwise Comparable ↔ (acc ++ a :: rest).Pairwise Comparable :=
      (((perm_of_insertSorted hacc').append_right rest).trans List.perm_middle.symm).pairwise_iff
        Comparable.symm
    rw [List.foldlM_cons]
    constructor
    · intro ⟨m, hm⟩
      obtain ⟨acc', hacc', hm⟩ := bind_eq_ok.1 hm
      have hpairs : acc'.Pairwise Comparable :=
        ((perm_of_insertSorted hacc').pairwise_iff Comparable.symm).2 <|
          List.pairwise_cons.2 ⟨(insertSorted_eq_ok hacc).1 ⟨acc', hacc'⟩, hacc⟩
      exact (next hacc').1 ((ih hpairs).1 ⟨m, hm⟩)
    · intro hpairs
      obtain ⟨acc', hacc'⟩ := (insertSorted_eq_ok hacc).2 fun b hb =>
        ((List.pairwise_append.1 hpairs).2.2 b hb a List.mem_cons_self).symm
      have hrest := (next hacc').2 hpairs
      obtain ⟨m, hm⟩ := (ih (List.pairwise_append.1 hrest).1).2 hrest
      exact ⟨m, by rw [hacc', ok_bind, hm]⟩

end Fold

theorem perm_of_sort {l m : List Atom} (h : sort l = .ok m) : m.Perm l := perm_of_insertEach h

/-- Atoms can be sorted just if each can be compared with each other. -/
theorem sort_eq_ok {l : List Atom} : (∃ m, sort l = .ok m) ↔ l.Pairwise Comparable :=
  insertEach_eq_ok .nil

/-- Whatever cannot be sorted is of the wrong kind. -/
theorem mistyped_of_sort {atoms : List Atom} {why : Fault} (h : sort atoms = .error why) :
    why = .mistyped := by
  have hinsert {a : Atom} {sorted : List Atom} (h : insertSorted a sorted = .error why) :
      why = .mistyped := by
    induction sorted with
    | nil => cases h
    | cons b rest ih =>
      rw [insertSorted] at h
      split at h
      · cases h
        rfl
      · cases h
      · exact ih (map_eq_error.1 h)
  obtain ⟨a, _, sorted, h⟩ := exists_error_of_foldlM h
  exact hinsert h

end Questline.Atom
