import Questline.Fault

/-! The order of atoms, as far as they have one. -/

namespace Questline.Atom

/-- How atoms are ordered: numbers with numbers, text with text, extensions by their code and then
by their bytes; atoms of different sorts cannot be compared. -/
def before? (a b : Atom) : Option Bool :=
  match a, b with
  | .text s, .text t => some (s < t)
  | .bytes s, .bytes t => some (s < t)
  | .extension c s, .extension d t => some (c < d || (c == d && s < t))
  | _, _ =>
    match a.number?, b.number? with
    | some (.inl m), some (.inl n) => some (m < n)
    | some (.inr x), some (.inr y) => some (x < y)
    | some (.inl m), some (.inr y) => some (Decimal.compareInt m y == some .lt)
    | some (.inr x), some (.inl n) => some (Decimal.compareInt n x == some .gt)
    | _, _ => none

/-- Inserts an atom into a sorted list. -/
def insertSorted (a : Atom) : List Atom → Except Fault (List Atom)
  | [] => .ok [a]
  | b :: rest =>
    match before? a b with
    | none => .error .mistyped
    | some true => .ok (a :: b :: rest)
    | some false => (insertSorted a rest).map (b :: ·)

/-- The atoms in ascending order; atoms of different sorts have none. -/
def sort (atoms : List Atom) : Except Fault (List Atom) :=
  atoms.foldlM (fun sorted a => insertSorted a sorted) []

end Questline.Atom
