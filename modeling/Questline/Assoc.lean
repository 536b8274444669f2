/-! Tables in order of first insertion.  A key that is put again keeps its place. -/

namespace Questline

abbrev Assoc (κ : Type) (α : Type) := List (κ × α)

namespace Assoc

variable {κ α : Type} [BEq κ]

def get? (m : Assoc κ α) (k : κ) : Option α :=
  match m with
  | [] => none
  | (k', a) :: rest => if k' == k then some a else get? rest k

def getD (m : Assoc κ α) (k : κ) (default : α) : α := (get? m k).getD default

def has (m : Assoc κ α) (k : κ) : Bool := (get? m k).isSome

def put (m : Assoc κ α) (k : κ) (a : α) : Assoc κ α :=
  match m with
  | [] => [(k, a)]
  | (k', a') :: rest => if k' == k then (k', a) :: rest else (k', a') :: put rest k a

def remove (m : Assoc κ α) (k : κ) : Assoc κ α :=
  match m with
  | [] => []
  | (k', a) :: rest => if k' == k then rest else (k', a) :: remove rest k

/-- Puts the entries one after the other. -/
def ofList (entries : List (κ × α)) : Assoc κ α :=
  entries.foldl (fun m (k, a) => put m k a) []

/-- The same keys with the same values, in any order. -/
def same [BEq α] (m n : Assoc κ α) : Bool :=
  m.length == n.length && List.all m fun (k, a) => get? n k == some a

@[simp] theorem get?_nil (k : κ) : get? ([] : Assoc κ α) k = none := rfl

theorem get?_put_self [LawfulBEq κ] (m : Assoc κ α) (k : κ) (a : α) :
    get? (put m k a) k = some a := by
  induction m with
  | nil => simp [put, get?]
  | cons p rest ih => by_cases h : p.1 == k <;> simp_all [put, get?]

theorem get?_put_of_ne [LawfulBEq κ] (m : Assoc κ α) {j k : κ} (a : α) (h : j ≠ k) :
    get? (put m k a) j = get? m j := by
  induction m with
  | nil => simp [put, get?, Ne.symm h]
  | cons p rest ih => by_cases hp : p.1 == k <;> grind [put, get?]

end Assoc

end Questline
