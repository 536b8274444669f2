import Questline.Value.Notation

/-! Laying one table over another: tables are joined field by field, other values replaced, and
a value may only be replaced by one of its own kind. -/

namespace Questline

mutual

/-- Lays a value over what stands at a path, and tells the path of the first conflict.  At a
conflict the old value stays. -/
def Value.layOver (path : List String) (old : Option Value) :
    Value → Value × Option (List String)
  | .table top =>
    match old with
    | some (.table inner) =>
      let (joined, conflict) := Table.layOver path inner top
      (.table joined, conflict)
    | some other => (other, some path)
    | none => (.table top, none)
  | .atom a => replaceBy (.atom a)
  | .list items => replaceBy (.list items)
where
  replaceBy (new : Value) : Value × Option (List String) :=
    match old with
    | some v => if v.sameKind new then (new, none) else (v, some path)
    | none => (new, none)

/-- Lays fields over a table one after the other, up to the first conflict. -/
def Table.layOver (path : List String) (a : Table) :
    List (Atom × Value) → Table × Option (List String)
  | [] => (a, none)
  | (k, v) :: rest =>
    let (joined, conflict) := Value.layOver (path ++ [(Value.atom k).plain]) (Assoc.get? a k) v
    match conflict with
    | some place => (Assoc.put a k joined, some place)
    | none => Table.layOver path (Assoc.put a k joined) rest

end

/-- The first table with the second laid over it, and the path of the conflict that stopped it. -/
def Table.merge (a b : Table) : Table × Option (List String) := Table.layOver [] a b

/-- The wording of a conflict at a path. -/
def conflictMessage (path : List String) : String := "Conflict at " ++ ".".intercalate path

end Questline
