import Questline.Settings.BuiltIn
import Questline.Settings.Merge
import Questline.Value.Reading

/-! Checking a settings tree.  Merging only guards the kinds of values; here the values
themselves are judged, and everything wrong is listed at once. -/

namespace Questline.Settings

/-- Something wrong with the values of a settings tree. -/
inductive Problem
  | boundsOf (scale : String) (min max : Value) : Problem
  | unknownFaction (given : Value) : Problem
  | selfCoupling (faction : Value) : Problem
  | badDivisor (divisor a b : Value) : Problem
  | badTitles : Problem
  | initialOutside (initial : Value) (min max : Int) : Problem
  | noLevels : Problem
  | levelOutside (level : String) (bound : Value) (min max : Int) : Problem
  | noMainQuest : Problem
  | noFiles : Problem

def Problem.message : Problem → String
  | .boundsOf scale min max =>
    s!"{scale} MIN {min.literal} must be an integer below MAX {max.literal}"
  | .unknownFaction given =>
    s!"coupling faction {given.literal} is not one of {literalTexts Faction.words}"
  | .selfCoupling faction => s!"coupling couples {faction.literal} with itself"
  | .badDivisor divisor a b =>
    s!"coupling divisor {divisor.literal} for {a.plain}/{b.plain} must be a positive integer"
  | .badTitles => "reputation TITLES need integer thresholds, lowest first"
  | .initialOutside initial min max =>
    s!"relationship INITIAL {initial.literal} is outside {min}..{max}"
  | .noLevels => "relationship LEVELS is empty"
  | .levelOutside level bound min max =>
    s!"relationship level {level} at {bound.literal} is outside {min}..{max}"
  | .noMainQuest => "content MAIN_QUEST must name a graph"
  | .noFiles => "content FILES is empty"

/-- Bounds are two integers in ascending order. -/
def boundsOf? (min max : Value) : Option (Int × Int) :=
  match min.int?, max.int? with
  | some low, some high => if low < high then some (low, high) else none
  | _, _ => none

def checkFaction (given : Value) : Except Fault (List Problem) := do
  match ← given.readAtom with
  | .text s => pure (if Faction.isWord s then [] else [.unknownFaction given])
  | _ => pure [.unknownFaction given]

def checkCoupling (pair : Value) : Except Fault (List Problem) := do
  let fields ← pair.readFields
  let a := fields.field "a"
  let b := fields.field "b"
  let divisor := fields.field "divisor"
  let factions := (← checkFaction a) ++ (← checkFaction b)
  let self := if (← a.readAtom) == (← b.readAtom) then [Problem.selfCoupling a] else []
  let division := match divisor.int? with
    | some n => if n ≤ 0 then [Problem.badDivisor divisor a b] else []
    | none => [.badDivisor divisor a b]
  pure (factions ++ self ++ division)

/-- The thresholds if all of them are integers. -/
def integers? (items : List Value) : Option (List Int) := items.mapM Value.int?

def isAscending : List Int → Bool
  | a :: b :: rest => a ≤ b && isAscending (b :: rest)
  | _ => true

def checkTitles (titles : Value) : Except Fault (List Problem) := do
  let thresholds ← (← titles.elements).mapM fun t => return (← t.readFields).field "threshold"
  match integers? thresholds with
  | some (first :: rest) => pure (if isAscending (first :: rest) then [] else [.badTitles])
  | _ => pure [.badTitles]

def checkReputation (reputation : Value) : Except Fault (List Problem) := do
  let min ← reputation.require "MIN"
  let max ← reputation.require "MAX"
  let bounds := if (boundsOf? min max).isSome then [] else [Problem.boundsOf "reputation" min max]
  let couplings ← (← (← reputation.require "COUPLING").elements).mapM checkCoupling
  let titles ← checkTitles (← reputation.require "TITLES")
  pure (bounds ++ couplings.flatten ++ titles)

def isWithin (low high : Int) (v : Value) : Bool :=
  match v.int? with
  | some n => low ≤ n && n ≤ high
  | none => false

def checkLevels (low high : Int) (levels : Value) : Except Fault (List Problem) := do
  let empty := if levels.isTrue then [] else [Problem.noLevels]
  let outside := (← levels.readFields).filterMap fun (level, bound) =>
    if isWithin low high bound then none
    else some (Problem.levelOutside (Value.atom level).plain bound low high)
  pure (empty ++ outside)

def checkRelationship (relationship : Value) : Except Fault (List Problem) := do
  let min ← relationship.require "MIN"
  let max ← relationship.require "MAX"
  match boundsOf? min max with
  | none => pure [.boundsOf "relationship" min max]
  | some (low, high) =>
    let initial ← relationship.require "INITIAL"
    let start := if isWithin low high initial then [] else [Problem.initialOutside initial low high]
    let levels ← checkLevels low high (← relationship.require "LEVELS")
    pure (start ++ levels)

def checkContent (content : Value) : Except Fault (List Problem) := do
  let main := match ← content.require "MAIN_QUEST" with
    | .text s => if s = "" then [Problem.noMainQuest] else []
    | _ => [.noMainQuest]
  let files := if (← content.require "FILES").isTrue then [] else [Problem.noFiles]
  pure (main ++ files)

/-- Everything wrong with a settings tree. -/
def check (tree : Table) : Except Fault (List Problem) := do
  let reputation ← checkReputation (← (Value.table tree).require "reputation")
  let relationship ← checkRelationship (← (Value.table tree).require "relationship")
  let content ← checkContent (← (Value.table tree).require "content")
  pure (reputation ++ relationship ++ content)

/-- Why authored settings are turned down. -/
inductive Rejection
  | conflict (path : List String) : Rejection
  | bad (problems : List Problem) : Rejection
  | fault (why : Fault) : Rejection

/-- The settings tree with authored settings laid over the built-in ones. -/
def load (override : Table) : Except Rejection Table :=
  match Table.merge builtInTree override with
  | (_, some path) => .error (.conflict path)
  | (tree, none) =>
    match check tree with
    | .error why => .error (.fault why)
    | .ok [] => .ok tree
    | .ok problems => .error (.bad problems)

def Rejection.message : Rejection → String
  | .conflict path => conflictMessage path
  | .bad problems => "bad config: " ++ "; ".intercalate (problems.map Problem.message)
  | .fault why => why.message

end Questline.Settings
