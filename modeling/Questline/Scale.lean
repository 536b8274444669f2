import Questline.Fault
import Questline.Settings
import Questline.Text.Case

/-! Names on the two scales: the title of a reputation and the level of a relationship. -/

namespace Questline.Scale

/-- The wording of a title, which has to be there. -/
def wordingOf (t : Title) : Except Fault Value :=
  t.wording.elim (.error (.missingKey (.text "title"))) .ok

/-- The title in order of the settings whose threshold is reached last; below all thresholds the
first title. -/
def reputationTitle (cfg : Settings) (value : Int) : Except Fault Value :=
  match cfg.titles with
  | [] => .error .outOfRange
  | first :: _ => do
    cfg.titles.foldlM (fun title t => if t.threshold ≤ value then wordingOf t else pure title)
      (← wordingOf first)

/-- Inserts a level after all levels whose bound is not greater. -/
def insertLevel (level : String × Int) : List (String × Int) → List (String × Int)
  | [] => [level]
  | l :: rest => if level.2 < l.2 then level :: l :: rest else l :: insertLevel level rest

/-- The levels by bound, lowest first; equal bounds stay in the order of the settings. -/
def sortedLevels (cfg : Settings) : List (String × Int) :=
  cfg.levels.foldl (fun sorted level => insertLevel level sorted) []

/-- The highest level whose bound is reached; below all bounds the lowest level. -/
def relationshipLevel (cfg : Settings) (value : Int) : Except Fault String :=
  match sortedLevels cfg with
  | [] => .error .outOfRange
  | first :: rest =>
    .ok ((first :: rest).foldl (fun level l => if l.2 ≤ value then l.1 else level) first.1)

/-- The lower bound of a level, named in any capitals. -/
def relationshipThreshold (cfg : Settings) (level : String) : Except Fault Int :=
  match cfg.levels.find? fun (name, _) => Text.lower name == Text.lower level with
  | some (_, bound) => .ok bound
  | none => .error (.refused (.unknownLevel level))

end Questline.Scale
