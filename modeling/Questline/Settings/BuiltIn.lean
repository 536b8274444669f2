import Questline.Settings

/-! The settings that a story starts from. -/

namespace Questline.Settings

def builtInCoupling (a b : String) (divisor : Int) : Value :=
  .record [("a", a), ("b", b), ("divisor", divisor)]

def builtInTitle (title : String) (threshold : Int) : Value :=
  .record [("title", title), ("threshold", threshold)]

/-- The tree over which authored settings are laid. -/
def builtInTree : Table := [
  (.text "reputation", .record [
    ("MIN", (-100 : Int)),
    ("MAX", (100 : Int)),
    ("COUPLING", .list [
      builtInCoupling "Alliance" "Syndicate" 3,
      builtInCoupling "Mystics" "VoidEntity" 2]),
    ("TITLES", .list [
      builtInTitle "Nemesis" (-100),
      builtInTitle "Hostile" (-50),
      builtInTitle "Unfavorable" (-25),
      builtInTitle "Neutral" (-10),
      builtInTitle "Favorable" 10,
      builtInTitle "Respected" 25,
      builtInTitle "Ally" 50,
      builtInTitle "Hero" 75])]),
  (.text "relationship", .record [
    ("MIN", (0 : Int)),
    ("MAX", (100 : Int)),
    ("INITIAL", (50 : Int)),
    ("LEVELS", .record [
      ("Distrustful", (0 : Int)),
      ("Neutral", (20 : Int)),
      ("Cooperative", (40 : Int)),
      ("Friendly", (70 : Int)),
      ("Devoted", (90 : Int))])]),
  (.text "content", .record [
    ("FILES", .list ["quests.toml", "dialogs.toml"]),
    ("MAIN_QUEST", "quest_main_prologue")]),
  (.text "save", .record [
    ("MAGIC", "STARQUEST"),
    ("FORMAT_VERSION", (1 : Int))])]

def builtIn : Settings := ofTree builtInTree

end Questline.Settings
