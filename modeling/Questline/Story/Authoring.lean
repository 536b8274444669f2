import Questline.Graph.Content

/-! The words in which the built-in stories are written: outcomes, requirements, choices, nodes
and graphs in their authored form. -/

namespace Questline.Authoring

def outcome (kind : String) (fields : List (String × Value)) : Value :=
  .record (("kind", .text kind) :: fields)

def setFlag (flag : String) : Value := outcome "set_flag" [("flag", flag)]

def grantExperience (amount : Int) : Value := outcome "grant_experience" [("amount", amount)]

def reputation (faction : String) (amount : Int) : Value :=
  outcome "reputation_delta" [("faction", faction), ("amount", amount)]

def relationship (companion : String) (amount : Int) : Value :=
  outcome "relationship_delta" [("companion", companion), ("amount", amount)]

def giveItem (item : String) : Value := outcome "give_item" [("item", item)]

def removeItem (item : String) : Value := outcome "remove_item" [("item", item)]

def unlockLocation (location : String) : Value :=
  outcome "unlock_location" [("location", location)]

def unlockQuest (quest : String) : Value := outcome "unlock_quest" [("quest", quest)]

def unlockCompanion (companion : String) : Value :=
  outcome "unlock_companion" [("companion", companion)]

def startCombat (encounter : String) : Value := outcome "start_combat" [("encounter", encounter)]

def startPuzzle (encounter : String) : Value := outcome "start_puzzle" [("encounter", encounter)]

def ending (name : String) (fail : Bool) : Value :=
  outcome "trigger_ending" [("ending", name), ("fail", fail)]

def needs (kind : String) (fields : List (String × Value)) : Value :=
  .record (("kind", .text kind) :: fields)

def needsSkill (skill : String) (level : Int) : Value :=
  needs "skill_level" [("skill", skill), ("value", level)]

def needsReputation (faction : String) (level : Int) : Value :=
  needs "faction_level" [("faction", faction), ("value", level)]

/-- A relationship of at least a named level. -/
def needsRelationship (companion level : String) : Value :=
  needs "relationship" [("companion", companion), ("value", level)]

def needsFlag (flag : String) : Value := needs "flag" [("flag", flag)]

def needsNoFlag (flag : String) : Value :=
  needs "flag" [("flag", flag), ("comparator", "not_in")]

def needsQuest (quest : String) : Value := needs "quest_completed" [("quest", quest)]

def needsPresence (location : String) : Value := needs "at_location" [("location", location)]

/-- A field that holds a list, left out when the list is empty. -/
def listField (name : String) (items : List Value) : List (String × Value) :=
  if items.isEmpty then [] else [(name, .list items)]

/-- A choice that leads to a node of the same graph. -/
def toNode (target : String) : List (String × Value) := [("next_node", target)]

/-- A choice that completes its graph and leads to another one. -/
def toGraph (target : String) : List (String × Value) := [("next_graph", target)]

/-- A choice that completes its graph. -/
def toEnd : List (String × Value) := []

def choice (id text : String) (next : List (String × Value)) (requirements outcomes : List Value) :
    Value :=
  .record ([("id", .text id), ("text", .text text)] ++ next ++
    listField "requirements" requirements ++ listField "outcomes" outcomes)

def node (id text : String) (further : List (String × Value)) (choices : List Value) : Value :=
  .record ([("id", .text id), ("text", .text text)] ++ further ++ listField "choices" choices)

def graph (kind title description branch start : String) (further : List (String × Value))
    (nodes : List Value) : Value :=
  .record ([("kind", .text kind), ("title", .text title), ("description", .text description),
    ("branch", .text branch), ("start", .text start)] ++ further ++ [("nodes", .list nodes)])

end Questline.Authoring
