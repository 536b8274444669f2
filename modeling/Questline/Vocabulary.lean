import Questline.Text.Spelling

/-! The closed sets of words in which stories are written.  Every member has a name in capitals,
by which it is looked up whatever the spelling, and the word under which it is stored. -/

namespace Questline

/-- A closed set of words. -/
class Vocabulary (α : Type) where
  /-- What the set is called in messages. -/
  title : String
  /-- All members, in order. -/
  members : List α
  /-- The name in capitals. -/
  name : α → String
  /-- The word under which a member is stored. -/
  word : α → String

namespace Vocabulary

variable {α : Type} [Vocabulary α]

/-- The member whose name this is, in snake case or camel case and in any capitals. -/
def ofSpelling? (spelling : String) : Option α :=
  (members : List α).find? fun a => name a == Text.Spelling.constant spelling

def ofWord? (s : String) : Option α := (members : List α).find? fun a => word a == s

end Vocabulary

inductive Faction
  | alliance : Faction
  | syndicate : Faction
  | settlers : Faction
  | mystics : Faction
  | independent : Faction
  | voidEntity : Faction
  deriving DecidableEq, Inhabited

instance : Vocabulary Faction where
  title := "Faction"
  members := [.alliance, .syndicate, .settlers, .mystics, .independent, .voidEntity]
  name
    | .alliance => "ALLIANCE"
    | .syndicate => "SYNDICATE"
    | .settlers => "SETTLERS"
    | .mystics => "MYSTICS"
    | .independent => "INDEPENDENT"
    | .voidEntity => "VOID_ENTITY"
  word
    | .alliance => "Alliance"
    | .syndicate => "Syndicate"
    | .settlers => "Settlers"
    | .mystics => "Mystics"
    | .independent => "Independent"
    | .voidEntity => "VoidEntity"

namespace Faction

/-- The words of all factions in alphabetical order. -/
def words : List String :=
  ["Alliance", "Independent", "Mystics", "Settlers", "Syndicate", "VoidEntity"]

def isWord (s : String) : Bool := words.contains s

end Faction

/-- How far a graph has been played. -/
inductive Lifecycle
  | unavailable : Lifecycle
  | available : Lifecycle
  | inProgress : Lifecycle
  | completed : Lifecycle
  | failed : Lifecycle
  deriving DecidableEq, Inhabited

instance : Vocabulary Lifecycle where
  title := "Lifecycle"
  members := [.unavailable, .available, .inProgress, .completed, .failed]
  name
    | .unavailable => "UNAVAILABLE"
    | .available => "AVAILABLE"
    | .inProgress => "IN_PROGRESS"
    | .completed => "COMPLETED"
    | .failed => "FAILED"
  word
    | .unavailable => "unavailable"
    | .available => "available"
    | .inProgress => "in_progress"
    | .completed => "completed"
    | .failed => "failed"

/-- What a requirement asks about. -/
inductive RequirementKind
  | item : RequirementKind
  | skillLevel : RequirementKind
  | factionLevel : RequirementKind
  | flag : RequirementKind
  | locationVisited : RequirementKind
  | questCompleted : RequirementKind
  | relationship : RequirementKind
  | atLocation : RequirementKind
  deriving DecidableEq, Inhabited

instance : Vocabulary RequirementKind where
  title := "RequirementKind"
  members := [.item, .skillLevel, .factionLevel, .flag, .locationVisited, .questCompleted,
    .relationship, .atLocation]
  name
    | .item => "ITEM"
    | .skillLevel => "SKILL_LEVEL"
    | .factionLevel => "FACTION_LEVEL"
    | .flag => "FLAG"
    | .locationVisited => "LOCATION_VISITED"
    | .questCompleted => "QUEST_COMPLETED"
    | .relationship => "RELATIONSHIP"
    | .atLocation => "AT_LOCATION"
  word
    | .item => "item"
    | .skillLevel => "skill_level"
    | .factionLevel => "faction_level"
    | .flag => "flag"
    | .locationVisited => "location_visited"
    | .questCompleted => "quest_completed"
    | .relationship => "relationship"
    | .atLocation => "at_location"

namespace RequirementKind

/-- Kinds that compare a number; the others ask for a fact. -/
def isNumeric : RequirementKind → Bool
  | .skillLevel | .factionLevel | .relationship => true
  | _ => false

/-- The authored field that names what the requirement is about. -/
def subjectField : RequirementKind → String
  | .item => "item"
  | .skillLevel => "skill"
  | .factionLevel => "faction"
  | .flag => "flag"
  | .locationVisited => "location"
  | .questCompleted => "quest"
  | .relationship => "companion"
  | .atLocation => "location"

end RequirementKind

inductive Comparator
  | atLeast : Comparator
  | equal : Comparator
  | holds : Comparator
  | fails : Comparator
  deriving DecidableEq, Inhabited

instance : Vocabulary Comparator where
  title := "Comparator"
  members := [.atLeast, .equal, .holds, .fails]
  name
    | .atLeast => "GTE"
    | .equal => "EQ"
    | .holds => "IN"
    | .fails => "NOT_IN"
  word
    | .atLeast => ">="
    | .equal => "=="
    | .holds => "in"
    | .fails => "not_in"

/-- Whether the comparator compares numbers; the others ask whether a fact holds. -/
def Comparator.isNumeric : Comparator → Bool
  | .atLeast | .equal => true
  | .holds | .fails => false

/-- What an outcome does. -/
inductive OutcomeKind
  | grantExperience : OutcomeKind
  | reputationDelta : OutcomeKind
  | setFlag : OutcomeKind
  | clearFlag : OutcomeKind
  | giveItem : OutcomeKind
  | removeItem : OutcomeKind
  | unlockLocation : OutcomeKind
  | unlockQuest : OutcomeKind
  | unlockCompanion : OutcomeKind
  | relationshipDelta : OutcomeKind
  | startCombat : OutcomeKind
  | startPuzzle : OutcomeKind
  | triggerEnding : OutcomeKind
  deriving DecidableEq, Inhabited

instance : Vocabulary OutcomeKind where
  title := "OutcomeKind"
  members := [.grantExperience, .reputationDelta, .setFlag, .clearFlag, .giveItem, .removeItem,
    .unlockLocation, .unlockQuest, .unlockCompanion, .relationshipDelta, .startCombat,
    .startPuzzle, .triggerEnding]
  name
    | .grantExperience => "GRANT_EXPERIENCE"
    | .reputationDelta => "REPUTATION_DELTA"
    | .setFlag => "SET_FLAG"
    | .clearFlag => "CLEAR_FLAG"
    | .giveItem => "GIVE_ITEM"
    | .removeItem => "REMOVE_ITEM"
    | .unlockLocation => "UNLOCK_LOCATION"
    | .unlockQuest => "UNLOCK_QUEST"
    | .unlockCompanion => "UNLOCK_COMPANION"
    | .relationshipDelta => "RELATIONSHIP_DELTA"
    | .startCombat => "START_COMBAT"
    | .startPuzzle => "START_PUZZLE"
    | .triggerEnding => "TRIGGER_ENDING"
  word
    | .grantExperience => "grant_experience"
    | .reputationDelta => "reputation_delta"
    | .setFlag => "set_flag"
    | .clearFlag => "clear_flag"
    | .giveItem => "give_item"
    | .removeItem => "remove_item"
    | .unlockLocation => "unlock_location"
    | .unlockQuest => "unlock_quest"
    | .unlockCompanion => "unlock_companion"
    | .relationshipDelta => "relationship_delta"
    | .startCombat => "start_combat"
    | .startPuzzle => "start_puzzle"
    | .triggerEnding => "trigger_ending"

namespace OutcomeKind

/-- The authored field that names what the outcome is done to. -/
def targetField? : OutcomeKind → Option String
  | .grantExperience => none
  | .reputationDelta => some "faction"
  | .setFlag | .clearFlag => some "flag"
  | .giveItem | .removeItem => some "item"
  | .unlockLocation => some "location"
  | .unlockQuest => some "quest"
  | .unlockCompanion | .relationshipDelta => some "companion"
  | .startCombat | .startPuzzle => some "encounter"
  | .triggerEnding => some "ending"

/-- The authored field that says how much, and what it is when left out. -/
def amountField? : OutcomeKind → Option (String × Option Int)
  | .grantExperience | .reputationDelta | .relationshipDelta => some ("amount", none)
  | .giveItem | .removeItem => some ("quantity", some 1)
  | _ => none

/-- Kinds whose amount must be positive. -/
def needsPositive : OutcomeKind → Bool
  | .giveItem | .removeItem | .grantExperience => true
  | _ => false

end OutcomeKind

/-- What a log entry records. -/
inductive EntryKind
  | choice : EntryKind
  | start : EntryKind
  | external : EntryKind
  | abandon : EntryKind
  | refresh : EntryKind
  | newGame : EntryKind
  deriving DecidableEq, Inhabited

instance : Vocabulary EntryKind where
  title := "EntryKind"
  members := [.choice, .start, .external, .abandon, .refresh, .newGame]
  name
    | .choice => "CHOICE"
    | .start => "START"
    | .external => "EXTERNAL"
    | .abandon => "ABANDON"
    | .refresh => "REFRESH"
    | .newGame => "NEW_GAME"
  word
    | .choice => "choice"
    | .start => "start"
    | .external => "external"
    | .abandon => "abandon"
    | .refresh => "refresh"
    | .newGame => "new_game"

inductive GraphKind
  | quest : GraphKind
  | dialogue : GraphKind
  deriving DecidableEq, Inhabited

instance : Vocabulary GraphKind where
  title := "GraphKind"
  members := [.quest, .dialogue]
  name
    | .quest => "QUEST"
    | .dialogue => "DIALOGUE"
  word
    | .quest => "quest"
    | .dialogue => "dialogue"

abbrev Faction.word : Faction → String := Vocabulary.word

abbrev Lifecycle.word : Lifecycle → String := Vocabulary.word

abbrev RequirementKind.word : RequirementKind → String := Vocabulary.word

abbrev RequirementKind.name : RequirementKind → String := Vocabulary.name

abbrev Comparator.word : Comparator → String := Vocabulary.word

abbrev Comparator.name : Comparator → String := Vocabulary.name

abbrev OutcomeKind.word : OutcomeKind → String := Vocabulary.word

abbrev OutcomeKind.name : OutcomeKind → String := Vocabulary.name

abbrev EntryKind.word : EntryKind → String := Vocabulary.word

abbrev EntryKind.name : EntryKind → String := Vocabulary.name

abbrev GraphKind.word : GraphKind → String := Vocabulary.word

end Questline
