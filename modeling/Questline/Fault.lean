import Questline.Files.Fault
import Questline.Refusal
import Questline.Text.Encoding

/-! What can go wrong in one step, apart from the step's own answer: refusals of a rule, data of
the wrong kind, and services of the host that are down. -/

namespace Questline

/-- The services of the host that a story reads from or writes to. -/
inductive Service
  | giveItem : Service
  | removeItem : Service
  | hasItem : Service
  | grantExperience : Service
  | getSkillLevel : Service
  | unlockLocation : Service
  | isLocationVisited : Service
  | currentLocation : Service
  | getRelationship : Service
  | adjustRelationship : Service
  | unlockCompanion : Service
  | startCombat : Service
  | startPuzzle : Service
  | triggerEnding : Service
  deriving DecidableEq

instance : Vocabulary Service where
  title := "Service"
  members := [.giveItem, .removeItem, .hasItem, .grantExperience, .getSkillLevel,
    .unlockLocation, .isLocationVisited, .currentLocation, .getRelationship,
    .adjustRelationship, .unlockCompanion, .startCombat, .startPuzzle, .triggerEnding]
  name
    | .giveItem => "GIVE_ITEM"
    | .removeItem => "REMOVE_ITEM"
    | .hasItem => "HAS_ITEM"
    | .grantExperience => "GRANT_EXPERIENCE"
    | .getSkillLevel => "GET_SKILL_LEVEL"
    | .unlockLocation => "UNLOCK_LOCATION"
    | .isLocationVisited => "IS_LOCATION_VISITED"
    | .currentLocation => "CURRENT_LOCATION"
    | .getRelationship => "GET_RELATIONSHIP"
    | .adjustRelationship => "ADJUST_RELATIONSHIP"
    | .unlockCompanion => "UNLOCK_COMPANION"
    | .startCombat => "START_COMBAT"
    | .startPuzzle => "START_PUZZLE"
    | .triggerEnding => "TRIGGER_ENDING"
  word
    | .giveItem => "give_item"
    | .removeItem => "remove_item"
    | .hasItem => "has_item"
    | .grantExperience => "grant_experience"
    | .getSkillLevel => "get_skill_level"
    | .unlockLocation => "unlock_location"
    | .isLocationVisited => "is_location_visited"
    | .currentLocation => "current_location"
    | .getRelationship => "get_relationship"
    | .adjustRelationship => "adjust_relationship"
    | .unlockCompanion => "unlock_companion"
    | .startCombat => "start_combat"
    | .startPuzzle => "start_puzzle"
    | .triggerEnding => "trigger_ending"

inductive Fault
  /-- A rule of the program is broken. -/
  | refused (why : Refusal) : Fault
  /-- A request is turned down. -/
  | illegal (why : IllegalChoice) : Fault
  /-- A table lacks a key. -/
  | missingKey (key : Atom) : Fault
  /-- A list is too short. -/
  | outOfRange : Fault
  /-- A value of the wrong kind stands where another kind is needed. -/
  | mistyped : Fault
  /-- A value is asked for something that its kind does not have. -/
  | noSuchMember : Fault
  /-- A text does not read as what it should be. -/
  | unreadable : Fault
  /-- A number is too large for where it should go. -/
  | tooLarge : Fault
  /-- A value is nested too deeply for where it should go. -/
  | tooDeep : Fault
  /-- Something that the program takes for granted does not hold. -/
  | unexpected : Fault
  /-- A service of the host is down. -/
  | down (service : Service) : Fault
  /-- A file cannot be read or written. -/
  | file (why : FileFault) (path : String) : Fault
  /-- A file holds no text. -/
  | notText (why : Text.Undecodable) : Fault

namespace Fault

/-- The wording of a fault; the faults that have none of their own are shown as nothing. -/
def message : Fault → String
  | .refused why => why.message
  | .illegal why => why.message
  | .missingKey key => key.literal
  | .tooDeep => "recursion limit exceeded."
  | .down service => s!"{Vocabulary.word service} is down"
  | .file why path => why.wording path
  | .notText why => why.message
  | .outOfRange | .mistyped | .noSuchMember | .unreadable | .tooLarge | .unexpected => ""

/-- Whether the fault is a matter of bad values, not of the wrong kind of data. -/
def isRefusal : Fault → Bool
  | .refused _ | .illegal _ | .unreadable | .tooDeep | .notText _ => true
  | _ => false

end Fault

end Questline
