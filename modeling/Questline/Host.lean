import Questline.Fault

/-! The rest of the game, as far as a story reads or writes it: inventory, skills, places,
companions, encounters and the screen.  Each service can be down for some of its calls, and then
fails before it does anything. -/

namespace Questline

/-- Which calls of a service fail, counted from the moment that this was laid down, and how many
have been made since. -/
structure Outage where
  fails : Nat → Bool
  calls : Nat := 0

inductive Encounter
  | combat : Encounter
  | puzzle : Encounter
  deriving DecidableEq

def Encounter.word : Encounter → String
  | .combat => "combat"
  | .puzzle => "puzzle"

structure Host where
  items : Assoc String Int := []
  skills : Assoc String Int := []
  experience : Int := 0
  location : Option String := some "ship"
  unlocked : List String := ["ship"]
  visited : List String := ["ship"]
  relationships : Assoc String Int := []
  companions : List String := []
  encounters : List (Encounter × String) := []
  shownEnding : Option (String × Bool) := none
  outages : Assoc Service Outage := []

/-- A step of the host: it may fail, and what it did before stays done. -/
abbrev HostStep := EStateM Fault Host

namespace Host

/-- A set of names with one more name. -/
def withName (names : List String) (name : String) : List String :=
  if names.contains name then names else names ++ [name]

/-- A host whose player stands at a place, which is therefore unlocked and visited. -/
def startingAt (location : Option String) : Host :=
  { location, unlocked := location.toList, visited := location.toList }

/-- Lets a service fail for its next calls, or for all of them. -/
def breakService (h : Host) (service : Service) (count : Option Nat) : Host :=
  let fails : Nat → Bool := match count with
    | some n => fun call => call < n
    | none => fun _ => true
  { h with outages := Assoc.put h.outages service { fails } }

def mend (h : Host) : Host := { h with outages := [] }

/-- Counts a call of a service and fails if it is down. -/
def call (service : Service) : HostStep Unit := do
  let h ← get
  match Assoc.get? h.outages service with
  | none => pure ()
  | some outage =>
    set { h with outages := Assoc.put h.outages service { outage with calls := outage.calls + 1 } }
    if outage.fails outage.calls then throw (.down service)

def itemCount (h : Host) (item : String) : Int := Assoc.getD h.items item 0

def skillLevel (h : Host) (skill : String) : Int := Assoc.getD h.skills skill 0

def giveItem (item : String) (quantity : Int) : HostStep Unit := do
  call .giveItem
  modify fun h => { h with items := Assoc.put h.items item (h.itemCount item + quantity) }

/-- Takes items away if there are enough; tells whether it did. -/
def removeItem (item : String) (quantity : Int) : HostStep Bool := do
  call .removeItem
  let h ← get
  if h.itemCount item < quantity then return false
  let left := h.itemCount item - quantity
  let items := if left = 0 then Assoc.remove h.items item else Assoc.put h.items item left
  set { h with items }
  return true

def hasItem (item : String) : HostStep Bool := do
  call .hasItem
  return (← get).itemCount item > 0

def grantExperience (amount : Int) : HostStep Unit := do
  call .grantExperience
  modify fun h => { h with experience := h.experience + amount }

def getSkillLevel (skill : String) : HostStep Int := do
  call .getSkillLevel
  return (← get).skillLevel skill

def unlockLocation (location : String) : HostStep Unit := do
  call .unlockLocation
  modify fun h => { h with unlocked := withName h.unlocked location }

def isLocationVisited (location : String) : HostStep Bool := do
  call .isLocationVisited
  return (← get).visited.contains location

def currentLocation : HostStep (Option String) := do
  call .currentLocation
  return (← get).location

/-- Moves the player to a place that is unlocked. -/
def travel (location : String) : HostStep Unit := do
  let h ← get
  if h.unlocked.contains location then
    set { h with location := some location, visited := withName h.visited location }
  else throw (.refused (.locationLocked location))

def getRelationship (companion : String) : HostStep Int := do
  call .getRelationship
  return Assoc.getD (← get).relationships companion 0

def adjustRelationship (companion : String) (change : Int) : HostStep Unit := do
  call .adjustRelationship
  modify fun h => { h with
    relationships :=
      Assoc.put h.relationships companion (Assoc.getD h.relationships companion 0 + change) }

/-- A companion joins, the first time with the given relationship. -/
def unlockCompanion (companion : String) (relationship : Int) : HostStep Unit := do
  call .unlockCompanion
  modify fun h =>
    if h.companions.contains companion then h
    else { h with
      relationships := Assoc.put h.relationships companion relationship
      companions := h.companions ++ [companion] }

def startEncounter (kind : Encounter) (encounter : String) : HostStep Unit := do
  call (match kind with | .combat => .startCombat | .puzzle => .startPuzzle)
  modify fun h => { h with encounters := h.encounters ++ [(kind, encounter)] }

def triggerEnding (ending : String) (failed : Bool) : HostStep Unit := do
  call .triggerEnding
  modify fun h => { h with shownEnding := some (ending, failed) }

end Host

end Questline
