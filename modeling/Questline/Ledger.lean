import Questline.Settings
import Questline.Value.Order
import Questline.Value.Reading

/-! The ledger holds everything a story remembers: flags, the reputation with each faction, how
far each graph has been played, and the relationship with each companion. -/

namespace Questline

structure Ledger where
  flags : List Atom
  reputation : Assoc String Int
  questState : Assoc Atom Lifecycle
  relationship : Assoc String Int
  deriving Inhabited

namespace Ledger

def empty : Ledger := ⟨[], [], [], []⟩

def hasFlag (l : Ledger) (flag : String) : Bool := l.flags.contains (.text flag)

def reputationOf (l : Ledger) (faction : String) : Int := Assoc.getD l.reputation faction 0

/-- A graph that the ledger does not mention has not become available. -/
def stateOf (l : Ledger) (graph : String) : Lifecycle :=
  Assoc.getD l.questState (.text graph) .unavailable

def relationshipWith (l : Ledger) (companion : String) : Int :=
  Assoc.getD l.relationship companion 0

def knowsCompanion (l : Ledger) (companion : String) : Bool := Assoc.has l.relationship companion

def setFlag (l : Ledger) (flag : String) : Ledger :=
  if l.hasFlag flag then l else { l with flags := l.flags ++ [.text flag] }

def clearFlag (l : Ledger) (flag : String) : Ledger :=
  { l with flags := l.flags.filter (· != .text flag) }

/-- Stores a reputation, cut to its bounds. -/
def setReputation (cfg : Settings) (l : Ledger) (faction : String) (value : Int) : Ledger :=
  { l with reputation := Assoc.put l.reputation faction (cfg.reputation.clip value) }

/-- Stores a relationship, cut to its bounds. -/
def setRelationship (cfg : Settings) (l : Ledger) (companion : String) (value : Int) : Ledger :=
  { l with relationship := Assoc.put l.relationship companion (cfg.relationship.clip value) }

def setState (l : Ledger) (graph : String) (state : Lifecycle) : Ledger :=
  { l with questState := Assoc.put l.questState (.text graph) state }

/-- Moves a reputation by an amount. -/
def shiftReputation (cfg : Settings) (l : Ledger) (faction : String) (amount : Int) : Ledger :=
  l.setReputation cfg faction (l.reputationOf faction + amount)

/-- The part of an amount that a coupled faction feels: the opposite, divided towards zero. -/
def induced (amount divisor : Int) : Int := (-amount).tdiv divisor

/-- Moves a reputation and, once, those of the factions coupled with it. -/
def changeReputation (cfg : Settings) (l : Ledger) (faction : String) (amount : Int) : Ledger :=
  (cfg.coupledWith faction).foldl
    (fun l (other, divisor) =>
      if induced amount divisor = 0 then l
      else l.shiftReputation cfg other (induced amount divisor))
    (l.shiftReputation cfg faction amount)

/-- A companion who joins starts with the initial relationship, unless already known. -/
def meetCompanion (cfg : Settings) (l : Ledger) (companion : String) : Ledger :=
  if l.knowsCompanion companion then l
  else l.setRelationship cfg companion cfg.initialRelationship

def changeRelationship (cfg : Settings) (l : Ledger) (companion : String) (amount : Int) : Ledger :=
  l.setRelationship cfg companion (l.relationshipWith companion + amount)

/-- The same flags, reputations, states and relationships, whatever their order. -/
def same (l m : Ledger) : Bool :=
  l.flags.length == m.flags.length && l.flags.all m.flags.contains &&
  Assoc.same l.reputation m.reputation && Assoc.same l.questState m.questState &&
  Assoc.same l.relationship m.relationship

/-- The flags in ascending order; flags of different sorts have none. -/
def sortedFlags (l : Ledger) : Except Fault (List Atom) :=
  Atom.sort l.flags

def scoresTable (scores : Assoc String Int) : Value :=
  .record (scores.map fun (k, n) => (k, .int n))

/-- The ledger as data. -/
def toValue (l : Ledger) : Except Fault Value := do
  let flags ← l.sortedFlags
  pure (.record [
    ("flags", .list (flags.map .atom)),
    ("reputation", scoresTable l.reputation),
    ("quest_state", .table (l.questState.map fun (k, s) => (k, .text s.word))),
    ("relationship", scoresTable l.relationship)])

/-- Distinct atoms of a sequence. -/
def readFlags (v : Value) : Except Fault (List Atom) := do
  (← v.elements).foldlM (fun flags item => return insertNew flags (← item.readAtom)) []
where
  insertNew (flags : List Atom) (a : Atom) : List Atom :=
    if flags.contains a then flags else flags ++ [a]

def readScores (v : Value) : Except Fault (Assoc String Int) := do
  (← v.readFields).foldlM
    (fun scores (k, n) => return Assoc.put scores (Value.atom k).plain (← n.readInt)) []

/-- Lifecycle states by graph. -/
def readStates (v : Value) : Except Fault (Assoc String Lifecycle) := do
  (← v.readFields).foldlM
    (fun states (k, s) => return Assoc.put states (Value.atom k).plain (← s.readWord Lifecycle)) []

/-- Reads a ledger; what is left out is empty. -/
def ofValue (v : Value) : Except Fault Ledger := do
  let flags ← readFlags (← v.getD "flags" (.list []))
  let reputation ← readScores (← v.getD "reputation" (.table []))
  let states ← readStates (← v.getD "quest_state" (.table []))
  let relationship ← readScores (← v.getD "relationship" (.table []))
  pure ⟨flags, reputation, states.map fun (k, s) => (.text k, s), relationship⟩

/-- The ledger as one line, for reports. -/
def describe (l : Ledger) : Except Fault String := do
  let flags ← l.sortedFlags
  let states := Value.table (l.questState.map fun (k, s) => (k, .text s.word))
  pure ("WorldLedger(flags=" ++ (Value.list (flags.map .atom)).literal ++
    ", reputation=" ++ (scoresTable l.reputation).literal ++
    ", quest_state=" ++ states.literal ++
    ", relationship=" ++ (scoresTable l.relationship).literal ++ ")")

end Ledger

end Questline
