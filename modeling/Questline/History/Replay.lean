import Questline.History.EventLog
import Questline.Outcome.Reading

/-! Rebuilding the ledger from the story so far.  Only what entries say is used: their outcomes
act on the ledger again, then their transitions are put on record; the host is left alone. -/

namespace Questline.Ledger

/-- Puts a transition on record as an entry has it, whatever names the graph. -/
def replayTransition (l : Ledger) (t : Value × Lifecycle) : Except Fault Ledger := do
  let graph ← t.1.readAtom
  pure { l with questState := Assoc.put l.questState graph t.2 }

def replayOutcome (cfg : Settings) (l : Ledger) (data : Table) : Except Fault Ledger := do
  (← Outcome.read (.table data) none).onLedger cfg l

def replayEntry (cfg : Settings) (l : Ledger) (e : Entry) : Except Fault Ledger := do
  let l ← e.outcomes.foldlM (replayOutcome cfg) l
  e.transitions.foldlM replayTransition l

/-- The ledger that some entries lead to, starting from nothing. -/
def replay (cfg : Settings) (entries : List Entry) : Except Fault Ledger :=
  entries.foldlM (replayEntry cfg) empty

end Questline.Ledger
