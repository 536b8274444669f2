import Questline.Assoc
import Questline.CommandLine
import Questline.CommandLine.Options
import Questline.Console
import Questline.Decimal.Binary
import Questline.Decimal.Numeral
import Questline.Decimal.Shortest
import Questline.Drawing
import Questline.Drawing.Dot
import Questline.Engine
import Questline.Engine.Saved
import Questline.Fault
import Questline.Files
import Questline.Files.Fault
import Questline.Graph
import Questline.Graph.Content
import Questline.Graph.Problem
import Questline.Graph.Reading
import Questline.Graph.Validation
import Questline.History.Entry
import Questline.History.EventLog
import Questline.History.Replay
import Questline.Host
import Questline.Ledger
import Questline.Main
import Questline.MessagePack
import Questline.MessagePack.Decode
import Questline.Outcome
import Questline.Outcome.Reading
import Questline.Proofs.Acceptance
import Questline.Proofs.Accounts
import Questline.Proofs.Acts
import Questline.Proofs.Agreement
import Questline.Proofs.Answering
import Questline.Proofs.Authoring
import Questline.Proofs.Availability
import Questline.Proofs.Beginning
import Questline.Proofs.Breakdowns
import Questline.Proofs.Bytes
import Questline.Proofs.Calls
import Questline.Proofs.Chaining
import Questline.Proofs.Clearing
import Questline.Proofs.Closing
import Questline.Proofs.Companions
import Questline.Proofs.Confinement
import Questline.Proofs.Connections
import Questline.Proofs.Consistency
import Questline.Proofs.Coupling
import Questline.Proofs.Course
import Questline.Proofs.Dates
import Questline.Proofs.Dispatch
import Questline.Proofs.Drawings
import Questline.Proofs.Encoding
import Questline.Proofs.Endings
import Questline.Proofs.Entries
import Questline.Proofs.Epilogue
import Questline.Proofs.Faltering
import Questline.Proofs.Faults
import Questline.Proofs.Files
import Questline.Proofs.Floats
import Questline.Proofs.Games
import Questline.Proofs.History
import Questline.Proofs.Instances
import Questline.Proofs.Interruptions
import Questline.Proofs.Judging
import Questline.Proofs.Ledgers
import Questline.Proofs.Lifecycles
import Questline.Proofs.Logs
import Questline.Proofs.Malformed
import Questline.Proofs.Merging
import Questline.Proofs.Numerals
import Questline.Proofs.Obeying
import Questline.Proofs.Overdue
import Questline.Proofs.Overrides
import Questline.Proofs.Packing
import Questline.Proofs.Plays
import Questline.Proofs.Presenting
import Questline.Proofs.Promotion
import Questline.Proofs.Prompting
import Questline.Proofs.Queries
import Questline.Proofs.Quiet
import Questline.Proofs.Ranges
import Questline.Proofs.Reaching
import Questline.Proofs.Reading
import Questline.Proofs.Registration
import Questline.Proofs.Replacing
import Questline.Proofs.Replaying
import Questline.Proofs.Reporting
import Questline.Proofs.Requests
import Questline.Proofs.Restoration
import Questline.Proofs.Results
import Questline.Proofs.Resuming
import Questline.Proofs.Retelling
import Questline.Proofs.RoundTrip
import Questline.Proofs.Safety
import Questline.Proofs.SaveFiles
import Questline.Proofs.Saving
import Questline.Proofs.Scales
import Questline.Proofs.Scores
import Questline.Proofs.Scripts
import Questline.Proofs.Searching
import Questline.Proofs.Shapes
import Questline.Proofs.Sorting
import Questline.Proofs.Spellings
import Questline.Proofs.Steps
import Questline.Proofs.Tables
import Questline.Proofs.Transcribing
import Questline.Proofs.Transitions
import Questline.Proofs.Truncation
import Questline.Proofs.TwinCalls
import Questline.Proofs.Twins
import Questline.Proofs.Typing
import Questline.Proofs.Unpacking
import Questline.Proofs.Usability
import Questline.Proofs.Visiting
import Questline.Proofs.Walk
import Questline.Proofs.Wording
import Questline.Proofs.Writing
import Questline.Refusal
import Questline.Requirement
import Questline.Requirement.Reading
import Questline.Save
import Questline.Save.Date
import Questline.Save.Date.Reading
import Questline.Scale
import Questline.Session
import Questline.Session.Availability
import Questline.Session.Dispatch
import Questline.Session.View
import Questline.Session.Walk
import Questline.Settings
import Questline.Settings.BuiltIn
import Questline.Settings.Check
import Questline.Settings.Merge
import Questline.Story.Authoring
import Questline.Story.BuiltIn
import Questline.Story.Dialogues
import Questline.Story.Quests
import Questline.Text.Blank
import Questline.Text.Case
import Questline.Text.CaseTable
import Questline.Text.Digit
import Questline.Text.DigitTable
import Questline.Text.Encoding
import Questline.Text.Letter
import Questline.Text.LetterTable
import Questline.Text.PrintableTable
import Questline.Text.Quoted
import Questline.Text.Spelling
import Questline.Toml
import Questline.Toml.Array
import Questline.Toml.Entry
import Questline.Toml.Fault
import Questline.Toml.Header
import Questline.Toml.Number
import Questline.Toml.Outline
import Questline.Toml.Quotes
import Questline.Value
import Questline.Value.Notation
import Questline.Value.Order
import Questline.Value.Reading
import Questline.Vocabulary
