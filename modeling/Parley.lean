import Parley.CharSet
import Parley.Command.Arguments
import Parley.Command.Files
import Parley.Command.Run
import Parley.Conversation
import Parley.Dialogue.Error
import Parley.Dialogue.Frontier
import Parley.Dialogue.Graph
import Parley.Dialogue.Inspect
import Parley.Dialogue.Item
import Parley.Dialogue.Key
import Parley.Dialogue.Node
import Parley.Dialogue.State
import Parley.Dictionary
import Parley.Game.Config
import Parley.Game.Host
import Parley.Game.Interactive
import Parley.Game.Layers
import Parley.Game.Playthrough
import Parley.Game.Run
import Parley.Json.Fault
import Parley.Json.Printer
import Parley.Json.Reader
import Parley.Json.Record
import Parley.Json.Scan
import Parley.Json.Skip
import Parley.Json.Value
import Parley.Main
import Parley.Modal.Either
import Parley.Modal.Keymap
import Parley.Modal.Stack
import Parley.Numeric.Binary64
import Parley.Numeric.Decimal
import Parley.Numeric.Shortest
import Parley.Output
import Parley.Pattern.CharClass
import Parley.Pattern.Escape
import Parley.Pattern.Expr
import Parley.Pattern.Fault
import Parley.Pattern.Look
import Parley.Pattern.Parser
import Parley.Pattern.Reading
import Parley.Pattern.Search
import Parley.Pattern.Size
import Parley.Random.Keystream
import Parley.Random.Source
import Parley.Scenario.Basic
import Parley.Scenario.Builtin
import Parley.Scenario.File
import Parley.Scenario.Script
import Parley.Scenario.Template
import Parley.Surface.Automated
import Parley.Surface.Basic
import Parley.Surface.Event
import Parley.Surface.Page
import Parley.Surface.Policy
import Parley.Surface.Recorder
import Parley.Surface.Script
import Parley.Surface.Terminal
import Parley.Text.Blank
import Parley.Text.Lines
import Parley.Text.Lowercase
import Parley.Text.Quoted
import Parley.Unicode.Age
import Parley.Unicode.Break
import Parley.Unicode.CaseRun
import Parley.Unicode.Casing
import Parley.Unicode.Category
import Parley.Unicode.Emoji
import Parley.Unicode.Folding
import Parley.Unicode.Grapheme
import Parley.Unicode.Identifier
import Parley.Unicode.Letter
import Parley.Unicode.Property
import Parley.Unicode.Script
import Parley.Unicode.Symbol
import Parley.Unicode.Table
import Parley.Proofs.Conversation.Inversion
import Parley.Proofs.Surface.Page
import Parley.Proofs.Surface.Lawful
import Parley.Proofs.Conversation.History
import Parley.Proofs.Conversation.Coherence
import Parley.Proofs.Conversation.Selection
import Parley.Proofs.Conversation.Accounting
import Parley.Proofs.Conversation.Terminal
import Parley.Proofs.Game.Consistency
import Parley.Proofs.Conversation.Requests
import Parley.Proofs.Scenario.Script
import Parley.Proofs.Conversation.Offers
import Parley.Proofs.Conversation.Automated
import Parley.Proofs.Game.Playthrough
import Parley.Proofs.Scenario.Builtin
import Parley.Proofs.Scenario.Encounter
import Parley.Proofs.Conversation.Protocol
import Parley.Proofs.Conversation.Eligibility
import Parley.Proofs.Conversation.Lockstep
import Parley.Proofs.Conversation.Isolation
import Parley.Proofs.Conversation.Agreement
import Parley.Proofs.Conversation.Ended
import Parley.Proofs.Conversation.FailedVisits
import Parley.Proofs.Surface.Drawing
import Parley.Proofs.Surface.Reports
import Parley.Proofs.Surface.Gestures
import Parley.Proofs.Surface.Picker
import Parley.Proofs.Numeric.Decimal
import Parley.Proofs.Surface.Screen
import Parley.Proofs.Game.Deeds
import Parley.Proofs.Game.Failures
import Parley.Proofs.Modal.Journal
import Parley.Proofs.Dialogue.Counter
import Parley.Proofs.Modal.Discipline
import Parley.Proofs.Scenario.Actions
import Parley.Proofs.Scenario.Template
import Parley.Proofs.Random.Even
import Parley.Proofs.Surface.RandomPolicy
import Parley.Proofs.Surface.ScriptedPolicy
import Parley.Proofs.Game.ScriptedPlay
import Parley.Proofs.Game.RandomPlay
import Parley.Proofs.Json.Number
import Parley.Proofs.Scenario.Guard
import Parley.Proofs.Numeric.Numeral
import Parley.Proofs.Text.Blank
import Parley.Proofs.Text.Lowercase
import Parley.Proofs.Surface.TypedLine
import Parley.Proofs.Command.Arguments
import Parley.Proofs.Json.Quoted
import Parley.Proofs.Json.ReadBack
import Parley.Proofs.Scenario.Keys
