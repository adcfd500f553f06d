import Autoresponder.Config.Basic
import Autoresponder.Config.Number
import Autoresponder.Console.Command
import Autoresponder.Conversation.Basic
import Autoresponder.Conversation.Document
import Autoresponder.Conversation.Event
import Autoresponder.Conversation.Locks
import Autoresponder.Decimal.Binary
import Autoresponder.Decimal.Shortest
import Autoresponder.Engine.Calls
import Autoresponder.Engine.Document
import Autoresponder.Engine.Execute
import Autoresponder.Engine.Limit
import Autoresponder.Engine.Outcome
import Autoresponder.Engine.Progress
import Autoresponder.Engine.Respond
import Autoresponder.Engine.Resume
import Autoresponder.Engine.World
import Autoresponder.Error
import Autoresponder.Flow.Basic
import Autoresponder.Flow.Continuation
import Autoresponder.Flow.Document
import Autoresponder.Flow.Node
import Autoresponder.Http.Body
import Autoresponder.Http.Delivery
import Autoresponder.Http.MediaType
import Autoresponder.Http.Route
import Autoresponder.Json.Basic
import Autoresponder.Json.Beginning
import Autoresponder.Json.Decode
import Autoresponder.Json.Number
import Autoresponder.Json.Printer
import Autoresponder.Json.Reader
import Autoresponder.Main
import Autoresponder.Message.Basic
import Autoresponder.Message.Document
import Autoresponder.Message.Sender
import Autoresponder.Message.Window
import Autoresponder.Pattern.Basic
import Autoresponder.Pattern.CharSet
import Autoresponder.Pattern.FoldTable
import Autoresponder.Pattern.PropertyTable
import Autoresponder.Pattern.Reader
import Autoresponder.Proofs.Conversation.Exclusion
import Autoresponder.Proofs.Conversation.Received
import Autoresponder.Proofs.Engine.Address
import Autoresponder.Proofs.Engine.Again
import Autoresponder.Proofs.Engine.Audit
import Autoresponder.Proofs.Engine.Budget
import Autoresponder.Proofs.Engine.Closed
import Autoresponder.Proofs.Engine.Commute
import Autoresponder.Proofs.Engine.Confined
import Autoresponder.Proofs.Engine.Cooldown
import Autoresponder.Proofs.Engine.Copies
import Autoresponder.Proofs.Engine.Counts
import Autoresponder.Proofs.Engine.Delay
import Autoresponder.Proofs.Engine.Effect
import Autoresponder.Proofs.Engine.Entry
import Autoresponder.Proofs.Engine.Forms
import Autoresponder.Proofs.Engine.Leads
import Autoresponder.Proofs.Engine.Lifecycle
import Autoresponder.Proofs.Engine.Limits
import Autoresponder.Proofs.Engine.OpenWindow
import Autoresponder.Proofs.Engine.Overtaken
import Autoresponder.Proofs.Engine.Pointer
import Autoresponder.Proofs.Engine.Polls
import Autoresponder.Proofs.Engine.Replay
import Autoresponder.Proofs.Engine.Retry
import Autoresponder.Proofs.Engine.Route
import Autoresponder.Proofs.Engine.Run
import Autoresponder.Proofs.Engine.Walk
import Autoresponder.Proofs.Flow.Titles
import Autoresponder.Proofs.Flow.Walkable
import Autoresponder.Proofs.Json.Records
import Autoresponder.Proofs.Json.Text
import Autoresponder.Proofs.Rule.Responses
import Autoresponder.Proofs.Schedule.Overnight
import Autoresponder.Proofs.Selection.Precedence
import Autoresponder.Proofs.Store.Documents
import Autoresponder.Proofs.Store.Held
import Autoresponder.Proofs.Store.Kept
import Autoresponder.Proofs.Store.Lossless
import Autoresponder.Proofs.Store.Offered
import Autoresponder.Proofs.Text.Cut
import Autoresponder.Proofs.Text.Surroundings
import Autoresponder.Proofs.Text.Template
import Autoresponder.Proofs.Time.Stored
import Autoresponder.Proofs.Trigger.IgnoringCase
import Autoresponder.Rule.Basic
import Autoresponder.Rule.Document
import Autoresponder.Schedule.Document
import Autoresponder.Schedule.Hours
import Autoresponder.Selection.Basic
import Autoresponder.Selection.Candidate
import Autoresponder.Selection.Document
import Autoresponder.Store.Basic
import Autoresponder.Store.Cell
import Autoresponder.Store.Foreign
import Autoresponder.Store.Row
import Autoresponder.Text.Blank
import Autoresponder.Text.CaseTable
import Autoresponder.Text.Dictionary
import Autoresponder.Text.LowerCase
import Autoresponder.Text.Placeholder
import Autoresponder.Text.Search
import Autoresponder.Text.Variables
import Autoresponder.Time.Calendar
import Autoresponder.Time.Instant
import Autoresponder.Time.Reader
import Autoresponder.Time.Stamp
import Autoresponder.Time.Zone
import Autoresponder.Time.ZoneTable
import Autoresponder.Trigger.Config
import Autoresponder.Trigger.Document
import Autoresponder.Trigger.Kind
import Autoresponder.Uuid
