import HintLine.Main
import HintLine.Proofs.Collector.History
import HintLine.Proofs.Collector.Reports
import HintLine.Proofs.Echo.Line
import HintLine.Proofs.Echo.Feeds
import HintLine.Proofs.Hint.Label
import HintLine.Proofs.Hint.Decoration
import HintLine.Proofs.Hint.Grouping
import HintLine.Proofs.Session.Requests
import HintLine.Proofs.Session.Hold
import HintLine.Proofs.Session.Steps
import HintLine.Proofs.Session.Shown
import HintLine.Proofs.Session.Coherence
import HintLine.Proofs.Session.Numbering
import HintLine.Proofs.Session.Schedule
import HintLine.Proofs.Session.Order
import HintLine.Proofs.Session.Clearing
import HintLine.Proofs.Session.Turns
import HintLine.Proofs.Session.Effects
import HintLine.Proofs.Session.Attachment
import HintLine.Proofs.Session.Calls
import HintLine.Proofs.Session.Tasks
import HintLine.Proofs.Session.Waiting
import HintLine.Proofs.Session.Handling
import HintLine.Proofs.Session.Delivery
import HintLine.Proofs.Text.Utf8
import HintLine.Proofs.Tree.Words
import HintLine.Proofs.Hint.Value
import HintLine.Proofs.Settings.Read
import HintLine.Proofs.Log.Sinks
import HintLine.Proofs.Terminal.Feeds
import HintLine.Proofs.Terminal.Plain
import HintLine.Proofs.Command.Conduct
import HintLine.Proofs.Command.CleanUp
import HintLine.Proofs.Command.Ask
import HintLine.Proofs.Command.Output
import HintLine.Proofs.InStep
import HintLine.Proofs.Session.Akin
import HintLine.Proofs.Command.Prepare
import HintLine.Proofs.Settings.Readers
import HintLine.Proofs.Command.Stages
import HintLine.Proofs.Command.Enabling
import HintLine.Proofs.Command.Agreement
import HintLine.Proofs.Hint.Bucket
import HintLine.Proofs.Echo.Decoding
import HintLine.Proofs.Session.Coverage
import HintLine.Proofs.Tree.Store
