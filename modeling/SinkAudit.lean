import SinkAudit.Audit
import SinkAudit.BucketCheck
import SinkAudit.Calendar
import SinkAudit.CommandLine.Arguments
import SinkAudit.CommandLine.Run
import SinkAudit.Compatibility
import SinkAudit.ConfigurationFile
import SinkAudit.Document.Basic
import SinkAudit.Document.Literal
import SinkAudit.Document.SetOrder
import SinkAudit.Expression.Escape
import SinkAudit.Expression.Fault
import SinkAudit.Expression.Formatted
import SinkAudit.Expression.Grammar
import SinkAudit.Expression.Lexer
import SinkAudit.Expression.Reader
import SinkAudit.Expression.Rule
import SinkAudit.Expression.Token
import SinkAudit.Expression.Tree
import SinkAudit.Failure
import SinkAudit.Field
import SinkAudit.Folder
import SinkAudit.Identifier
import SinkAudit.Json.Reader
import SinkAudit.Json.Writer
import SinkAudit.Log
import SinkAudit.Main
import SinkAudit.Number.Binary64
import SinkAudit.Number.Reading
import SinkAudit.Number.Shortest
import SinkAudit.OrderedMap
import SinkAudit.Outcome
import SinkAudit.Policy
import SinkAudit.Proofs.BucketVerdict
import SinkAudit.Proofs.CommandLine.Arguments
import SinkAudit.Proofs.CommandLine.CheckedBucket
import SinkAudit.Proofs.CommandLine.ExitCode
import SinkAudit.Proofs.CommandLine.JsonOutput
import SinkAudit.Proofs.CommandLine.Loading
import SinkAudit.Proofs.CommandLine.SafeFormats
import SinkAudit.Proofs.CommandLine.Secrets
import SinkAudit.Proofs.CommandLine.SkippedCheck
import SinkAudit.Proofs.CommandLine.Verdict
import SinkAudit.Proofs.Compatibility
import SinkAudit.Proofs.Compatibility.Canonical
import SinkAudit.Proofs.Compatibility.Faults
import SinkAudit.Proofs.Compatibility.Policies
import SinkAudit.Proofs.Compatibility.Walk
import SinkAudit.Proofs.ConfigurationFile
import SinkAudit.Proofs.Json.Ascii
import SinkAudit.Proofs.Json.Nesting
import SinkAudit.Proofs.Json.RoundTrip
import SinkAudit.Proofs.Json.Strings
import SinkAudit.Proofs.OrderedMap
import SinkAudit.Proofs.Outcome
import SinkAudit.Proofs.Outcome.Merge
import SinkAudit.Proofs.Outcome.Views
import SinkAudit.Proofs.Payload
import SinkAudit.Proofs.Policy
import SinkAudit.Proofs.PropertiesFile
import SinkAudit.Proofs.Report
import SinkAudit.Proofs.Report.Layout
import SinkAudit.Proofs.Report.Verbatim
import SinkAudit.Proofs.Session
import SinkAudit.Proofs.Settings
import SinkAudit.Proofs.Settings.Accepted
import SinkAudit.Proofs.Settings.Address
import SinkAudit.Proofs.Settings.RoundTrip
import SinkAudit.Proofs.Snapshot.Conflict
import SinkAudit.Proofs.Snapshot.Fault
import SinkAudit.Proofs.Snapshot.Fieldwise
import SinkAudit.Proofs.Snapshot.Mentions
import SinkAudit.Proofs.Snapshot.Order
import SinkAudit.Proofs.Snapshot.Reading
import SinkAudit.Proofs.Snapshot.Rejection
import SinkAudit.Proofs.Snapshot.Resolution
import SinkAudit.Proofs.Snapshot.Respelled
import SinkAudit.Proofs.Snapshot.Restated
import SinkAudit.Proofs.Snapshot.RoundTrip
import SinkAudit.Proofs.Storage.Adapter
import SinkAudit.Proofs.Storage.Credentials
import SinkAudit.Proofs.Storage.Finding
import SinkAudit.Proofs.StoredReport
import SinkAudit.Proofs.StoredSnapshot
import SinkAudit.Proofs.Terminal.Comparison
import SinkAudit.Proofs.Terminal.Deviation
import SinkAudit.Proofs.Terminal.Layout
import SinkAudit.Proofs.Terminal.Line
import SinkAudit.Proofs.Terminal.Markup
import SinkAudit.Proofs.Terminal.Printing
import SinkAudit.Proofs.Terminal.Rendering
import SinkAudit.Proofs.Terminal.Shown
import SinkAudit.Proofs.Text.Lines
import SinkAudit.Proofs.Text.Printable
import SinkAudit.Proofs.Text.Spelling
import SinkAudit.Proofs.Text.Utf8
import SinkAudit.Proofs.Validator
import SinkAudit.PropertiesFile
import SinkAudit.Report
import SinkAudit.Session
import SinkAudit.Settings.Basic
import SinkAudit.Settings.Environment
import SinkAudit.Snapshot.Basic
import SinkAudit.Snapshot.Coercion
import SinkAudit.Snapshot.Resolution
import SinkAudit.Storage.Adapter
import SinkAudit.Storage.Basic
import SinkAudit.Storage.Client
import SinkAudit.Storage.Service
import SinkAudit.Terminal.Action
import SinkAudit.Terminal.Console
import SinkAudit.Terminal.Line
import SinkAudit.Terminal.Markup
import SinkAudit.Terminal.Style
import SinkAudit.Terminal.Table
import SinkAudit.Terminal.Width
import SinkAudit.Text.Basic
import SinkAudit.Text.Blank
import SinkAudit.Text.Digit
import SinkAudit.Text.Letter
import SinkAudit.Text.Lowercase
import SinkAudit.Text.Printable
import SinkAudit.Text.Quoted
import SinkAudit.Text.Utf8
import SinkAudit.Validator
import SinkAudit.Yaml.Content
import SinkAudit.Yaml.Cursor
import SinkAudit.Yaml.Document
import SinkAudit.Yaml.Lexer
import SinkAudit.Yaml.Node
import SinkAudit.Yaml.ScalarText
import SinkAudit.Yaml.Tag
import SinkAudit.Yaml.Token
