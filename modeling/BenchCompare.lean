import BenchCompare.AddressBar
import BenchCompare.Api.Client
import BenchCompare.Api.Failure
import BenchCompare.Api.RequestTarget
import BenchCompare.App
import BenchCompare.Catalog
import BenchCompare.CommandLine.Invocation
import BenchCompare.CommandLine.Run
import BenchCompare.CommandLine.Setting
import BenchCompare.Config
import BenchCompare.Decimal.Double
import BenchCompare.Decimal.Fixed
import BenchCompare.Decimal.Shortest
import BenchCompare.Json.Numeral
import BenchCompare.Json.Printer
import BenchCompare.Json.Reader
import BenchCompare.Json.Value
import BenchCompare.Loader
import BenchCompare.Main
import BenchCompare.Metric
import BenchCompare.Page
import BenchCompare.Params
import BenchCompare.Payload
import BenchCompare.Picker
import BenchCompare.Query.Basic
import BenchCompare.Query.Form
import BenchCompare.Report.Basic
import BenchCompare.Report.Table
import BenchCompare.Screen.Area
import BenchCompare.Screen.Frame
import BenchCompare.Screen.Line
import BenchCompare.Screen.Wrap
import BenchCompare.Session
import BenchCompare.Shortcut.Bindings
import BenchCompare.Shortcut.Chord
import BenchCompare.Shortcut.Key
import BenchCompare.Terminal.Keyboard
import BenchCompare.Terminal.Plain
import BenchCompare.Text.Blank
import BenchCompare.Text.CaseTable
import BenchCompare.Text.Casing
import BenchCompare.Text.Cluster
import BenchCompare.Text.ClusterTable
import BenchCompare.Text.Column
import BenchCompare.Text.Quoted
import BenchCompare.Text.Ranges
import BenchCompare.Text.Search
import BenchCompare.Text.Utf8
import BenchCompare.Text.VisibleTable
import BenchCompare.Text.Width
import BenchCompare.Text.WidthTable
import BenchCompare.Timestamp.Basic
import BenchCompare.Timestamp.Calendar
import BenchCompare.View.Comparison
import BenchCompare.View.Dashboard
import BenchCompare.View.PickerDialog
import BenchCompare.Proofs.Query.Form
import BenchCompare.Proofs.Loader.Coherence
import BenchCompare.Proofs.Page.Run
import BenchCompare.Proofs.Query.Write
import BenchCompare.Proofs.Page.Answers
import BenchCompare.Proofs.Page.Order
import BenchCompare.Proofs.Page.Sharing
import BenchCompare.Proofs.Page.Changes
import BenchCompare.Proofs.CommandLine.Compare
import BenchCompare.Proofs.Picker.Choice
import BenchCompare.Proofs.Picker.Run
import BenchCompare.Proofs.Picker.Highlight
import BenchCompare.Proofs.App.Run
import BenchCompare.Proofs.App.Selection
import BenchCompare.Proofs.App.Loads
import BenchCompare.Proofs.App.Highlight
import BenchCompare.Proofs.App.Deliveries
import BenchCompare.Proofs.Query.Places
import BenchCompare.Proofs.Report.Canonical
import BenchCompare.Proofs.Loader.Effects
import BenchCompare.Proofs.Api.Endpoint
import BenchCompare.Proofs.Query.OtherKind
import BenchCompare.Proofs.App.Opening
import BenchCompare.Proofs.App.Typing
import BenchCompare.Proofs.Picker.Listing
import BenchCompare.Proofs.Json.Quote
import BenchCompare.Proofs.Json.Numeral
import BenchCompare.Proofs.Json.Pretty
import BenchCompare.Proofs.CommandLine.Refs
import BenchCompare.Proofs.Double.Basic
import BenchCompare.Proofs.Double.Rounding
import BenchCompare.Proofs.Double.Arithmetic
import BenchCompare.Proofs.Double.Range
import BenchCompare.Proofs.Metric.Delta
import BenchCompare.Proofs.Metric.Trend
import BenchCompare.Proofs.Picker.Matching
import BenchCompare.Proofs.Text.Casing
import BenchCompare.Proofs.Picker.Finding
import BenchCompare.Proofs.Picker.Arrows
import BenchCompare.Proofs.App.Entering
import BenchCompare.Proofs.Catalog.Title
import BenchCompare.Proofs.Picker.Closed
import BenchCompare.Proofs.Picker.Placeholder
import BenchCompare.Proofs.Shortcut.Grammar
import BenchCompare.Proofs.Shortcut.Label
import BenchCompare.Proofs.Shortcut.Mounting
import BenchCompare.Proofs.AddressBar.History
import BenchCompare.Proofs.Query.Cleaning
import BenchCompare.Proofs.App.Workloads
import BenchCompare.Proofs.Timestamp.Calendar
import BenchCompare.Proofs.Timestamp.Reading
import BenchCompare.Proofs.Timestamp.Shown
import BenchCompare.Proofs.App.Scrolling
import BenchCompare.Proofs.View.Dialog
import BenchCompare.Proofs.View.ListWindow
import BenchCompare.Proofs.Decimal.Fixed
import BenchCompare.Proofs.Report.Columns
import BenchCompare.Proofs.Picker.WordScore
