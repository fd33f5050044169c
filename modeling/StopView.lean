import StopView.Address
import StopView.Backtrace
import StopView.Batch
import StopView.Chain
import StopView.Command
import StopView.Command.Similarity
import StopView.Count
import StopView.Destination
import StopView.Failure
import StopView.FileSystem
import StopView.Hex
import StopView.Inspector
import StopView.Inspector.Script
import StopView.Lifecycle
import StopView.Logging
import StopView.Logging.Failure
import StopView.Logging.Filter
import StopView.Logging.Format
import StopView.Logging.Level
import StopView.Logging.Pattern
import StopView.Logging.Pattern.Class
import StopView.Logging.Pattern.Group
import StopView.Logging.Pattern.Mode
import StopView.Notice
import StopView.OsError
import StopView.Palette
import StopView.Path
import StopView.Proofs.Backtrace.Listing
import StopView.Proofs.Backtrace.Walk
import StopView.Proofs.Backtrace.Window
import StopView.Proofs.Batch.Colour
import StopView.Proofs.Batch.Grouping
import StopView.Proofs.Batch.Share
import StopView.Proofs.Chain
import StopView.Proofs.Command
import StopView.Proofs.Count
import StopView.Proofs.Delivery
import StopView.Proofs.Delivery.Alike
import StopView.Proofs.Delivery.Attempt
import StopView.Proofs.Delivery.Calls
import StopView.Proofs.Delivery.ReadBack
import StopView.Proofs.FileSystem.Alike
import StopView.Proofs.FileSystem.ReadBack
import StopView.Proofs.Lifecycle.Arrival
import StopView.Proofs.Lifecycle.Boundary
import StopView.Proofs.Lifecycle.Colour
import StopView.Proofs.Lifecycle.Message
import StopView.Proofs.Lifecycle.Replay
import StopView.Proofs.Logging.Filter
import StopView.Proofs.Logging.Pattern
import StopView.Proofs.Logging.Sinks
import StopView.Proofs.Logging.Written
import StopView.Proofs.Register.Flags
import StopView.Proofs.Register.History
import StopView.Proofs.Register.Lines
import StopView.Proofs.Register.Selection
import StopView.Proofs.Request
import StopView.Proofs.Section.Alone
import StopView.Proofs.Section.Code
import StopView.Proofs.Section.Colour
import StopView.Proofs.Section.Painted
import StopView.Proofs.Session.Answers
import StopView.Proofs.Session.Colour
import StopView.Proofs.Session.ColourRun
import StopView.Proofs.Session.ColourStep
import StopView.Proofs.Session.Commands
import StopView.Proofs.Session.Delivered
import StopView.Proofs.Session.Deliveries
import StopView.Proofs.Session.Isolation
import StopView.Proofs.Session.Notices
import StopView.Proofs.Session.Order
import StopView.Proofs.Session.Range
import StopView.Proofs.Session.Rendering
import StopView.Proofs.Session.Requests
import StopView.Proofs.Session.Settings
import StopView.Proofs.Session.Stationary
import StopView.Proofs.Session.Step
import StopView.Proofs.Session.View
import StopView.Proofs.Settings.Held
import StopView.Proofs.Settings.Order
import StopView.Proofs.Settings.Reading
import StopView.Proofs.Settings.Spelling
import StopView.Proofs.Source.Alike
import StopView.Proofs.Source.History
import StopView.Proofs.Source.Kept
import StopView.Proofs.Source.Window
import StopView.Proofs.Symbol.Display
import StopView.Proofs.Symbol.Hashed
import StopView.Proofs.Symbol.Reading
import StopView.Proofs.Symbol.Writing
import StopView.Proofs.Text.Case
import StopView.Proofs.Text.Escape
import StopView.Proofs.Text.Lines
import StopView.Proofs.Text.Styles
import StopView.Proofs.Text.Trim
import StopView.Proofs.Text.Words
import StopView.Register.Flags
import StopView.Register.Layout
import StopView.Register.Snapshot
import StopView.Register.View
import StopView.Report
import StopView.Section
import StopView.Section.Block
import StopView.Session
import StopView.Session.Operation
import StopView.Session.Run
import StopView.Settings
import StopView.Settings.Change
import StopView.Source.Cache
import StopView.Source.Window
import StopView.Symbol
import StopView.Symbol.Cursor
import StopView.Symbol.Hashed
import StopView.Symbol.Press
import StopView.Symbol.Punycode
import StopView.Symbol.Structured
import StopView.Text.Alphanumeric
import StopView.Text.Blank
import StopView.Text.CaseRun
import StopView.Text.Cased
import StopView.Text.Column
import StopView.Text.Controls
import StopView.Text.Figure
import StopView.Text.Hidden
import StopView.Text.Lower
import StopView.Text.Pieces
import StopView.Text.Quoted
import StopView.Text.Span
import StopView.Text.Upper
import StopView.Text.Utf8
import StopView.World
