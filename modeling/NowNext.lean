import NowNext.Time.Reader
import NowNext.Time.Written
import NowNext.Time.LeadTime
import NowNext.Event.Basic
import NowNext.Fault
import NowNext.Status
import NowNext.Json.Value
import NowNext.Text.Hex
import NowNext.Json.Reader
import NowNext.Json.Printer
import NowNext.Event.Written
import NowNext.Board.Basic
import NowNext.Board.Channel
import NowNext.Unicode.Ranges
import NowNext.Unicode.Category
import NowNext.Unicode.Script
import NowNext.Unicode.Property
import NowNext.Unicode.Age
import NowNext.Unicode.Break
import NowNext.Unicode.Word
import NowNext.Unicode.Fold
import NowNext.Unicode.Latest
import NowNext.Unicode.Query
import NowNext.Pattern.CharClass
import NowNext.Pattern.Basic
import NowNext.Pattern.Search
import NowNext.Pattern.Bytes
import NowNext.Pattern.Outline
import NowNext.Pattern.Program
import NowNext.Pattern.Size
import NowNext.Pattern.Expr.Basic
import NowNext.Pattern.Expr.Reader
import NowNext.Pattern.Expr.Meaning
import NowNext.Filter.Words
import NowNext.Filter.Basic
import NowNext.Filter.Settings
import NowNext.Calendar.Basic
import NowNext.Calendar.Agenda
import NowNext.Board.Resolve
import NowNext.Text.Quoted
import NowNext.Feed.Basic
import NowNext.Keeper.Phase
import NowNext.Log.Notice
import NowNext.Keeper.Alarm
import NowNext.Keeper.Basic
import NowNext.Keeper.Run
import NowNext.Feed.Link
import NowNext.Relay.Basic
import NowNext.Toml.Value
import NowNext.Toml.Table
import NowNext.Toml.Scalar
import NowNext.Toml.Reader
import NowNext.Files.Path
import NowNext.Files.Disk
import NowNext.Files.EventsFile
import NowNext.Daemon.Watcher
import NowNext.Daemon.Settings
import NowNext.Log.Directives
import NowNext.Log.Line
import NowNext.Daemon.Session
import NowNext.Main
import NowNext.Proofs.Time.Order
import NowNext.Proofs.Calendar.Answers
import NowNext.Proofs.Board.Boundary
import NowNext.Proofs.Board.Hidden
import NowNext.Proofs.Time.Reference
import NowNext.Proofs.Keeper.Aligned
import NowNext.Proofs.Keeper.Fresh
import NowNext.Proofs.Keeper.Runs
import NowNext.Proofs.Keeper.Meanwhile
import NowNext.Proofs.Keeper.Histories
import NowNext.Proofs.Keeper.Consistent
import NowNext.Proofs.Keeper.Acts
import NowNext.Proofs.Daemon.Tracking
import NowNext.Proofs.Keeper.Certified
import NowNext.Proofs.Keeper.Ledger
import NowNext.Proofs.Keeper.Disposal
import NowNext.Proofs.Keeper.Outlook
import NowNext.Proofs.Keeper.Abreast
import NowNext.Proofs.Keeper.Afresh
import NowNext.Proofs.Keeper.Moves
import NowNext.Proofs.Keeper.Reports
import NowNext.Proofs.Calendar.Scan
import NowNext.Proofs.Board.Remaining
import NowNext.Proofs.Keeper.Rest
import NowNext.Proofs.Keeper.Endings
import NowNext.Proofs.Keeper.Queries
import NowNext.Proofs.Keeper.Broken
import NowNext.Proofs.Keeper.Timekeeping
import NowNext.Proofs.Filter.Words
import NowNext.Proofs.Filter.Expression
import NowNext.Proofs.Pattern.Room
import NowNext.Proofs.Files.Validation
import NowNext.Proofs.Daemon.Syncs
import NowNext.Proofs.Files.RoundTrip
import NowNext.Proofs.Time.Lead
import NowNext.Proofs.Board.Channels
import NowNext.Proofs.Relay.Delivery
