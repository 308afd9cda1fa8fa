import Curfew.Allowance.Record
import Curfew.Allowance.Tracker
import Curfew.Config.Days
import Curfew.Config.Decode
import Curfew.Config.Policy
import Curfew.Config.Raw
import Curfew.Config.Report
import Curfew.Config.Validation
import Curfew.Countdown
import Curfew.Daemon.Arguments
import Curfew.Daemon.LogDirective
import Curfew.Daemon.LogFilter
import Curfew.Daemon.Run
import Curfew.Database.Access
import Curfew.Database.Connection
import Curfew.Database.Name
import Curfew.Database.Placement
import Curfew.Database.Refresh
import Curfew.Disk.Step
import Curfew.Disk.Tree
import Curfew.Engine.Arrangement
import Curfew.Engine.Basic
import Curfew.Engine.Operation
import Curfew.Environment
import Curfew.FreshId
import Curfew.Json.Printer
import Curfew.Json.Record
import Curfew.Json.Token
import Curfew.Json.Tree
import Curfew.Json.Value
import Curfew.Main
import Curfew.Number.Binary64
import Curfew.Number.Decimal
import Curfew.Number.Hexadecimal
import Curfew.Path
import Curfew.Proofs.Allowance.Record
import Curfew.Proofs.Allowance.Text
import Curfew.Proofs.Config.Problems
import Curfew.Proofs.Config.Start
import Curfew.Proofs.Countdown
import Curfew.Proofs.Database.Opening
import Curfew.Proofs.Disk.Directories
import Curfew.Proofs.Engine.Allowance
import Curfew.Proofs.Engine.Arrangement
import Curfew.Proofs.Engine.Construction
import Curfew.Proofs.Engine.Dates
import Curfew.Proofs.Engine.Decision
import Curfew.Proofs.Engine.Effect
import Curfew.Proofs.Engine.Events
import Curfew.Proofs.Engine.Lifetime
import Curfew.Proofs.Engine.Lift
import Curfew.Proofs.Engine.Locality
import Curfew.Proofs.Engine.Refill
import Curfew.Proofs.Engine.Restart
import Curfew.Proofs.Engine.Restoration
import Curfew.Proofs.Engine.Ticks
import Curfew.Proofs.Engine.WellFormed
import Curfew.Proofs.Json.Record
import Curfew.Proofs.Json.RoundTrip
import Curfew.Proofs.Json.Spacing
import Curfew.Proofs.Protector.Record
import Curfew.Proofs.Record
import Curfew.Proofs.SavedState
import Curfew.Proofs.Scheduler.History
import Curfew.Proofs.Service.Recovery
import Curfew.Proofs.Service.Saving
import Curfew.Proofs.Service.Start
import Curfew.Proofs.Since
import Curfew.Proofs.Store.Basic
import Curfew.Proofs.Store.Cell
import Curfew.Proofs.Store.Database
import Curfew.Proofs.Store.File
import Curfew.Proofs.Store.Place
import Curfew.Proofs.Store.Write
import Curfew.Proofs.Table
import Curfew.Proofs.Text.Lowercase
import Curfew.Proofs.Text.Pieces
import Curfew.Proofs.Time.Calendar
import Curfew.Proofs.Time.ClockReading
import Curfew.Proofs.Time.ClockText
import Curfew.Proofs.Time.DailyWindow
import Curfew.Proofs.Time.Daylight
import Curfew.Proofs.Time.Duration
import Curfew.Proofs.Time.Instant
import Curfew.Proofs.Time.LocalClock
import Curfew.Proofs.Time.Succession
import Curfew.Proofs.Time.Zone
import Curfew.Protector.Basic
import Curfew.Protector.Record
import Curfew.Protector.Saved
import Curfew.Rule
import Curfew.Scheduler
import Curfew.Service.Basic
import Curfew.Service.Log
import Curfew.Service.Start
import Curfew.Store.Basic
import Curfew.Store.Codec
import Curfew.Store.Database
import Curfew.Store.File
import Curfew.Table
import Curfew.Text.Alphanumeric
import Curfew.Text.LetterCase
import Curfew.Text.Pattern
import Curfew.Text.Pieces
import Curfew.Text.Printable
import Curfew.Time.Calendar
import Curfew.Time.ClockReading
import Curfew.Time.ClockText
import Curfew.Time.DailyWindow
import Curfew.Time.Duration
import Curfew.Time.Instant
import Curfew.Time.LocalDateTime
import Curfew.Time.TimeOfDay
import Curfew.Time.Weekday
import Curfew.Time.Zone
import Curfew.Toml.Document
import Curfew.Toml.Scalar
import Curfew.Toml.Value
