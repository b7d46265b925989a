import AlarmClock.Alarm.Basic
import AlarmClock.Alarm.Entry
import AlarmClock.Alarm.Period
import AlarmClock.CommandLine.LogFilter
import AlarmClock.CommandLine.Options
import AlarmClock.CommandLine.Run
import AlarmClock.Configuration.Document
import AlarmClock.Configuration.File
import AlarmClock.Configuration.FileTree
import AlarmClock.Configuration.Printer
import AlarmClock.Configuration.Reader
import AlarmClock.Countdown
import AlarmClock.Decimal.Binary64
import AlarmClock.Decimal.Shortest
import AlarmClock.Device.Basic
import AlarmClock.Device.Operations
import AlarmClock.Device.Turn
import AlarmClock.Device.Weight
import AlarmClock.Dispatcher
import AlarmClock.Effect
import AlarmClock.Event
import AlarmClock.Event.Channel
import AlarmClock.Json.Failure
import AlarmClock.Json.Lexeme
import AlarmClock.Json.Printer
import AlarmClock.Json.Reader
import AlarmClock.Json.Shape
import AlarmClock.Json.Value
import AlarmClock.Main
import AlarmClock.Media.Basic
import AlarmClock.Media.LoggingPlayer
import AlarmClock.Media.Player
import AlarmClock.Media.RecordingPlayer
import AlarmClock.Monitor
import AlarmClock.Notice
import AlarmClock.Pattern.Basic
import AlarmClock.Pattern.Brackets
import AlarmClock.Pattern.ClassMeaning
import AlarmClock.Pattern.Cursor
import AlarmClock.Pattern.Escape
import AlarmClock.Pattern.Fault
import AlarmClock.Pattern.Matching
import AlarmClock.Pattern.Meaning
import AlarmClock.Pattern.Reader
import AlarmClock.Pattern.Size
import AlarmClock.Pattern.Tree
import AlarmClock.Power
import AlarmClock.Proofs.Alarm.Entry
import AlarmClock.Proofs.Configuration.Rereading
import AlarmClock.Proofs.Device.Coherence
import AlarmClock.Proofs.Device.Drain
import AlarmClock.Proofs.Device.FreshAlarm
import AlarmClock.Proofs.Device.Refusal
import AlarmClock.Proofs.Device.Routing
import AlarmClock.Proofs.Device.Run
import AlarmClock.Proofs.Device.SafetyNet
import AlarmClock.Proofs.Dispatcher.Choice
import AlarmClock.Proofs.Dispatcher.Polling
import AlarmClock.Proofs.Json.Lexeme
import AlarmClock.Proofs.Json.Values
import AlarmClock.Proofs.Media.Player
import AlarmClock.Proofs.Monitor
import AlarmClock.Proofs.Schedule.NextInstance
import AlarmClock.Proofs.Schedule.Upcoming
import AlarmClock.Proofs.SleepTimer
import AlarmClock.Proofs.Store.Announcing
import AlarmClock.Proofs.Store.Change
import AlarmClock.Proofs.Store.OrderedMap
import AlarmClock.Proofs.Store.Restart
import AlarmClock.Proofs.Text.Written
import AlarmClock.Proofs.Time.Minutes
import AlarmClock.Proofs.Time.NextSecond
import AlarmClock.Proofs.Uuid
import AlarmClock.Report
import AlarmClock.Schedule.Basic
import AlarmClock.Schedule.Label
import AlarmClock.SleepTimer
import AlarmClock.Store.Basic
import AlarmClock.Store.Error
import AlarmClock.Text.Blank
import AlarmClock.Text.ByteRange
import AlarmClock.Text.CharSet
import AlarmClock.Text.CodeRange
import AlarmClock.Text.CombiningClass
import AlarmClock.Text.Composition
import AlarmClock.Text.ControlSequence
import AlarmClock.Text.Decomposition
import AlarmClock.Text.Letter
import AlarmClock.Text.Mark
import AlarmClock.Text.Numeral
import AlarmClock.Text.Printable
import AlarmClock.Text.Quoted
import AlarmClock.Text.Split
import AlarmClock.Text.Utf8
import AlarmClock.Time.Date
import AlarmClock.Time.DateTime
import AlarmClock.Time.Printer
import AlarmClock.Time.Reader
import AlarmClock.Time.Span
import AlarmClock.Time.TimeOfDay
import AlarmClock.Url.Address
import AlarmClock.Url.Basic
import AlarmClock.Url.Domain.Direction
import AlarmClock.Url.Domain.Joining
import AlarmClock.Url.Domain.Mapping
import AlarmClock.Url.Domain.Name
import AlarmClock.Url.Domain.Punycode
import AlarmClock.Url.Encoding
import AlarmClock.Url.Path
import AlarmClock.Url.Reader
import AlarmClock.Uuid
import AlarmClock.Proofs.Dispatcher.Soundness
import AlarmClock.Proofs.Device.Fallback
import AlarmClock.Device.Audience
import AlarmClock.Proofs.Device.Elapse
import AlarmClock.Proofs.Device.Reach
import AlarmClock.Proofs.Device.Routed
import AlarmClock.Proofs.Monitor.Grace
import AlarmClock.Proofs.SleepTimer.Lockstep
import AlarmClock.Proofs.Dispatcher.Occurrences
import AlarmClock.Proofs.Device.Stream
import AlarmClock.Proofs.Schedule.LeastInstance
import AlarmClock.Proofs.Dispatcher.Steadiness
import AlarmClock.Proofs.Device.Settling
import AlarmClock.Proofs.SleepTimer.Window
import AlarmClock.Proofs.Monitor.Fallback
import AlarmClock.Proofs.Configuration.Entries
import AlarmClock.Proofs.Configuration.Fields
import AlarmClock.Proofs.Checked.Device
import AlarmClock.Proofs.Checked.Parts
import AlarmClock.Proofs.Checked.Times
import AlarmClock.Proofs.Countdown.History
import AlarmClock.Proofs.Schedule.Label
import AlarmClock.Proofs.Time.Civil
import AlarmClock.Proofs.Time.Forms
import AlarmClock.Proofs.Time.Pieces
