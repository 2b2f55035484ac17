import DateShorthand.Calendar.Date
import DateShorthand.Calendar.Instant
import DateShorthand.Calendar.TimeOfDay
import DateShorthand.Calendar.Timestamp
import DateShorthand.Command.Arguments
import DateShorthand.Command.Log
import DateShorthand.Command.Run
import DateShorthand.Command.Table
import DateShorthand.Fault
import DateShorthand.Json.Basic
import DateShorthand.Json.Reader
import DateShorthand.Json.Writer
import DateShorthand.Locale.Basic
import DateShorthand.Locale.Builtin
import DateShorthand.Locale.Record
import DateShorthand.Locale.Registry
import DateShorthand.Main
import DateShorthand.Proofs.Calendar.BusinessDays
import DateShorthand.Proofs.Calendar.Month
import DateShorthand.Proofs.Calendar.Moves
import DateShorthand.Proofs.Calendar.NearestWorkday
import DateShorthand.Proofs.Calendar.Number
import DateShorthand.Proofs.Calendar.Order
import DateShorthand.Proofs.Calendar.Shifts
import DateShorthand.Proofs.Calendar.Timestamp
import DateShorthand.Proofs.Command.Parse
import DateShorthand.Proofs.Command.Set
import DateShorthand.Proofs.Json.RoundTrip
import DateShorthand.Proofs.Locale.Accepted
import DateShorthand.Proofs.Locale.FixedPoint
import DateShorthand.Proofs.Locale.KeywordLists
import DateShorthand.Proofs.Locale.Keywords
import DateShorthand.Proofs.Locale.Registry
import DateShorthand.Proofs.Locale.UnitMap
import DateShorthand.Proofs.Outcome
import DateShorthand.Proofs.Record.Checked
import DateShorthand.Proofs.Regex.Context
import DateShorthand.Proofs.Regex.LetterCase
import DateShorthand.Proofs.Regex.Literal
import DateShorthand.Proofs.Regex.Outcomes
import DateShorthand.Proofs.Regex.Places
import DateShorthand.Proofs.Regex.Repetition
import DateShorthand.Proofs.Regex.Replacement
import DateShorthand.Proofs.Settings.Precedence
import DateShorthand.Proofs.Settings.Repetition
import DateShorthand.Proofs.Settings.Resolver
import DateShorthand.Proofs.Settings.Stored
import DateShorthand.Proofs.Shortcut.AbsoluteDate
import DateShorthand.Proofs.Shortcut.AfternoonMarkers
import DateShorthand.Proofs.Shortcut.BareKeywords
import DateShorthand.Proofs.Shortcut.Chaining
import DateShorthand.Proofs.Shortcut.Clock
import DateShorthand.Proofs.Shortcut.DayParts
import DateShorthand.Proofs.Shortcut.DefaultTime
import DateShorthand.Proofs.Shortcut.Escapes
import DateShorthand.Proofs.Shortcut.Faults
import DateShorthand.Proofs.Shortcut.KeywordOrder
import DateShorthand.Proofs.Shortcut.Midnight
import DateShorthand.Proofs.Shortcut.Monotone
import DateShorthand.Proofs.Shortcut.PatternCase
import DateShorthand.Proofs.Shortcut.QuotedFragments
import DateShorthand.Proofs.Shortcut.ReferenceDay
import DateShorthand.Proofs.Shortcut.RenderedDay
import DateShorthand.Proofs.Shortcut.RenderedParts
import DateShorthand.Proofs.Shortcut.Rendering
import DateShorthand.Proofs.Shortcut.RepeatedToday
import DateShorthand.Proofs.Shortcut.Rollover
import DateShorthand.Proofs.Shortcut.Seams
import DateShorthand.Proofs.Shortcut.SingleParts
import DateShorthand.Proofs.Shortcut.Stages
import DateShorthand.Proofs.Shortcut.TimeGrammar
import DateShorthand.Proofs.Shortcut.TimeLayer
import DateShorthand.Proofs.Shortcut.TokenLaws
import DateShorthand.Proofs.Shortcut.Tokens
import DateShorthand.Proofs.Shortcut.TrailingTime
import DateShorthand.Proofs.Shortcut.UsableKeywords
import DateShorthand.Proofs.Shortcut.WorkdayMarker
import DateShorthand.Proofs.Shortcut.Written
import DateShorthand.Proofs.Shortcut.WrittenDates
import DateShorthand.Proofs.Text.Classes
import DateShorthand.Proofs.Text.Lowering
import DateShorthand.Proofs.Text.Numeral
import DateShorthand.Proofs.Text.Pieces
import DateShorthand.Proofs.Text.Scripts
import DateShorthand.Proofs.Text.Terminal
import DateShorthand.Proofs.Text.Words
import DateShorthand.Record.Violation
import DateShorthand.Regex.Basic
import DateShorthand.Regex.Reader
import DateShorthand.Report.Basic
import DateShorthand.Report.Kind
import DateShorthand.Settings.Basic
import DateShorthand.Settings.File
import DateShorthand.Shortcut.AbsoluteDate
import DateShorthand.Shortcut.DefaultTime
import DateShorthand.Shortcut.Part
import DateShorthand.Shortcut.Resolver
import DateShorthand.Shortcut.TrailingTime
import DateShorthand.Text.Basic
import DateShorthand.Text.Blank
import DateShorthand.Text.Case
import DateShorthand.Text.Digit
import DateShorthand.Text.Identifier
import DateShorthand.Text.Letter
import DateShorthand.Text.Lowercase
import DateShorthand.Text.Numeral
import DateShorthand.Text.Quoted
import DateShorthand.Text.Terminal
import DateShorthand.Text.Unprinted
import DateShorthand.Proofs.Shortcut.Scripts
