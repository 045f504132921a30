import SyntheticLoad.Delivery.Stub
import SyntheticLoad.Http.RuleServer
import SyntheticLoad.Main
import SyntheticLoad.Random.Script
import SyntheticLoad.Proofs.Text.Numeral
import SyntheticLoad.Proofs.Text.ByteOrder
import SyntheticLoad.Proofs.Text.Cut
import SyntheticLoad.Proofs.Text.Utf8
import SyntheticLoad.Proofs.Text.NumeralForm
import SyntheticLoad.Proofs.Text.FixedWidth
import SyntheticLoad.Proofs.Time.Calendar
import SyntheticLoad.Proofs.Time.Instant
import SyntheticLoad.Proofs.Time.Order
import SyntheticLoad.Proofs.Time.Succession
import SyntheticLoad.Proofs.Time.Reading
import SyntheticLoad.Proofs.Decimal.Finite
import SyntheticLoad.Proofs.Json.Grammar
import SyntheticLoad.Proofs.Json.Reading
import SyntheticLoad.Proofs.Json.Printing
import SyntheticLoad.Proofs.Json.Bytes
import SyntheticLoad.Proofs.Json.Remainder
import SyntheticLoad.Proofs.Random.Always
import SyntheticLoad.Proofs.Random.Uniform
import SyntheticLoad.Proofs.Random.DistinctPlaces
import SyntheticLoad.Proofs.Random.Agreement
import SyntheticLoad.Proofs.Record.Entries
import SyntheticLoad.Proofs.Field.Primitives
import SyntheticLoad.Proofs.Field.Selection
import SyntheticLoad.Proofs.Field.Uuid
import SyntheticLoad.Proofs.Template.Grammar
import SyntheticLoad.Proofs.Template.Division
import SyntheticLoad.Proofs.Template.Recognition
import SyntheticLoad.Proofs.Template.Expansion
import SyntheticLoad.Proofs.Field.Conformance
import SyntheticLoad.Proofs.Record.Lossless
import SyntheticLoad.Proofs.Shape.Totality
import SyntheticLoad.Proofs.Record.Likeness
import SyntheticLoad.Proofs.Field.TwoClocks
import SyntheticLoad.Proofs.Field.RecentInstant
import SyntheticLoad.Proofs.Shape.TwoClocks
import SyntheticLoad.Proofs.Replay.Payload
import SyntheticLoad.Proofs.Replay.Course
import SyntheticLoad.Proofs.Summary.Tally
import SyntheticLoad.Proofs.Summary.Accounting
import SyntheticLoad.Proofs.Load.Course
import SyntheticLoad.Proofs.Load.Account
import SyntheticLoad.Proofs.Load.TurnTaking
import SyntheticLoad.Proofs.Load.ExactlyOnce
import SyntheticLoad.Proofs.Load.Occupancy
import SyntheticLoad.Proofs.Load.Schedules
import SyntheticLoad.Proofs.CommandLine.Arguments
import SyntheticLoad.Proofs.CommandLine.Choice
import SyntheticLoad.Proofs.CommandLine.Posting
import SyntheticLoad.Proofs.CommandLine.Sample
import SyntheticLoad.Proofs.Url.Join
import SyntheticLoad.Proofs.Http.Asking
import SyntheticLoad.Proofs.Http.Request
import SyntheticLoad.Proofs.Session.LoginReply
import SyntheticLoad.Proofs.Session.Requests
import SyntheticLoad.Proofs.Session.Tokens
import SyntheticLoad.Proofs.Scenario.Diary
import SyntheticLoad.Proofs.Scenario.Life
import SyntheticLoad.Proofs.Scenario.Totals
import SyntheticLoad.Proofs.Scenario.Schedule
import SyntheticLoad.Proofs.Scenario.Accounts
import SyntheticLoad.Proofs.Field.IntegerRange
import SyntheticLoad.Proofs.Time.Lossless
import SyntheticLoad.Proofs.Text.Trim
import SyntheticLoad.Proofs.Json.Layout
import SyntheticLoad.Proofs.Record.UnitSeed
import SyntheticLoad.Proofs.Delivery.HeaderArgument
import SyntheticLoad.Proofs.Http.HeaderMap
import SyntheticLoad.Proofs.Http.TargetHeaders
import SyntheticLoad.Proofs.CommandLine.PrettySample
import SyntheticLoad.Proofs.Text.Ascii
import SyntheticLoad.Proofs.Scenario.Rest
import SyntheticLoad.Proofs.Field.Entropy
import SyntheticLoad.Proofs.Text.Grouped
import SyntheticLoad.Proofs.Text.LetterCase
import SyntheticLoad.Proofs.Shape.Naming
import SyntheticLoad.Proofs.Summary.Box
import SyntheticLoad.Proofs.Summary.Telling
import SyntheticLoad.Proofs.Json.Indentation
import SyntheticLoad.Proofs.Summary.File
