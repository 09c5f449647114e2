import LogLens.Command.Arguments
import LogLens.Command.Pager
import LogLens.Command.Usage
import LogLens.Condition.Basic
import LogLens.Condition.Operand
import LogLens.Decimal.Binary64
import LogLens.Decimal.Reading
import LogLens.Decimal.Shortest
import LogLens.Decimal.Text
import LogLens.Diagnostics
import LogLens.Filter.Basic
import LogLens.Filter.Error
import LogLens.Filter.LevelSet
import LogLens.Json.Basic
import LogLens.Json.Fault
import LogLens.Json.Numeral
import LogLens.Json.Reader
import LogLens.Json.Writer
import LogLens.Layout.Block
import LogLens.Layout.Line
import LogLens.Layout.Mode
import LogLens.Layout.Paint
import LogLens.Level
import LogLens.Main
import LogLens.Pattern.Age
import LogLens.Pattern.Basic
import LogLens.Pattern.BinaryProperty
import LogLens.Pattern.CaseFolding
import LogLens.Pattern.Category
import LogLens.Pattern.CharClass
import LogLens.Pattern.Cursor
import LogLens.Pattern.Expr
import LogLens.Pattern.FewTexts
import LogLens.Pattern.Meaning
import LogLens.Pattern.Mistake
import LogLens.Pattern.Place
import LogLens.Pattern.Plan
import LogLens.Pattern.Property
import LogLens.Pattern.Reader
import LogLens.Pattern.Reader.Escape
import LogLens.Pattern.Reader.Group
import LogLens.Pattern.Reader.Set
import LogLens.Pattern.Room
import LogLens.Pattern.Route
import LogLens.Pattern.Script
import LogLens.Pattern.Segmentation
import LogLens.Pattern.Table
import LogLens.Pattern.Tree
import LogLens.Pattern.Utf8Sequence
import LogLens.Program
import LogLens.Proofs.Command.Arguments
import LogLens.Proofs.Condition.Blamed
import LogLens.Proofs.Condition.Display
import LogLens.Proofs.Condition.Enclosed
import LogLens.Proofs.Condition.FieldEquals
import LogLens.Proofs.Condition.Matching
import LogLens.Proofs.Condition.NormalForm
import LogLens.Proofs.Condition.Parentheses
import LogLens.Proofs.Condition.Pasted
import LogLens.Proofs.Condition.Step
import LogLens.Proofs.Decimal.Binary64
import LogLens.Proofs.Decimal.Magnitude
import LogLens.Proofs.Decimal.Reading
import LogLens.Proofs.Except
import LogLens.Proofs.Filter.Combined
import LogLens.Proofs.Filter.Grammar
import LogLens.Proofs.Filter.Severity
import LogLens.Proofs.Filter.Thresholds
import LogLens.Proofs.Json.Grammar
import LogLens.Proofs.Json.NormalNumber
import LogLens.Proofs.Json.NumberToken
import LogLens.Proofs.Json.OneLine
import LogLens.Proofs.Json.Rearrange
import LogLens.Proofs.Json.Roundtrip
import LogLens.Proofs.Json.Spelling
import LogLens.Proofs.Json.Token
import LogLens.Proofs.Json.Value
import LogLens.Proofs.Layout.BlockColumn
import LogLens.Proofs.Layout.BlockText
import LogLens.Proofs.Layout.Colors
import LogLens.Proofs.Layout.Heading
import LogLens.Proofs.Layout.JsonText
import LogLens.Proofs.Layout.Marker
import LogLens.Proofs.Layout.Output
import LogLens.Proofs.Layout.Rebuilt
import LogLens.Proofs.Layout.TimeText
import LogLens.Proofs.List
import LogLens.Proofs.Program.FailFast
import LogLens.Proofs.Record.Decoded
import LogLens.Proofs.Record.Extensions
import LogLens.Proofs.Record.Ids
import LogLens.Proofs.Record.Members
import LogLens.Proofs.Record.Source
import LogLens.Proofs.Record.Times
import LogLens.Proofs.Settings.Layers
import LogLens.Proofs.Stream.Denoted
import LogLens.Proofs.Stream.Failure
import LogLens.Proofs.Stream.Feed
import LogLens.Proofs.Stream.Headings
import LogLens.Proofs.Stream.Outcome
import LogLens.Proofs.Stream.Pieces
import LogLens.Proofs.Stream.Resend
import LogLens.Proofs.Text.Blank
import LogLens.Proofs.Text.Cut
import LogLens.Proofs.Text.Dictionary
import LogLens.Proofs.Text.Utf8
import LogLens.Proofs.Time.Calendar
import LogLens.Proofs.Time.Clockface
import LogLens.Proofs.Time.Rfc3339
import LogLens.Record.Basic
import LogLens.Record.Decode
import LogLens.Settings.Basic
import LogLens.Settings.Config
import LogLens.Settings.Toml
import LogLens.Stream.Basic
import LogLens.Stream.Line
import LogLens.Stream.Lines
import LogLens.Surroundings.Basic
import LogLens.Surroundings.Failure
import LogLens.Surroundings.Files
import LogLens.Text.Blank
import LogLens.Text.Cut
import LogLens.Text.Dictionary
import LogLens.Text.Utf8
import LogLens.Time.Calendar
import LogLens.Time.DisplayZone
import LogLens.Time.Instant
import LogLens.Time.Rfc3339
import LogLens.Time.Zone
import LogLens.Time.ZoneTable
