import Reconciliation.Calendar.Date
import Reconciliation.Calendar.DayNumber
import Reconciliation.Calendar.Layout
import Reconciliation.Column
import Reconciliation.CommandLine.Command
import Reconciliation.CommandLine.Execution
import Reconciliation.CommandLine.Options
import Reconciliation.Crosswalk
import Reconciliation.Digest.Sha256
import Reconciliation.Display.Grid
import Reconciliation.Display.KeyText
import Reconciliation.Display.Overview
import Reconciliation.Document.Json.Reader
import Reconciliation.Document.Json.Writer
import Reconciliation.Document.Members
import Reconciliation.Document.Value
import Reconciliation.Document.Yaml.Reader
import Reconciliation.Document.Yaml.Scalar
import Reconciliation.Document.Yaml.Token
import Reconciliation.Failure
import Reconciliation.Handoff.Catalog
import Reconciliation.Handoff.Report
import Reconciliation.Handoff.RowHash
import Reconciliation.Handoff.Statistic
import Reconciliation.Handoff.Vintage
import Reconciliation.Main
import Reconciliation.Number.Binary64
import Reconciliation.Number.DecimalText
import Reconciliation.Number.Numeral
import Reconciliation.Number.Shortest
import Reconciliation.Partition
import Reconciliation.Platform
import Reconciliation.Proofs.Calendar.DateText
import Reconciliation.Proofs.Calendar.IsoWeek
import Reconciliation.Proofs.Calendar.Range
import Reconciliation.Proofs.Calendar.Recognition
import Reconciliation.Proofs.Calendar.TextOrder
import Reconciliation.Proofs.Crosswalk
import Reconciliation.Proofs.Number.NumeralText
import Reconciliation.Proofs.Number.PlainText
import Reconciliation.Proofs.Number.WholeNumber
import Reconciliation.Proofs.RowHash.Join
import Reconciliation.Proofs.RowHash.Pairing
import Reconciliation.Proofs.Session.Completion
import Reconciliation.Proofs.Session.Harvest
import Reconciliation.Proofs.Session.StatisticsRun
import Reconciliation.Proofs.SortedMap
import Reconciliation.Proofs.Statistic.FlexibleNumbers
import Reconciliation.Proofs.Text.Blank
import Reconciliation.Proofs.Vintage.Alignment
import Reconciliation.Proofs.Vintage.CalendarUnit
import Reconciliation.Proofs.Vintage.Exclusion
import Reconciliation.Proofs.Vintage.Staleness
import Reconciliation.Proofs.Vintage.TextBounds
import Reconciliation.Proofs.Vintage.UnitWindows
import Reconciliation.Proofs.Vintage.WindowOrder
import Reconciliation.Query.Catalog
import Reconciliation.Query.Normalization
import Reconciliation.Query.Predicate
import Reconciliation.Query.Result
import Reconciliation.Query.RowHash
import Reconciliation.Query.Statistics
import Reconciliation.Query.Table
import Reconciliation.RowHash.Comparison
import Reconciliation.RowHash.Row
import Reconciliation.Scalar
import Reconciliation.Session.Counting
import Reconciliation.Session.Database
import Reconciliation.Session.Exploration
import Reconciliation.Session.Findings
import Reconciliation.Session.Inquiry
import Reconciliation.Session.Report
import Reconciliation.Session.Run
import Reconciliation.Settings
import Reconciliation.SortedMap
import Reconciliation.Statistic.ComparisonKind
import Reconciliation.Statistic.Field
import Reconciliation.Statistic.Frequency
import Reconciliation.Statistic.Outcome
import Reconciliation.Statistic.Quality
import Reconciliation.Statistic.Row
import Reconciliation.Statistic.Schema
import Reconciliation.Text.Blank
import Reconciliation.Text.Case
import Reconciliation.Text.CaseTable
import Reconciliation.Text.Digit
import Reconciliation.Text.Search
import Reconciliation.Text.VisibleTable
import Reconciliation.Text.Width
import Reconciliation.Text.WidthTable
import Reconciliation.Vintage.Fingerprint
import Reconciliation.Vintage.RowCount
import Reconciliation.Vintage.Validation
import Reconciliation.Vintage.Window
import Reconciliation.Proofs.Vintage.SharedUnits
import Reconciliation.Proofs.Calendar.StoredText
import Reconciliation.Proofs.Vintage.Fingerprint
import Reconciliation.Proofs.Vintage.TextExclusion
import Reconciliation.Proofs.Vintage.Totals
import Reconciliation.Proofs.Calendar.Spelling
import Reconciliation.Proofs.Statistic.FlexibleDates
import Reconciliation.Proofs.Crosswalk.Sorting
import Reconciliation.Proofs.Statistic.Quality
import Reconciliation.Proofs.Number.Rounding
import Reconciliation.Proofs.Number.Shortest
import Reconciliation.Proofs.Document.Json.Number
import Reconciliation.Proofs.Document.Json.Quoted
import Reconciliation.Proofs.Document.Json.RoundTrip
import Reconciliation.Proofs.Calendar.StandardText
import Reconciliation.Proofs.Document.Members
import Reconciliation.Proofs.Handoff.Catalog
import Reconciliation.Proofs.Handoff.Statistic
import Reconciliation.Proofs.Handoff.Vintage
import Reconciliation.Proofs.Handoff.RowHash
import Reconciliation.Proofs.Handoff.Report
import Reconciliation.Proofs.Query.Reading
import Reconciliation.Proofs.RowHash.Row
import Reconciliation.Proofs.Session.RowHashRun
import Reconciliation.Proofs.Session.Counting
import Reconciliation.Proofs.Session.Statements
import Reconciliation.Proofs.Text.ByteOrder
import Reconciliation.Proofs.CommandLine.Comparison
import Reconciliation.Proofs.RowHash.RepeatedKey
import Reconciliation.Proofs.RowHash.Samples
import Reconciliation.Proofs.RowHash.Symmetry
import Reconciliation.Proofs.Statistic.Agreement
import Reconciliation.Proofs.Number.Order
import Reconciliation.Proofs.Statistic.Tolerance
import Reconciliation.Proofs.Statistic.Schema
import Reconciliation.Proofs.Statistic.Value
import Reconciliation.Proofs.Statistic.CommonReading
import Reconciliation.Proofs.Statistic.SelfComparison
import Reconciliation.Proofs.Statistic.Exchange
import Reconciliation.Proofs.Statistic.Loosening
import Reconciliation.Proofs.Text.Case
import Reconciliation.Proofs.Text.Search
import Reconciliation.Proofs.Column
import Reconciliation.Proofs.Text.Splitting
import Reconciliation.Proofs.Statistic.FrequencyText
import Reconciliation.Proofs.Crosswalk.TypeMismatch
import Reconciliation.Proofs.Calendar.WrittenDay
import Reconciliation.Proofs.Query.TextExpression
import Reconciliation.Proofs.Session.StoredDay
import Reconciliation.Proofs.Session.DeclaredStorage
import Reconciliation.Proofs.Vintage.RowCount
import Reconciliation.Proofs.Vintage.Meet
import Reconciliation.Proofs.Number.NumeralReading
import Reconciliation.Proofs.Scalar.Coercion
import Reconciliation.Proofs.Scalar.Equality
import Reconciliation.Proofs.Statistic.ZeroPolicy
import Reconciliation.Proofs.Statistic.SchemaChanges
import Reconciliation.Proofs.Settings
import Reconciliation.Proofs.Query.ProjectedNames
import Reconciliation.Proofs.Query.Lexeme
import Reconciliation.Proofs.Query.QuotedText
