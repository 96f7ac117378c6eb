import SeriesQuery.Decimal.Text
import SeriesQuery.Decimal.Read
import SeriesQuery.Duration
import SeriesQuery.Text.Escaped
import SeriesQuery.Text.Blank
import SeriesQuery.Unicode.Script
import SeriesQuery.Unicode.CaseFolding
import SeriesQuery.Text.Span
import SeriesQuery.Text.Quoted
import SeriesQuery.Pattern
import SeriesQuery.Regex.Engine
import SeriesQuery.Sha256
import SeriesQuery.Filter.Json
import SeriesQuery.Filter.Normal
import SeriesQuery.Filter.Query
import SeriesQuery.TimeRange
import SeriesQuery.Json.Pretty
import SeriesQuery.Token.Scan
import SeriesQuery.Expr.Parse
import SeriesQuery.Expr.FreeNames
import SeriesQuery.Expr.Json
import SeriesQuery.Expr.Filter
import SeriesQuery.Expr.Request
import SeriesQuery.Store
import SeriesQuery.Toml.Document
import SeriesQuery.Settings
import SeriesQuery.CommandLine.Perform
import SeriesQuery.Main
import SeriesQuery.Proofs.Expr.Bare
import SeriesQuery.Proofs.Expr.Phrase
import SeriesQuery.Proofs.Result
import SeriesQuery.Proofs.Expr.Complete
import SeriesQuery.Proofs.Expr.Sound
import SeriesQuery.Proofs.Expr.Nesting
import SeriesQuery.Proofs.Expr.Grammar
import SeriesQuery.Proofs.Token.Break
import SeriesQuery.Proofs.Token.Written
import SeriesQuery.Proofs.Token.Reads
import SeriesQuery.Proofs.Expr.Text
import SeriesQuery.Proofs.Expr.RoundTrip
import SeriesQuery.Proofs.Expr.Outcome
import SeriesQuery.Proofs.Expr.Write
import SeriesQuery.Proofs.Expr.Agreement
import SeriesQuery.Proofs.Filter.Order
import SeriesQuery.Proofs.Filter.Junction
import SeriesQuery.Proofs.Filter.Normal
import SeriesQuery.Proofs.Filter.Paired
import SeriesQuery.Proofs.Filter.Named
import SeriesQuery.Proofs.Expr.Named
import SeriesQuery.Proofs.Expr.Printable
import SeriesQuery.Proofs.Filter.Query
import SeriesQuery.Proofs.Filter.RoundTrip
import SeriesQuery.Proofs.Series.Text
import SeriesQuery.Proofs.Expr.Height
import SeriesQuery.Proofs.SortedMap
import SeriesQuery.Proofs.TimeRange
import SeriesQuery.Proofs.Store.Selection
import SeriesQuery.Proofs.Store.Ledger
import SeriesQuery.Proofs.Store.Answers
import SeriesQuery.Proofs.Store.Agreement
import SeriesQuery.Proofs.Regex.Item
import SeriesQuery.Proofs.Regex.Bracket
import SeriesQuery.Proofs.Regex.Bound
import SeriesQuery.Proofs.Regex.Whole
import SeriesQuery.Proofs.Regex.Spans
import SeriesQuery.Proofs.Pattern.Language
import SeriesQuery.Proofs.Regex.Language
import SeriesQuery.Proofs.Filter.Matching
import SeriesQuery.Proofs.Expr.Parenthesized
import SeriesQuery.Proofs.Decimal.Unsigned
import SeriesQuery.Proofs.Expr.Shape
import SeriesQuery.Proofs.Text.Span
import SeriesQuery.Proofs.Token.Local
import SeriesQuery.Proofs.Token.Placed
import SeriesQuery.Proofs.Expr.Placed
import SeriesQuery.Proofs.Expr.Diagnosis
import SeriesQuery.Proofs.Token.Slice
import SeriesQuery.Proofs.Expr.Located
import SeriesQuery.Proofs.Expr.Parts
import SeriesQuery.Proofs.Expr.Slice
import SeriesQuery.Proofs.Json
import SeriesQuery.Proofs.Filter.Json
import SeriesQuery.Proofs.Response
import SeriesQuery.Proofs.CommandLine.Bindings
import SeriesQuery.Proofs.Filter.Rewriting
import SeriesQuery.Proofs.Filter.Canonical
import SeriesQuery.Proofs.Filter.Settled
import SeriesQuery.Proofs.Store.Simplified
import SeriesQuery.Proofs.Expr.FreeNames
import SeriesQuery.Proofs.Token.Layout
import SeriesQuery.Proofs.Expr.Layout
import SeriesQuery.Proofs.Duration
import SeriesQuery.Proofs.Series.Identity
import SeriesQuery.Proofs.Token.Cover
import SeriesQuery.Proofs.Expr.Limits
import SeriesQuery.Proofs.Store.Ordered
import SeriesQuery.Proofs.Decimal.Nearest
import SeriesQuery.Proofs.Value.Place
import SeriesQuery.Proofs.Value.Typing
import SeriesQuery.Proofs.Value.Equality
import SeriesQuery.Proofs.Text.Report
import SeriesQuery.Proofs.Expr.Reference
import SeriesQuery.Proofs.Token.Quoted
import SeriesQuery.Proofs.Expr.Asker
import SeriesQuery.Proofs.Expr.Ending
