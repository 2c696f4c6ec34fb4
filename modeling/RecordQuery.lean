import RecordQuery.Aggregate
import RecordQuery.Calendar.Date
import RecordQuery.Calendar.DateTime
import RecordQuery.Calendar.Rfc3339
import RecordQuery.Catalog.Product
import RecordQuery.Catalog.Reader
import RecordQuery.Catalog.Search
import RecordQuery.Catalog.Timestamp
import RecordQuery.Category
import RecordQuery.CommandLine.Arguments
import RecordQuery.CommandLine.Response
import RecordQuery.Cosine
import RecordQuery.Embedding
import RecordQuery.Error
import RecordQuery.Fields
import RecordQuery.Grouping
import RecordQuery.Hashing
import RecordQuery.Json.Document
import RecordQuery.Json.Numeric
import RecordQuery.Key
import RecordQuery.Kind
import RecordQuery.Main
import RecordQuery.Number.Arithmetic
import RecordQuery.Number.Binary
import RecordQuery.Number.Decimal
import RecordQuery.Number.Layout
import RecordQuery.Number.Numeral
import RecordQuery.Number.Power
import RecordQuery.Number.Radix
import RecordQuery.Number.Rounding
import RecordQuery.Number.Word
import RecordQuery.Predicate.Basic
import RecordQuery.Predicate.Condition
import RecordQuery.Predicate.Evaluate
import RecordQuery.Predicate.NormalForm
import RecordQuery.Projection
import RecordQuery.Query.Basic
import RecordQuery.Query.Run
import RecordQuery.Query.Source
import RecordQuery.Ranking
import RecordQuery.Sample.Person
import RecordQuery.Sample.Product
import RecordQuery.Schema.Basic
import RecordQuery.Schema.Path
import RecordQuery.Settings.Basic
import RecordQuery.Settings.Reader
import RecordQuery.SortKey
import RecordQuery.Text.Blank
import RecordQuery.Text.Cased
import RecordQuery.Text.CharRange
import RecordQuery.Text.Extending
import RecordQuery.Text.LowerCase
import RecordQuery.Text.Printable
import RecordQuery.Text.Quoted
import RecordQuery.Text.Search
import RecordQuery.Text.Split
import RecordQuery.Toml.Quoted
import RecordQuery.Toml.Scalar
import RecordQuery.Toml.Statement
import RecordQuery.Toml.Table
import RecordQuery.Toml.Value
import RecordQuery.Uuid
import RecordQuery.Value.Basic
import RecordQuery.Value.Convert
import RecordQuery.Value.Json
import RecordQuery.Value.Order
import RecordQuery.Value.Text
import RecordQuery.Proofs.Evaluation
import RecordQuery.Proofs.Polarity
import RecordQuery.Proofs.Conditions
import RecordQuery.Proofs.Filtering
import RecordQuery.Proofs.Sorting
import RecordQuery.Proofs.Calls
import RecordQuery.Proofs.Replay
import RecordQuery.Proofs.Running
import RecordQuery.Proofs.Canonical
import RecordQuery.Proofs.Walking
import RecordQuery.Proofs.Precedence
import RecordQuery.Proofs.Paging
import RecordQuery.Proofs.Commuting
import RecordQuery.Proofs.Projecting
import RecordQuery.Proofs.Rounding
import RecordQuery.Proofs.Integers
import RecordQuery.Proofs.Reordering
import RecordQuery.Proofs.Totals
import RecordQuery.Proofs.Comparing
import RecordQuery.Proofs.Liveness
import RecordQuery.Proofs.Grouping
import RecordQuery.Proofs.Ranking
import RecordQuery.Proofs.Narrowing
import RecordQuery.Proofs.Searching
import RecordQuery.Proofs.Summaries
import RecordQuery.Proofs.NormalForms
import RecordQuery.Proofs.WholeNumbers
import RecordQuery.Proofs.Traversal
import RecordQuery.Proofs.Constants
import RecordQuery.Proofs.Keys
import RecordQuery.Proofs.Membership
import RecordQuery.Proofs.Lifting
import RecordQuery.Proofs.Ties
import RecordQuery.Proofs.Resorting
import RecordQuery.Proofs.Distinct
import RecordQuery.Proofs.SumFaults
import RecordQuery.Proofs.Quotients
import RecordQuery.Proofs.Means
import RecordQuery.Proofs.Averages
import RecordQuery.Proofs.Exactness
import RecordQuery.Proofs.Identity
import RecordQuery.Proofs.FloatConstants
import RecordQuery.Proofs.Drift
import RecordQuery.Proofs.Retraction
import RecordQuery.Proofs.Numerals
import RecordQuery.Proofs.CalendarText
import RecordQuery.Proofs.ReadingBack
import RecordQuery.Proofs.Encoding
import RecordQuery.Proofs.TextConditions
import RecordQuery.Proofs.Substrings
import RecordQuery.Proofs.FinalSigma
import RecordQuery.Proofs.IgnoringCase
import RecordQuery.Proofs.Words
import RecordQuery.Proofs.Unrounded
import RecordQuery.Proofs.WordScores
import RecordQuery.Proofs.Scoring
import RecordQuery.Proofs.KeyScores
import RecordQuery.Proofs.Similarities
import RecordQuery.Proofs.SimilarityRankings
import RecordQuery.Proofs.RoundedOrder
import RecordQuery.Proofs.Distances
import RecordQuery.Proofs.FiniteVectors
import RecordQuery.Proofs.MissingVectors
import RecordQuery.Proofs.LiveRecords
import RecordQuery.Proofs.SignsOfZero
import RecordQuery.Proofs.Sameness
import RecordQuery.Proofs.TextForms
import RecordQuery.Proofs.Coherence
import RecordQuery.Proofs.Complements
import RecordQuery.Proofs.KeyOrder
import RecordQuery.Proofs.KeyTables
