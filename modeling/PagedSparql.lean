import PagedSparql.Algebra.Basic
import PagedSparql.Algebra.Error
import PagedSparql.Algebra.Expression
import PagedSparql.Algebra.Reading
import PagedSparql.Algebra.Triple
import PagedSparql.Algebra.Writing
import PagedSparql.Digest.Block
import PagedSparql.Digest.Md5
import PagedSparql.Digest.Sha
import PagedSparql.Eval.Cast
import PagedSparql.Eval.Evaluate
import PagedSparql.Eval.Functions
import PagedSparql.Eval.Labels
import PagedSparql.Eval.PatternCache
import PagedSparql.Json.Basic
import PagedSparql.Json.Fields
import PagedSparql.Json.Reader
import PagedSparql.Json.Record
import PagedSparql.Json.Writer
import PagedSparql.Main
import PagedSparql.Number.Double
import PagedSparql.Number.Notation
import PagedSparql.Number.Reading
import PagedSparql.Number.Shortest
import PagedSparql.Pipeline.BoundJoin
import PagedSparql.Pipeline.Construction
import PagedSparql.Pipeline.Grouping
import PagedSparql.Pipeline.RoundTable
import PagedSparql.Pipeline.Signal
import PagedSparql.Pipeline.Sorting
import PagedSparql.Pipeline.Stage
import PagedSparql.Pipeline.Tee
import PagedSparql.Plan.Arrangement
import PagedSparql.Plan.Compile
import PagedSparql.Plan.Lifting
import PagedSparql.Plan.Names
import PagedSparql.Plan.Paths
import PagedSparql.Plan.Planner
import PagedSparql.Protocol.Error
import PagedSparql.Protocol.Message
import PagedSparql.Protocol.Meter
import PagedSparql.Protocol.Page
import PagedSparql.Protocol.PageSequence
import PagedSparql.Protocol.QueryText
import PagedSparql.Protocol.Session
import PagedSparql.Query.CommandLine
import PagedSparql.Query.Exchange
import PagedSparql.Query.Settings
import PagedSparql.Query.Stream
import PagedSparql.Rdf.Notation
import PagedSparql.Rdf.Row
import PagedSparql.Rdf.RowNotation
import PagedSparql.Rdf.Term
import PagedSparql.Rdf.Variable
import PagedSparql.Rdf.VariableMap
import PagedSparql.Rdf.Vocabulary
import PagedSparql.Regex.ByteRanges
import PagedSparql.Regex.Footprint
import PagedSparql.Regex.Pattern
import PagedSparql.Regex.Program
import PagedSparql.Regex.Property
import PagedSparql.Regex.Reader
import PagedSparql.Regex.Search
import PagedSparql.Server.Endpoint
import PagedSparql.Server.Error
import PagedSparql.Server.Routes
import PagedSparql.Server.Select
import PagedSparql.Server.Store
import PagedSparql.Server.Token
import PagedSparql.Text.Age
import PagedSparql.Text.Blank
import PagedSparql.Text.Break
import PagedSparql.Text.CaseFold
import PagedSparql.Text.CaseMap
import PagedSparql.Text.Category
import PagedSparql.Text.CharSet
import PagedSparql.Text.Property
import PagedSparql.Text.Script
import PagedSparql.Text.ScriptExtension
import PagedSparql.Text.Span
import PagedSparql.Text.UriEncoding
import PagedSparql.Value.Calendar
import PagedSparql.Value.Compare
import PagedSparql.Value.DateTime
import PagedSparql.Value.Error
import PagedSparql.Value.Numeric
import PagedSparql.Value.Strings
import PagedSparql.Proofs.Rdf.Row
import PagedSparql.Proofs.Rdf.Solutions
import PagedSparql.Proofs.Pipeline.Suffix
import PagedSparql.Proofs.Protocol.Answers
import PagedSparql.Proofs.Pipeline.BoundJoinRun
import PagedSparql.Proofs.Pipeline.BoundJoinLaw
import PagedSparql.Proofs.Pipeline.Leaf
import PagedSparql.Proofs.Pipeline.Chain
import PagedSparql.Proofs.Pipeline.Nested
import PagedSparql.Proofs.Pipeline.Fork
import PagedSparql.Proofs.Pipeline.Optional
import PagedSparql.Proofs.Pipeline.Meaning
import PagedSparql.Proofs.Pipeline.Attribution
import PagedSparql.Proofs.Plan.PathFreeRun
import PagedSparql.Proofs.Plan.OptionalRun
import PagedSparql.Proofs.Plan.Groups
import PagedSparql.Proofs.Pipeline.ClosedRows
import PagedSparql.Proofs.Plan.OptionalGroups
import PagedSparql.Proofs.Rdf.RowSet
import PagedSparql.Proofs.Algebra.Solutions
import PagedSparql.Proofs.Plan.FreshNames
import PagedSparql.Proofs.Plan.PathMeaning
import PagedSparql.Proofs.Pipeline.AnyAnswers
import PagedSparql.Proofs.Pipeline.RevertedRows
import PagedSparql.Proofs.Pipeline.TeeReplay
import PagedSparql.Proofs.Pipeline.OptionalRows
import PagedSparql.Proofs.Protocol.PageWalk
import PagedSparql.Proofs.Rdf.QueryForm
import PagedSparql.Proofs.Rdf.QuotedValues
import PagedSparql.Proofs.Protocol.QueryText
import PagedSparql.Proofs.Pipeline.RequestForm
import PagedSparql.Proofs.Rdf.RowNotation
import PagedSparql.Proofs.Rdf.WireSafety
import PagedSparql.Proofs.Json.Written
import PagedSparql.Proofs.Algebra.KnownKinds
import PagedSparql.Proofs.Algebra.Legible
import PagedSparql.Proofs.Algebra.RoundTrip
import PagedSparql.Proofs.Server.Paging
import PagedSparql.Proofs.Algebra.Variables
import PagedSparql.Proofs.Algebra.Spelling
import PagedSparql.Proofs.Plan.Drawing
import PagedSparql.Proofs.Query.Hidden
import PagedSparql.Proofs.Protocol.ClosedClients
import PagedSparql.Proofs.Pipeline.Confined
import PagedSparql.Proofs.Plan.Clients
import PagedSparql.Proofs.Query.Cancellation
import PagedSparql.Proofs.Pipeline.Interrupted
import PagedSparql.Proofs.Pipeline.Carried
import PagedSparql.Proofs.Pipeline.InterruptedOptional
import PagedSparql.Proofs.Plan.InterruptedPatterns
import PagedSparql.Proofs.Eval.Steady
import PagedSparql.Proofs.Algebra.CountedSolutions
import PagedSparql.Proofs.Algebra.VisibleSolutions
import PagedSparql.Proofs.Plan.ClauseMeaning
import PagedSparql.Proofs.Plan.GroupSolutions
import PagedSparql.Proofs.Plan.Hoisting
import PagedSparql.Proofs.Pipeline.ListSemantics
import PagedSparql.Proofs.Pipeline.SortedRows
import PagedSparql.Proofs.Pipeline.GroupedRows
import PagedSparql.Proofs.Pipeline.RoundDiscipline
import PagedSparql.Proofs.Pipeline.Growing
import PagedSparql.Proofs.Plan.Extension
import PagedSparql.Proofs.Pipeline.Addressed
import PagedSparql.Proofs.Plan.Places
import PagedSparql.Proofs.Algebra.Places
import PagedSparql.Proofs.Algebra.LiftedPlaces
import PagedSparql.Proofs.Query.Destinations
import PagedSparql.Proofs.Algebra.SettledQueries
import PagedSparql.Proofs.Algebra.Modifiers
import PagedSparql.Proofs.Algebra.GatheredAggregates
import PagedSparql.Proofs.Algebra.NestedSelections
import PagedSparql.Proofs.Pipeline.AlikeStages
import PagedSparql.Proofs.Plan.InlinedRows
import PagedSparql.Proofs.Plan.PathRewriting
import PagedSparql.Proofs.Value.Order
import PagedSparql.Proofs.Pipeline.IntegerSums
import PagedSparql.Proofs.Pipeline.Extremes
import PagedSparql.Proofs.Plan.GroupedSolutions
import PagedSparql.Proofs.Pipeline.DistinctRows
import PagedSparql.Proofs.Query.DistinctSolutions
import PagedSparql.Proofs.Eval.LabelUses
import PagedSparql.Proofs.Pipeline.SharedLabels
import PagedSparql.Proofs.Pipeline.Templates
import PagedSparql.Proofs.Pipeline.ConstructedTriples
import PagedSparql.Proofs.Query.MintedLabels
import PagedSparql.Proofs.Pipeline.RowLabels
import PagedSparql.Proofs.Eval.History
import PagedSparql.Proofs.Eval.Connectives
import PagedSparql.Proofs.Protocol.CancelledWalks
import PagedSparql.Proofs.Value.Calendar
import PagedSparql.Proofs.Value.DateTimeParts
import PagedSparql.Proofs.Value.DateTimeText
import PagedSparql.Proofs.Value.Durations
import PagedSparql.Proofs.Value.MovedTimes
import PagedSparql.Proofs.Value.StringSplits
import PagedSparql.Proofs.Text.UriEncoding
