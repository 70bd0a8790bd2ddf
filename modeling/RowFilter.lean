import RowFilter.Calendar.Date
import RowFilter.Calendar.Instant
import RowFilter.Calendar.Reader
import RowFilter.Calendar.Writer
import RowFilter.Failure
import RowFilter.Filter.Argument
import RowFilter.Filter.Decoding
import RowFilter.Filter.Encoding
import RowFilter.Filter.Operator
import RowFilter.Filter.Reader
import RowFilter.Filter.Tree
import RowFilter.Filter.Value
import RowFilter.Http.FilterRequest
import RowFilter.Http.Limits
import RowFilter.Http.Problem
import RowFilter.Http.Response
import RowFilter.Http.Router
import RowFilter.Http.Settings
import RowFilter.Json.Basic
import RowFilter.Json.Collection
import RowFilter.Json.Expected
import RowFilter.Json.Fault
import RowFilter.Json.Reader
import RowFilter.Json.Skip
import RowFilter.Json.Source
import RowFilter.Json.Token
import RowFilter.Json.Writer
import RowFilter.LogSettings
import RowFilter.Number.BigEndian
import RowFilter.Number.Double
import RowFilter.Number.Natural
import RowFilter.Number.Reading
import RowFilter.Number.Rounding
import RowFilter.Number.Shortest
import RowFilter.Number.Style
import RowFilter.Postgres.Clock
import RowFilter.Postgres.ColumnType
import RowFilter.Postgres.Parameter
import RowFilter.Postgres.Pool
import RowFilter.Postgres.Problem
import RowFilter.Postgres.Row
import RowFilter.Postgres.Select
import RowFilter.Postgres.Session
import RowFilter.Postgres.Settings
import RowFilter.Postgres.Summary
import RowFilter.Predicate.Basic
import RowFilter.Predicate.Comparison
import RowFilter.Predicate.Compilation
import RowFilter.Predicate.Matching
import RowFilter.Predicate.Parameterised
import RowFilter.Predicate.WhereObject
import RowFilter.Proofs.Calendar.Days
import RowFilter.Proofs.Calendar.FourDigitYears
import RowFilter.Proofs.Calendar.Instants
import RowFilter.Proofs.Calendar.Stamps
import RowFilter.Proofs.Filter.Arguments
import RowFilter.Proofs.Filter.Decoding
import RowFilter.Proofs.Filter.Depth
import RowFilter.Proofs.Filter.FirstFailure
import RowFilter.Proofs.Filter.Folding
import RowFilter.Proofs.Filter.Grammar
import RowFilter.Proofs.Filter.Meaning
import RowFilter.Proofs.Filter.Places
import RowFilter.Proofs.Filter.Reading
import RowFilter.Proofs.Filter.Reencoding
import RowFilter.Proofs.Filter.RoundTrip
import RowFilter.Proofs.Filter.WholeFilters
import RowFilter.Proofs.Filter.WrittenText
import RowFilter.Proofs.Filter.WrittenTree
import RowFilter.Proofs.Http.Exchanges
import RowFilter.Proofs.Http.NestedGroups
import RowFilter.Proofs.Http.Responses
import RowFilter.Proofs.Http.Statuses
import RowFilter.Proofs.Http.Transports
import RowFilter.Proofs.Http.WrittenFilters
import RowFilter.Proofs.Json.AsWritten
import RowFilter.Proofs.Json.Collections
import RowFilter.Proofs.Json.LongNumerals
import RowFilter.Proofs.Json.Members
import RowFilter.Proofs.Json.Nesting
import RowFilter.Proofs.Json.NumberRange
import RowFilter.Proofs.Json.Numerals
import RowFilter.Proofs.Json.Places
import RowFilter.Proofs.Json.PrintedCollections
import RowFilter.Proofs.Json.PrintedNumbers
import RowFilter.Proofs.Json.Quotations
import RowFilter.Proofs.Json.ReadBack
import RowFilter.Proofs.Json.Readable
import RowFilter.Proofs.Json.Records
import RowFilter.Proofs.Json.Values
import RowFilter.Proofs.Number.Digits
import RowFilter.Proofs.Number.Doubles
import RowFilter.Proofs.Number.Nearest
import RowFilter.Proofs.Number.Rounding
import RowFilter.Proofs.Number.ShortestDigits
import RowFilter.Proofs.Postgres.Binding
import RowFilter.Proofs.Postgres.NumberedParameters
import RowFilter.Proofs.Postgres.ReadBack
import RowFilter.Proofs.Postgres.StatementShapes
import RowFilter.Proofs.Postgres.Steps
import RowFilter.Proofs.Postgres.UrlSettings
import RowFilter.Proofs.Postgres.UserParameters
import RowFilter.Proofs.Postgres.WholeColumns
import RowFilter.Proofs.Postgres.WholeParameters
import RowFilter.Proofs.Predicate.Combining
import RowFilter.Proofs.Predicate.ExactSearch
import RowFilter.Proofs.Predicate.Leaves
import RowFilter.Proofs.Predicate.NormalForm
import RowFilter.Proofs.Predicate.Parameterised
import RowFilter.Proofs.Predicate.Recursion
import RowFilter.Proofs.Predicate.Shapes
import RowFilter.Proofs.Predicate.TextKinds
import RowFilter.Proofs.Predicate.TextOrder
import RowFilter.Proofs.Predicate.Verdicts
import RowFilter.Proofs.Predicate.WhereReading
import RowFilter.Proofs.Predicate.WhereSharing
import RowFilter.Proofs.Predicate.WhereTruth
import RowFilter.Proofs.Schema.Registry
import RowFilter.Proofs.Schema.TypeNames
import RowFilter.Proofs.Schema.WrittenFields
import RowFilter.Proofs.Service.HiddenColumns
import RowFilter.Proofs.Service.SelectedRows
import RowFilter.Proofs.Service.TestedColumns
import RowFilter.Proofs.Sql.CharacterOrder
import RowFilter.Proofs.Sql.Clauses
import RowFilter.Proofs.Sql.Databases
import RowFilter.Proofs.Sql.EscapedPatterns
import RowFilter.Proofs.Sql.FirstFailures
import RowFilter.Proofs.Sql.Grammar
import RowFilter.Proofs.Sql.Injection
import RowFilter.Proofs.Sql.Like
import RowFilter.Proofs.Sql.Literals
import RowFilter.Proofs.Sql.Numbering
import RowFilter.Proofs.Sql.Numerals
import RowFilter.Proofs.Sql.Rendering
import RowFilter.Proofs.Sql.Spelling
import RowFilter.Proofs.Sql.StatementFailures
import RowFilter.Proofs.Sql.StatementText
import RowFilter.Proofs.Sql.StatementTruth
import RowFilter.Proofs.Sql.Tokens
import RowFilter.Proofs.Sql.Truth
import RowFilter.Proofs.Sql.WholeLiterals
import RowFilter.Proofs.Sql.WrittenDates
import RowFilter.Proofs.Store.Projections
import RowFilter.Proofs.Text.Lowercase
import RowFilter.Proofs.Text.Parts
import RowFilter.Proofs.Text.Utf8
import RowFilter.Proofs.Url.Authorities
import RowFilter.Proofs.Url.FormEncoding
import RowFilter.Proofs.Url.PercentEncoding
import RowFilter.Proofs.Uuid
import RowFilter.Proofs.Validation.Acceptance
import RowFilter.Proofs.Validation.Arguments
import RowFilter.Relation
import RowFilter.Schema.Field
import RowFilter.Schema.Reader
import RowFilter.Schema.Registry
import RowFilter.Service
import RowFilter.Sql.Clause
import RowFilter.Sql.Literal
import RowFilter.Sql.Quoting
import RowFilter.Sql.Statement
import RowFilter.Store.Call
import RowFilter.Store.Tables
import RowFilter.Text.Blank
import RowFilter.Text.Capitalised
import RowFilter.Text.CaseTable
import RowFilter.Text.CasedTable
import RowFilter.Text.CharRanges
import RowFilter.Text.Composed
import RowFilter.Text.CompositionTable
import RowFilter.Text.Hex
import RowFilter.Text.Joined
import RowFilter.Text.Lowercase
import RowFilter.Text.MarkTable
import RowFilter.Text.Occurrence
import RowFilter.Text.Quoted
import RowFilter.Text.UnprintableTable
import RowFilter.Text.Utf8
import RowFilter.TypeName
import RowFilter.Url.Address
import RowFilter.Url.Basic
import RowFilter.Url.Domain.Direction
import RowFilter.Url.Domain.DirectionTable
import RowFilter.Url.Domain.Joiner
import RowFilter.Url.Domain.JoiningTable
import RowFilter.Url.Domain.Mapping
import RowFilter.Url.Domain.MappingTable
import RowFilter.Url.Domain.Punycode
import RowFilter.Url.Domain.Reader
import RowFilter.Url.Domain.RefusedTable
import RowFilter.Url.Encoding
import RowFilter.Url.FormData
import RowFilter.Url.Path
import RowFilter.Url.Reader
import RowFilter.Users
import RowFilter.Uuid
import RowFilter.Validation
import RowFilter.Variables
