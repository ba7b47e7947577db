import TableGate.Api.OpenApi
import TableGate.Api.Service
import TableGate.Backend.Capabilities
import TableGate.Backend.ChangeTracking
import TableGate.Backend.Definition
import TableGate.Backend.Health
import TableGate.Backend.Introspection
import TableGate.Backend.Pool
import TableGate.Backend.Registry
import TableGate.Backend.Reply
import TableGate.Backend.Scripted
import TableGate.Backend.Security
import TableGate.Backend.Session
import TableGate.Backend.Statement
import TableGate.Backend.Transaction
import TableGate.Calendar.Date
import TableGate.Calendar.Iso
import TableGate.Calendar.Stamp
import TableGate.Catalog.Postgres
import TableGate.Catalog.Queries
import TableGate.Catalog.Rows
import TableGate.Catalog.Source
import TableGate.Catalog.SqlServer
import TableGate.Config.Environment
import TableGate.Digest.Sha256
import TableGate.Error.Api
import TableGate.Error.Classification
import TableGate.Error.Code
import TableGate.Error.Fault
import TableGate.Feed
import TableGate.Feed.Scripted
import TableGate.Http.App
import TableGate.Http.Message
import TableGate.Http.Route
import TableGate.Http.Sharing
import TableGate.Json.Issue
import TableGate.Json.Reader
import TableGate.Json.Writer
import TableGate.Number.Decimal
import TableGate.Number.Double
import TableGate.Number.Read
import TableGate.Number.Shortest
import TableGate.Proofs.Except
import TableGate.Proofs.Number.Digits
import TableGate.Proofs.Query.Request
import TableGate.Proofs.Sql.Scan
import TableGate.Query.Compile
import TableGate.Query.Filter
import TableGate.Query.Read
import TableGate.Schema.Change
import TableGate.Schema.Connection
import TableGate.Schema.Ddl
import TableGate.Schema.Listing
import TableGate.Schema.LogicalType
import TableGate.Schema.Policy
import TableGate.Schema.Reader
import TableGate.Schema.Result
import TableGate.Schema.Table
import TableGate.Server.Settings
import TableGate.Server.Startup
import TableGate.Sql.Coercion
import TableGate.Sql.Dialect
import TableGate.Sql.Lexicon
import TableGate.Sql.Lexicons
import TableGate.Sql.Literal
import TableGate.Sql.Placeholder
import TableGate.Sql.Quotation
import TableGate.Sql.Script
import TableGate.Sql.Statement
import TableGate.Sql.Template
import TableGate.Sql.Token
import TableGate.Text.Blank
import TableGate.Text.Case
import TableGate.Text.CaseTable
import TableGate.Text.Cut
import TableGate.Text.Digit
import TableGate.Text.Hex
import TableGate.Text.Percent
import TableGate.Text.Printable
import TableGate.Text.Quoted
import TableGate.Text.Ranges
import TableGate.Text.Utf8
import TableGate.Text.WordChar
import TableGate.Value
import TableGate.Value.Number
import TableGate.Proofs.Sql.Positional
import TableGate.Proofs.Query.Binding
import TableGate.Proofs.Sql.Items
import TableGate.Proofs.Query.ReadBack
import TableGate.Proofs.Api.Mutations
import TableGate.Proofs.Backend.Rollback
import TableGate.Proofs.Backend.ChangeFeed
import TableGate.Proofs.Api.Operands
import TableGate.Proofs.Query.Pairs
import TableGate.Proofs.Text.Cut
import TableGate.Proofs.Query.RoundTrip
import TableGate.Proofs.Api.Documented
import TableGate.Proofs.Api.Rejection
import TableGate.Proofs.Catalog.Folding
import TableGate.Proofs.Catalog.Vanished
import TableGate.Proofs.Backend.Lease
import TableGate.Proofs.Backend.Operations
import TableGate.Proofs.Backend.Replay
import TableGate.Proofs.Sql.Segments
import TableGate.Proofs.Sql.Semicolon
import TableGate.Proofs.Sql.Statements
import TableGate.Proofs.Schema.Export
import TableGate.Proofs.Sql.Calm
import TableGate.Proofs.Schema.TableScript
import TableGate.Proofs.Query.Dialects
import TableGate.Proofs.Backend.Pools
import TableGate.Proofs.Sql.Quoted
import TableGate.Proofs.Backend.Policies
import TableGate.Proofs.Query.ValueFree
import TableGate.Proofs.Sql.Occurrences
import TableGate.Proofs.Sql.BoundText
import TableGate.Proofs.Catalog.Shuffled
import TableGate.Proofs.Catalog.Keys
import TableGate.Proofs.Backend.Keys
import TableGate.Proofs.Api.RowRoutes
import TableGate.Proofs.Query.Unread
import TableGate.Proofs.Query.PageBounds
import TableGate.Proofs.Api.Totals
import TableGate.Proofs.Sql.Extents
import TableGate.Proofs.Query.Grammar
import TableGate.Proofs.Text.Lower
import TableGate.Proofs.Error.Messages
import TableGate.Proofs.Number.Spelling
import TableGate.Proofs.Sql.Parameters
import TableGate.Proofs.Backend.PolicyTexts
import TableGate.Proofs.Sql.Names
import TableGate.Proofs.Schema.Additions
