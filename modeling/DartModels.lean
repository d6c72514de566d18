import DartModels.Catalog.Basic
import DartModels.Catalog.Dependency
import DartModels.Catalog.File
import DartModels.Catalog.Grouping
import DartModels.Catalog.Requirement
import DartModels.Catalog.Snapshot
import DartModels.CommandLine.Given
import DartModels.CommandLine.Request
import DartModels.CommandLine.Run
import DartModels.CommandLine.Switch
import DartModels.CommandLine.Usage
import DartModels.Constraint.SchemaCheck
import DartModels.Dart.Declaration
import DartModels.Dart.Enum
import DartModels.Dart.Literal
import DartModels.Dart.Naming
import DartModels.Dart.Record
import DartModels.Dart.RowClass
import DartModels.Dart.Source
import DartModels.Dart.Type
import DartModels.Diagnostic
import DartModels.Fault
import DartModels.Graph.Postorder
import DartModels.Graph.Reachable
import DartModels.Json.Basic
import DartModels.Json.Display
import DartModels.Json.Key
import DartModels.Json.Reader
import DartModels.Json.Table
import DartModels.Json.Writer
import DartModels.Main
import DartModels.Number.Binary64
import DartModels.Number.Shortest
import DartModels.Problem
import DartModels.Proofs.Graph.Postorder
import DartModels.Proofs.Json.Table
import DartModels.Proofs.Outcome
import DartModels.Registry
import DartModels.Report.Basic
import DartModels.Resolution.ColumnType
import DartModels.Resolution.Generator
import DartModels.Resolution.Mapping
import DartModels.Resolution.SchemaColumn
import DartModels.Resolution.SchemaRecords
import DartModels.Resolution.Translations
import DartModels.Schema.Declared
import DartModels.Schema.Typing
import DartModels.Sorting.Merge
import DartModels.Sorting.Run
import DartModels.Sorting.Sort
import DartModels.Sql.Call
import DartModels.Sql.Clause
import DartModels.Sql.DataType
import DartModels.Sql.Expression
import DartModels.Sql.Keyword
import DartModels.Sql.Lexer
import DartModels.Sql.Name
import DartModels.Sql.Objection
import DartModels.Sql.Operand
import DartModels.Sql.OtherStatement
import DartModels.Sql.Parse
import DartModels.Sql.Pivot
import DartModels.Sql.Query
import DartModels.Sql.QueryClause
import DartModels.Sql.Reading
import DartModels.Sql.Shape
import DartModels.Sql.Signature
import DartModels.Sql.SpecialCall
import DartModels.Sql.Statement
import DartModels.Sql.TableAlias
import DartModels.Sql.Token
import DartModels.Text.Blank
import DartModels.Text.Digit
import DartModels.Text.Joined
import DartModels.Text.Lowercase
import DartModels.Text.Occurrence
import DartModels.Text.Quoted
import DartModels.Text.Ranges
import DartModels.Text.Similar
import DartModels.Text.Sorted
import DartModels.Text.Unprintable
import DartModels.Text.Unstyled
import DartModels.Text.Word
import DartModels.Traced
import DartModels.Proofs.Catalog.Lookup
import DartModels.Proofs.Catalog.Arrangement
import DartModels.Proofs.Catalog.Reference
import DartModels.Proofs.Catalog.Order
import DartModels.Proofs.Graph.Reachable
import DartModels.Proofs.Catalog.Requirement
import DartModels.Proofs.Schema.Soundness
import DartModels.Proofs.Catalog.Snapshot
import DartModels.Proofs.Catalog.Collection
import DartModels.Proofs.Resolution.Listing
import DartModels.Proofs.Resolution.Lookup
import DartModels.Proofs.Resolution.Mapping
import DartModels.Proofs.Resolution.Settling
import DartModels.Proofs.Schema.Events
import DartModels.Proofs.Resolution.Run
import DartModels.Proofs.Resolution.ClassNames
import DartModels.Proofs.Resolution.Composite
import DartModels.Proofs.Resolution.Override
import DartModels.Proofs.Resolution.Independence
import DartModels.Proofs.Dart.Mention
import DartModels.Proofs.Dart.RoundTrip
import DartModels.Proofs.Resolution.SchemaRecords
import DartModels.Proofs.Resolution.Declaration
import DartModels.Proofs.Dart.Evaluation
import DartModels.Proofs.Dart.Expression
import DartModels.Proofs.Dart.Identity
import DartModels.Proofs.Resolution.RecordOrder
import DartModels.Proofs.Resolution.Dynamic
import DartModels.Proofs.Sorting.Run
import DartModels.Proofs.Sorting.Merge
import DartModels.Proofs.Sorting.Sort
import DartModels.Proofs.Catalog.Grouping
import DartModels.Proofs.Catalog.Placement
import DartModels.Proofs.Resolution.Spelling
import DartModels.Proofs.Resolution.ColumnOrder
import DartModels.Proofs.Json.Text
import DartModels.Proofs.Json.RoundTrip
import DartModels.Proofs.Text.Letters
import DartModels.Proofs.Text.Blank
import DartModels.Proofs.Sql.Reading
import DartModels.Proofs.Sql.Closing
import DartModels.Proofs.Sql.Opening
import DartModels.Proofs.Sql.Call
import DartModels.Proofs.Sql.Lexing
import DartModels.Proofs.Sql.Nesting
import DartModels.Proofs.Constraint.Spelling
import DartModels.Proofs.Constraint.RoundTrip
import DartModels.Proofs.Resolution.Registration
import DartModels.Proofs.Json.Distinct
import DartModels.Proofs.Resolution.Translations
import DartModels.Proofs.Sql.Gives
import DartModels.Proofs.Sql.Grammar
import DartModels.Proofs.Sql.Dullness
import DartModels.Proofs.Sql.Calls
import DartModels.Proofs.Sql.Operands
import DartModels.Proofs.Sql.Operators
import DartModels.Proofs.Sql.Soundness
import DartModels.Proofs.Sql.Placement
import DartModels.Proofs.Constraint.Acceptance
import DartModels.Proofs.Constraint.Accounting
import DartModels.Proofs.Text.Lines
import DartModels.Proofs.Dart.Literal
import DartModels.Proofs.Dart.Naming
import DartModels.Proofs.Dart.Enum
import DartModels.Proofs.Dart.Labels
import DartModels.Proofs.Resolution.Labels
import DartModels.Proofs.Schema.Replacement
import DartModels.Proofs.Catalog.Loading
import DartModels.Proofs.Catalog.Stability
import DartModels.Proofs.Dart.Rows
import DartModels.Proofs.Resolution.WellFormed
import DartModels.Proofs.Dart.Outline
import DartModels.Proofs.Report.RoundTrip
import DartModels.Proofs.Dart.Insert
import DartModels.Proofs.Resolution.Conflict
import DartModels.Proofs.Dart.EnumLines
import DartModels.Proofs.Text.Unstyled
import DartModels.Proofs.CommandLine.Generation
