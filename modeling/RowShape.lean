import RowShape.Catalog
import RowShape.Catalog.Json
import RowShape.Column.Collect
import RowShape.Column.Scope
import RowShape.Column.Resolve
import RowShape.Config
import RowShape.Config.Json
import RowShape.Decimal.Shortest
import RowShape.Diagnostic
import RowShape.Diagnostic.Json
import RowShape.Error
import RowShape.Json.Record
import RowShape.Json.Number
import RowShape.Json.Printer
import RowShape.Json.ReadError
import RowShape.Json.Reader
import RowShape.Json.Reader.Scalar
import RowShape.Json.Reader.Value
import RowShape.Json.Value
import RowShape.Metadata.Timestamp
import RowShape.Metadata.Source
import RowShape.Metadata.Source.Json
import RowShape.OrderedMap
import RowShape.Pipeline
import RowShape.Procedure.Statement
import RowShape.Proofs.Column.Extraction
import RowShape.Proofs.Document
import RowShape.Proofs.OrderedMap
import RowShape.Proofs.Registry
import RowShape.Proofs.Resolution
import RowShape.Proofs.Run
import RowShape.Proofs.Run.History
import RowShape.Proofs.Run.Reference
import RowShape.Proofs.Sql.Occurrence
import RowShape.Schema.Document
import RowShape.Schema.Document.Json
import RowShape.Schema.Registry
import RowShape.Schema.Synthesis
import RowShape.Schema.TypeMap
import RowShape.Schema.Validator
import RowShape.Session
import RowShape.Sql.Dialect
import RowShape.Sql.Grammar.Access
import RowShape.Sql.Grammar.Call
import RowShape.Sql.Grammar.Form
import RowShape.Sql.Grammar.Name
import RowShape.Sql.Grammar.Nested
import RowShape.Sql.Grammar.Operand
import RowShape.Sql.Grammar.Operator
import RowShape.Sql.Grammar.Parser
import RowShape.Sql.Grammar.Projection
import RowShape.Sql.Grammar.Query
import RowShape.Sql.Grammar.Query.Tail
import RowShape.Sql.Grammar.Relation
import RowShape.Sql.Grammar.Relation.Document
import RowShape.Sql.Grammar.Relation.Join
import RowShape.Sql.Grammar.Relation.Pivot
import RowShape.Sql.Grammar.Select
import RowShape.Sql.Grammar.Statement
import RowShape.Sql.Grammar.Statement.Change
import RowShape.Sql.Grammar.Statement.Control
import RowShape.Sql.Grammar.Statement.Definition
import RowShape.Sql.Grammar.Statement.Inspection
import RowShape.Sql.Grammar.Statement.Privilege
import RowShape.Sql.Grammar.Statement.Table
import RowShape.Sql.Grammar.TypeName
import RowShape.Sql.Ident
import RowShape.Sql.Literal
import RowShape.Sql.Printer
import RowShape.Sql.Syntax
import RowShape.Sql.SyntaxError
import RowShape.Sql.Token
import RowShape.Sql.Token.Lexer
import RowShape.Sql.Token.Mark
import RowShape.Sql.Token.Quoted
import RowShape.Text.Search
import RowShape.Text.Case
import RowShape.Text.Letter
import RowShape.Text.Printable
import RowShape.Proofs.Json.Canonical
import RowShape.Proofs.Run.Isolation
import RowShape.Proofs.Run.Order
import RowShape.Proofs.Text.Search
import RowShape.Proofs.Procedure.Body
import RowShape.Proofs.Procedure.Extraction
import RowShape.Proofs.Json.Reading
import RowShape.Proofs.Json.RoundTrip
import RowShape.Proofs.Json.Record
import RowShape.Proofs.Document.Text
import RowShape.Proofs.Run.Shape
import RowShape.Proofs.Session.Checks
import RowShape.Proofs.Validation
import RowShape.Proofs.Validation.Value
import RowShape.Proofs.Validation.Order
import RowShape.Proofs.SelfCheck
import RowShape.Proofs.Column.Walk
import RowShape.Proofs.Catalog
import RowShape.Proofs.Json.Pointer
import RowShape.Proofs.Document.Pointer
import RowShape.Proofs.Run.Address
import RowShape.Proofs.Column.Trace
import RowShape.Proofs.Json.Grammar
import RowShape.Proofs.Json.Ignored
import RowShape.Proofs.Catalog.Text
import RowShape.Proofs.Column.Alike
import RowShape.Proofs.Resolution.Exact
import RowShape.Proofs.Document.Required
import RowShape.Proofs.Document.Synthesis
import RowShape.Proofs.Column.Scope
import RowShape.Proofs.Column.BareName
import RowShape.Proofs.Session.Log
import RowShape.Proofs.Procedure.Statement
import RowShape.Proofs.Sql.Ident
import RowShape.Proofs.Column.Naming
import RowShape.Proofs.Column.Renaming
import RowShape.Proofs.Resolution.Wildcard
import RowShape.Proofs.Run.Coverage
import RowShape.Proofs.Document.Property
import RowShape.Proofs.Config.Text
import RowShape.Proofs.Resolution.Extension
import RowShape.Proofs.Json.Order
import RowShape.Proofs.Diagnostic.Text
