import RowShape.Column.Scope
import RowShape.Error
import RowShape.Sql.Grammar.Statement
import RowShape.Sql.Printer
import RowShape.Text.Case

/-!
# Collecting column references

The columns that a query returns, in the order in which they are written.

Only the items of projections count, and inside them only what belongs to the query itself: a
subquery that stands for a value adds the columns it returns, found in its own scope, while a query
under `EXISTS`, under `IN` or as an argument adds nothing.

## Main definitions

* `Expr.references`: the references of an expression in a scope.
* `Query.references`: the references of a query.
* `ColumnParser`: what reads the columns of a statement.
* `statementReferences`: the references of parsed statements.
* `sqlColumns`: the column parser of a dialect.
-/

namespace RowShape

open Sql

namespace Sql

/-- The function that a reference inside an expression is inside of: the expression itself, if it is
a call. -/
def Expr.aggregate? : Expr → Option String
  | .call name _ _ _ => some (Text.upperCase name.render)
  | _ => none

/-- The reference of a name with qualifiers: the last part is the column, and the part before it
the qualifier. -/
def compoundReference? (scope : Scope) (aggregate : Option String) (parts : List Ident) :
    Option ColumnRef :=
  match parts.reverse with
  | column :: qualifier :: _ => some ⟨aggregate, scope.sourceFor qualifier.value, column.value⟩
  | _ => none

/-- The reference of a literal, which is one if it is printed like a variable. -/
def literalReference? (marks : SourceMarks) (aggregate : Option String) (value : Literal) :
    Option ColumnRef :=
  let name := value.render
  if marks.isVariable name then some ⟨aggregate, name, name⟩ else none

mutual

/-- The references of an expression in a scope, each inside a function if there is one. -/
def Expr.references (marks : SourceMarks) (scope : Scope) (aggregate : Option String) :
    Expr → List ColumnRef
  | .ident name => [⟨aggregate, marks.bareSource scope name.value, name.value⟩]
  | .compound parts => (compoundReference? scope aggregate parts).toList
  | .literal value => (literalReference? marks aggregate value).toList
  | .binary left _ right =>
    left.references marks scope aggregate ++ right.references marks scope aggregate
  | .scalar query => query.references marks
  | .call _ arguments options withinGroup =>
    pieceReferences marks scope aggregate arguments ++
      pieceReferences marks scope aggregate options ++
      pieceReferences marks scope aggregate withinGroup
  | .trim subject _ what characters =>
    let cut := match what with
      | some e => e.references marks scope aggregate
      | none => []
    subject.references marks scope aggregate ++ cut ++
      pieceReferences marks scope aggregate characters
  | .optionalSide name => name.references marks scope aggregate
  | .phrase pieces => pieceReferences marks scope aggregate pieces

/-- The references of a piece: those of an operand. -/
def Piece.references (marks : SourceMarks) (scope : Scope) (aggregate : Option String) :
    Piece → List ColumnRef
  | .text _ => []
  | .expr e => e.references marks scope aggregate
  | .query _ => []

/-- The references of a phrase. -/
def pieceReferences (marks : SourceMarks) (scope : Scope) (aggregate : Option String) :
    List Piece → List ColumnRef
  | [] => []
  | p :: rest => p.references marks scope aggregate ++ pieceReferences marks scope aggregate rest

/-- The references of an item of a projection.  A wildcard refers to every named table once, a
qualified one to the table of its qualifier, and `(expression).*` to none. -/
def SelectItem.references (marks : SourceMarks) (scope : Scope) : SelectItem → List ColumnRef
  | .expr e _ => e.references marks scope e.aggregate?
  | .wildcard _ => scope.tables.map (ColumnRef.plain · "*")
  | .qualifiedWildcard name _ => [.plain (scope.sourceFor name.baseName) "*"]
  | .exprWildcard _ _ => []

/-- The references of the items of a projection. -/
def itemReferences (marks : SourceMarks) (scope : Scope) : List SelectItem → List ColumnRef
  | [] => []
  | item :: rest => item.references marks scope ++ itemReferences marks scope rest

/-- The references of a `SELECT`, in the scope of its own `FROM` clause. -/
def Select.references (marks : SourceMarks) : Select → List ColumnRef
  | .mk _ projection _ tables _ _ _ _ _ =>
    itemReferences marks (Scope.ofTables tables) projection

/-- The references of what a query returns. -/
def QueryBody.references (marks : SourceMarks) : QueryBody → List ColumnRef
  | .select s => s.references marks
  | .nested q => q.references marks
  | .setOperation left _ right => left.references marks ++ right.references marks
  | .other _ => []

/-- The references of a query: only what it returns counts. -/
def Query.references (marks : SourceMarks) : Query → List ColumnRef
  | .mk _ body _ _ => body.references marks

end

end Sql

/-! ### Column parsers -/

/-- Reads the columns that a statement returns. -/
abbrev ColumnParser := String → Except Error (List ColumnRef)

/-- The references of statements one after another; all of them have to be queries. -/
def statementReferences (marks : SourceMarks) : List Statement → Except Error (List ColumnRef)
  | [] => .ok []
  | .query q :: rest => (statementReferences marks rest).map (q.references marks ++ ·)
  | .other pieces :: _ =>
    .error (.unsupported ("expected SELECT, got: " ++ (Statement.other pieces).render))

/-- Reads the columns of the SQL statements of a text. -/
def sqlColumns (dialect : Dialect) (marks : SourceMarks) : ColumnParser := fun text =>
  match parseStatements dialect text with
  | .ok statements => statementReferences marks statements
  | .error e => .error (.parse e.message)

end RowShape
