import RowShape.Sql.Literal

/-!
# Syntax trees

Trees of SQL statements, as detailed as the shape of result rows asks for.

An expression that is no name, value, call or subquery is a *phrase*: its keywords and operands in
reading order.  The clauses of a query that do not shape its rows are phrases too, each under the
name of its clause.

## Main definitions

* `Expr`, `Piece`: expressions, and the pieces of phrases.
* `Query`, `QueryBody`, `Select`, `SelectItem`: queries.
* `Relation`, `Join`, `JoinedTable`: the `FROM` clause.
* `Statement`: a query, or a statement that is only known by its wording.
-/

namespace RowShape.Sql

/-- The alias of a table, perhaps with names for its columns. -/
structure TableAlias where
  /-- The name of the table inside the query. -/
  name : Ident
  /-- The names of its columns, as written. -/
  columns : List String
  deriving DecidableEq, Inhabited

mutual

/-- An expression. -/
inductive Expr where
  /-- A single identifier. -/
  | ident (name : Ident)
  /-- Identifiers joined by periods. -/
  | compound (parts : List Ident)
  /-- A literal value. -/
  | literal (value : Literal)
  /-- Two operands with an operator between them. -/
  | binary (left : Expr) (operator : String) (right : Expr)
  /-- A query that stands for its value. -/
  | scalar (query : Query)
  /-- A function call: its arguments, then `FILTER`, treatment of nulls and `OVER`, and the
  order `WITHIN GROUP`. -/
  | call (name : QualifiedName) (arguments options withinGroup : List Piece)
  /-- `TRIM`: the text to trim comes before what is cut off, although it is written after it. -/
  | trim (subject : Expr) (side : Option String) (what : Option Expr) (characters : List Piece)
  /-- The side of a join that may be missing. -/
  | optionalSide (name : Expr)
  /-- Any other form: its keywords and operands in reading order. -/
  | phrase (pieces : List Piece)

/-- A piece of a phrase. -/
inductive Piece where
  /-- Keywords and marks. -/
  | text (s : String)
  /-- An operand. -/
  | expr (e : Expr)
  /-- A query that is no operand: under `EXISTS`, `IN`, as an argument, or as a table. -/
  | query (q : Query)

/-- A query with the clauses around its body. -/
inductive Query where
  /-- `withClause` holds common table expressions, `orderBy` the order, and `limit` whatever
  follows it. -/
  | mk (withClause : List Piece) (body : QueryBody) (orderBy limit : List Piece)

/-- What a query returns. -/
inductive QueryBody where
  /-- A `SELECT`. -/
  | select (s : Select)
  /-- A query in parentheses. -/
  | nested (q : Query)
  /-- `UNION`, `EXCEPT` or `INTERSECT` of two bodies. -/
  | setOperation (left : QueryBody) (operator : String) (right : QueryBody)
  /-- Rows that come from no `SELECT`. -/
  | other (pieces : List Piece)

/-- A `SELECT`. -/
inductive Select where
  /-- `quantifier` holds `DISTINCT` and `TOP`; `filter`, `groupBy`, `having` and `windows` the
  clauses after `FROM`.  `fromLeads` tells that `FROM` is written first. -/
  | mk (quantifier : List Piece) (projection : List SelectItem) (into : List Piece)
      (tables : List JoinedTable) (filter groupBy having windows : List Piece) (fromLeads : Bool)

/-- An item of a projection. -/
inductive SelectItem where
  /-- An expression, perhaps with an alias. -/
  | expr (e : Expr) (aliased : Option Ident)
  /-- `*`, with options. -/
  | wildcard (options : List Piece)
  /-- `name.*`, with options. -/
  | qualifiedWildcard (name : QualifiedName) (options : List Piece)
  /-- `(expression).*`, with options. -/
  | exprWildcard (e : Expr) (options : List Piece)

/-- A relation with the relations joined to it. -/
inductive JoinedTable where
  | mk (relation : Relation) (joins : List Join)

/-- A relation joined to those before it: the kind of join, and its condition. -/
inductive Join where
  | mk (kind : String) (relation : Relation) (condition : List Piece)

/-- A relation of a `FROM` clause. -/
inductive Relation where
  /-- A named table, or a function that returns one.  `details` stands before the alias and
  `hints` after it. -/
  | table (name : QualifiedName) (details : List Piece) (aliased : Option TableAlias)
      (hints : List Piece)
  /-- Joined tables in parentheses. -/
  | nested (tables : JoinedTable) (aliased : Option TableAlias)
  /-- A relation that is no table of a catalog. -/
  | derived (pieces : List Piece) (aliased : Option TableAlias)

end

/-- A statement. -/
inductive Statement where
  /-- A query. -/
  | query (q : Query)
  /-- Any other statement. -/
  | other (pieces : List Piece)

instance : Inhabited Expr := ⟨.phrase []⟩

namespace Query

/-- What a query returns. -/
def body : Query → QueryBody
  | mk _ b _ _ => b

end Query

namespace Select

/-- The items of the projection. -/
def projection : Select → List SelectItem
  | mk _ p _ _ _ _ _ _ _ => p

/-- The `FROM` clause. -/
def tables : Select → List JoinedTable
  | mk _ _ _ f _ _ _ _ _ => f

end Select

end RowShape.Sql
