import RowShape.Sql.Syntax
import RowShape.Text.Search

/-!
# Where columns come from

What a query says about a column of its result is a reference to a column of some source, before
anybody has looked whether there is such a table.  What the source can be is a matter of the scope:
the tables that the items of a `SELECT` can refer to.

## Main definitions

* `ColumnRef`: a source, a column, and the function around them.
* `ColumnRef.render`: the written form.
* `Scope`: named tables, their aliases, and how many relations have no name in a catalog.
* `Scope.ofTables`: the scope of a `FROM` clause.
* `Scope.sourceFor`: the table that a qualifier stands for.
* `Scope.singleTable?`: the table of columns without a qualifier.
* `SourceMarks`: how references without a table are marked.
-/

namespace RowShape

open Sql

/-! ### References -/

/-- A reference to a column of a source. -/
structure ColumnRef where
  /-- The function that is applied to the column. -/
  aggregate : Option String
  /-- A table, a variable, or the mark for a column that no table in scope accounts for. -/
  source : String
  /-- The name of the column. -/
  column : String
  deriving DecidableEq, Inhabited

namespace ColumnRef

/-- A reference without a function around it. -/
def plain (source column : String) : ColumnRef := ⟨none, source, column⟩

/-- The reference stands for all columns of its source. -/
def isWildcard (r : ColumnRef) : Bool := r.column == "*"

/-- The written form: `source.column`, inside the parentheses of the function. -/
def render (r : ColumnRef) : String :=
  let path := r.source ++ "." ++ r.column
  match r.aggregate with
  | some f => f ++ "(" ++ path ++ ")"
  | none => path

end ColumnRef

/-! ### Scopes -/

/-- The relations of a `FROM` clause. -/
structure Scope where
  /-- The named tables from left to right. -/
  tables : List String
  /-- Aliases with their tables, the latest first. -/
  aliases : List (String × String)
  /-- The number of relations that are no tables of a catalog. -/
  unnamed : Nat
  deriving DecidableEq, Inhabited

namespace Scope

/-- The scope without relations. -/
def empty : Scope := ⟨[], [], 0⟩

/-- Adds a named table. -/
def addTable (scope : Scope) (table : String) (aliased : Option TableAlias) : Scope :=
  { scope with
    tables := scope.tables ++ [table]
    aliases := match aliased with
      | some a => (a.name.value, table) :: scope.aliases
      | none => scope.aliases }

/-- Adds a relation that is no table of a catalog. -/
def addUnnamed (scope : Scope) : Scope := { scope with unnamed := scope.unnamed + 1 }

mutual

/-- Adds a relation; joined tables in parentheses count one by one. -/
def addRelation (scope : Scope) : Relation → Scope
  | .table name _ aliased _ => scope.addTable name.baseName aliased
  | .nested tables _ => scope.addJoined tables
  | .derived _ _ => scope.addUnnamed

/-- Adds a relation and those joined to it. -/
def addJoined (scope : Scope) : JoinedTable → Scope
  | .mk relation joins => (scope.addRelation relation).addJoins joins

/-- Adds the relations of joins. -/
def addJoins (scope : Scope) : List Join → Scope
  | [] => scope
  | .mk _ relation _ :: rest => (scope.addRelation relation).addJoins rest

end

/-- The scope of a `FROM` clause. -/
def ofTables (tables : List JoinedTable) : Scope := tables.foldl addJoined empty

/-- The table behind a qualifier: that of the latest alias of this name, or the qualifier
itself. -/
def sourceFor (scope : Scope) (qualifier : String) : String :=
  (scope.aliases.lookup qualifier).getD qualifier

/-- The only relation of the scope, if it is a named table. -/
def singleTable? (scope : Scope) : Option String :=
  match scope.tables, scope.unnamed with
  | [table], 0 => some table
  | _, _ => none

end Scope

/-! ### Marks -/

/-- How references without a table are marked. -/
structure SourceMarks where
  /-- The source of columns that no table in scope accounts for. -/
  nullMarker : String
  /-- The beginning of the names of variables. -/
  variablePrefix : String
  deriving DecidableEq, Inhabited

namespace SourceMarks

/-- A name is that of a variable. -/
def isVariable (marks : SourceMarks) (name : String) : Bool :=
  Text.startsWith marks.variablePrefix name

/-- The source of a column that is named without a qualifier: a variable is its own source. -/
def bareSource (marks : SourceMarks) (scope : Scope) (name : String) : String :=
  if marks.isVariable name then name else scope.singleTable?.getD marks.nullMarker

end SourceMarks

end RowShape
