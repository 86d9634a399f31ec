import RowShape.Sql.Syntax

/-!
# Printing syntax trees

The normal form of statements: keywords in upper case, one space between words.

## Main definitions

* `Expr.render`, `Query.render`, `Relation.render`: the texts of the parts.
* `Statement.render`: the text of a statement.
-/

namespace RowShape.Sql

/-- The written form of an alias. -/
def TableAlias.render (a : TableAlias) : String :=
  a.name.render ++
    if a.columns.isEmpty then "" else " (" ++ ", ".intercalate a.columns ++ ")"

/-- The written form of an optional alias, with `AS` before it. -/
def renderAlias : Option TableAlias → String
  | some a => " AS " ++ a.render
  | none => ""

mutual

/-- The text of an expression. -/
def Expr.render : Expr → String
  | .ident name => name.render
  | .compound parts => ".".intercalate (parts.map Ident.render)
  | .literal value => value.render
  | .binary left operator right => left.render ++ " " ++ operator ++ " " ++ right.render
  | .scalar query => "(" ++ query.render ++ ")"
  | .call name arguments options withinGroup =>
    name.render ++ renderPieces arguments ++ renderPieces withinGroup ++ renderPieces options
  | .trim subject side what characters =>
    let lead := match side with
      | some s => s ++ " "
      | none => ""
    let cut := match what with
      | some e => e.render ++ " FROM "
      | none => ""
    "TRIM(" ++ lead ++ cut ++ subject.render ++ renderPieces characters ++ ")"
  | .optionalSide name => name.render ++ " (+)"
  | .phrase pieces => renderPieces pieces

/-- The text of one piece. -/
def Piece.render : Piece → String
  | .text s => s
  | .expr e => e.render
  | .query q => q.render

/-- The text of a phrase. -/
def renderPieces : List Piece → String
  | [] => ""
  | p :: rest => p.render ++ renderPieces rest

/-- The text of a query. -/
def Query.render : Query → String
  | .mk withClause body orderBy limit =>
    renderPieces withClause ++ body.render ++ renderPieces orderBy ++ renderPieces limit

/-- The text of a body. -/
def QueryBody.render : QueryBody → String
  | .select s => s.render
  | .nested q => "(" ++ q.render ++ ")"
  | .setOperation left operator right => left.render ++ " " ++ operator ++ " " ++ right.render
  | .other pieces => renderPieces pieces

/-- The text of a `SELECT`. -/
def Select.render : Select → String
  | .mk quantifier projection into tables filter groupBy having windows fromLeads =>
    let source := match tables with
      | [] => ""
      | t :: rest => "FROM " ++ t.render ++ renderTables rest
    let items := match projection with
      | [] => ""
      | item :: rest => " " ++ item.render ++ renderItems rest
    let spaced := if source.isEmpty then "" else " " ++ source
    (if fromLeads then source ++ " " else "") ++ "SELECT" ++ renderPieces quantifier ++ items ++
      renderPieces into ++ (if fromLeads then "" else spaced) ++ renderPieces filter ++
      renderPieces groupBy ++ renderPieces having ++ renderPieces windows

/-- The text of an item of a projection. -/
def SelectItem.render : SelectItem → String
  | .expr e none => e.render
  | .expr e (some aliased) => e.render ++ " AS " ++ aliased.render
  | .wildcard options => "*" ++ renderPieces options
  | .qualifiedWildcard name options => name.render ++ ".*" ++ renderPieces options
  | .exprWildcard e options => e.render ++ ".*" ++ renderPieces options

/-- The text of further items of a projection. -/
def renderItems : List SelectItem → String
  | [] => ""
  | item :: rest => ", " ++ item.render ++ renderItems rest

/-- The text of a relation with its joins. -/
def JoinedTable.render : JoinedTable → String
  | .mk relation joins => relation.render ++ renderJoins joins

/-- The text of further relations. -/
def renderTables : List JoinedTable → String
  | [] => ""
  | t :: rest => ", " ++ t.render ++ renderTables rest

/-- The text of joins. -/
def renderJoins : List Join → String
  | [] => ""
  | j :: rest => j.render ++ renderJoins rest

/-- The text of a join. -/
def Join.render : Join → String
  | .mk kind relation condition => " " ++ kind ++ " " ++ relation.render ++ renderPieces condition

/-- The text of a relation. -/
def Relation.render : Relation → String
  | .table name details aliased hints =>
    name.render ++ renderPieces details ++ renderAlias aliased ++ renderPieces hints
  | .nested tables aliased => "(" ++ tables.render ++ ")" ++ renderAlias aliased
  | .derived pieces aliased => renderPieces pieces ++ renderAlias aliased

end

/-- The text of a statement. -/
def Statement.render : Statement → String
  | .query q => q.render
  | .other pieces => renderPieces pieces

end RowShape.Sql
