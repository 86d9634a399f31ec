import RowShape.Sql.Grammar.Query

/-!
# Statements that change the rows of tables

Each parser here runs after its keyword has been taken.

## Main definitions

* `Grammar.insert`, `Grammar.update`, `Grammar.delete`, `Grammar.merge`: the statements.
* `Grammar.changes`: all of them by their keywords.
-/

namespace RowShape.Sql

open RowShape.Sql.Parser Piece

/-! ### Clauses -/

/-- The value that a column gets. -/
def Grammar.assignment (g : Grammar) : Parser (List Piece) := do
  let target ←
    if ← peekMark "(" then do
      let names ← inParens (sepByComma (qualifiedName g.dialect))
      pure ("(" ++ ", ".intercalate (names.map QualifiedName.render) ++ ")")
    else do pure (← qualifiedName g.dialect).render
  expectMark "="
  let e ← g.expr
  return [text (target ++ " = "), .expr e]

/-- Values that columns get. -/
private def Grammar.assignments (g : Grammar) : Parser (List Piece) := do
  return commas (← sepByComma g.assignment)

/-- A list of relations, as text. -/
private def Grammar.relationList (g : Grammar) : Parser String := do
  return ", ".intercalate ((← g.tables).map JoinedTable.render)

/-- What is returned of the changed rows. -/
private def Grammar.returning? (g : Grammar) : Parser (List Piece) := do
  match ← after? "RETURNING" (sepByComma g.projectionItem) with
  | some items => return [text (" RETURNING " ++ ", ".intercalate (items.map SelectItem.render))]
  | none => return []

/-- What becomes of a change that breaks a rule, as text. -/
private def onConflict? : Parser (Option String) := do
  match ← ["REPLACE", "ROLLBACK", "ABORT", "FAIL", "IGNORE"].findM? fun k =>
      acceptWords ["OR", k] with
  | some k => return some ("OR " ++ k)
  | none => if ← acceptWord "REPLACE" then return some "REPLACE" else return none

/-- Names of columns in parentheses, as text; none if there are no parentheses. -/
private def columnList? : Parser (Option String) := do
  if ← peekMark "(" then
    let names ← inParens (sepByComma identifier)
    return some ("(" ++ ", ".intercalate (names.map Ident.render) ++ ")")
  else return none

/-! ### `INSERT` -/

/-- What is done with a row that is there already. -/
private def Grammar.upsert? (g : Grammar) : Parser (List Piece) := do
  if ← acceptWord "ON" then
    if ← acceptWord "CONFLICT" then
      let target ←
        if ← acceptWords ["ON", "CONSTRAINT"] then do
          let n ← qualifiedName g.dialect
          pure (" ON CONSTRAINT " ++ n.render)
        else do pure ((← columnList?).getD "")
      expectWord "DO"
      if ← acceptWord "NOTHING" then return [text (" ON CONFLICT" ++ target ++ " DO NOTHING")]
      else
        expectWords ["UPDATE", "SET"]
        let values ← g.assignments
        let filter ← g.exprAfter? "WHERE"
        return text (" ON CONFLICT" ++ target ++ " DO UPDATE SET ") :: values ++ filter
    else
      expectWords ["DUPLICATE", "KEY", "UPDATE"]
      let values ← g.assignments
      return text " ON DUPLICATE KEY UPDATE " :: values
  else return []

/-- `INSERT`. -/
def Grammar.insert (g : Grammar) : Parser (List Piece) := do
  let conflict ← onConflict?
  let overwrite ← acceptWord "OVERWRITE"
  let into ← acceptWord "INTO"
  let table ← acceptWord "TABLE"
  let name ← qualifiedName g.dialect
  let aliased ← if g.dialect == .postgres then after? "AS" identifier else pure none
  let target := name.render ++ (aliased.map fun i => " AS " ++ i.render).getD "" ++ " "
  let lead := match conflict with
    | some c => "INSERT " ++ c ++ " INTO " ++ target
    | none => "INSERT" ++ (if overwrite then " OVERWRITE" else "") ++
      (if into then " INTO" else "") ++ (if table then " TABLE " else " ") ++ target
  let source ←
    if ← acceptWords ["DEFAULT", "VALUES"] then pure [text "DEFAULT VALUES"]
    else do
      let opens ← peekMark "("
      let query := opens && (← peekAt 1).token.keyword == "SELECT"
      let columns ← if query then pure none else columnList?
      let q ← g.query
      pure [text ((columns.map (· ++ " ")).getD ""), .query q]
  let upsert ← g.upsert?
  let returning ← g.returning?
  return text lead :: source ++ upsert ++ returning

/-! ### `UPDATE` and `DELETE` -/

/-- `UPDATE`. -/
def Grammar.update (g : Grammar) : Parser (List Piece) := do
  let conflict ← onConflict?
  let table ← g.joined
  let source := do return " FROM " ++ (← g.relationList)
  let before ← if ← acceptWord "FROM" then source else pure ""
  expectWord "SET"
  let values ← g.assignments
  let after ← if ← provided before.isEmpty (acceptWord "FROM") then source else pure ""
  let filter ← g.exprAfter? "WHERE"
  let returning ← g.returning?
  let limit ← g.exprAfter? "LIMIT"
  return text ("UPDATE " ++ (conflict.map (· ++ " ")).getD "" ++ table.render ++ before ++
    " SET ") :: values ++ text after :: filter ++ returning ++ limit

/-- `DELETE`. -/
def Grammar.delete (g : Grammar) : Parser (List Piece) := do
  let lead ←
    if ← acceptWord "FROM" then pure "DELETE FROM "
    else if g.dialect == .generic then pure "DELETE "
    else do
      let names ← sepByComma (qualifiedName g.dialect)
      expectWord "FROM"
      pure ("DELETE " ++ ", ".intercalate (names.map QualifiedName.render) ++ " FROM ")
  let tables ← g.relationList
  let others ←
    match ← after? "USING" g.relationList with
    | some ts => pure (" USING " ++ ts)
    | none => pure ""
  let filter ← g.exprAfter? "WHERE"
  let returning ← g.returning?
  let order ← g.orderBy?
  let limit ← g.exprAfter? "LIMIT"
  return text (lead ++ tables ++ others) :: filter ++ returning ++
    (if order.isEmpty then [] else text " " :: order) ++ limit

/-! ### `MERGE` -/

/-- What a clause of `MERGE` does. -/
private def Grammar.mergeAction (g : Grammar) : Parser (List Piece) := do
  match ← acceptOneOf ["UPDATE", "DELETE", "INSERT"] with
  | some "UPDATE" =>
    expectWord "SET"
    return text "UPDATE SET " :: (← g.assignments)
  | some "INSERT" =>
    let columns ← columnList?
    expectWord "VALUES"
    let rows ← g.rows "VALUES"
    return text ("INSERT " ++ (columns.map (· ++ " ")).getD "") :: rows
  | some k => return [text k]
  | none => throw (.nowhere (.malformed "expected UPDATE, DELETE or INSERT in merge clause"))

/-- A clause of `MERGE`. -/
private def Grammar.mergeClause? (g : Grammar) : Parser (Option (List Piece)) := do
  if ← acceptWord "WHEN" then
    let missing ← acceptWord "NOT"
    expectWord "MATCHED"
    let side ←
      if ← provided missing (acceptWords ["BY", "SOURCE"]) then pure " BY SOURCE"
      else if ← provided missing (acceptWords ["BY", "TARGET"]) then pure " BY TARGET"
      else pure ""
    let condition ← g.exprAfter? "AND"
    expectWord "THEN"
    let action ← g.mergeAction
    let kind := if missing then "NOT MATCHED" else "MATCHED"
    return some (text (" WHEN " ++ kind ++ side) :: condition ++ text " THEN " :: action)
  else return none

/-- `MERGE`. -/
def Grammar.merge (g : Grammar) : Parser (List Piece) := do
  let into ← acceptWord "INTO"
  let target ← g.relation
  expectWord "USING"
  let source ← g.relation
  expectWord "ON"
  let e ← g.expr
  let clauses ← many g.mergeClause?
  let output ←
    match ← after? "OUTPUT" (sepByComma g.projectionItem) with
    | some items => pure [text (" OUTPUT " ++ ", ".intercalate (items.map SelectItem.render))]
    | none => pure []
  return text ((if into then "MERGE INTO " else "MERGE ") ++ target.render ++ " USING " ++
    source.render ++ " ON ") :: .expr e :: clauses.flatten ++ output

/-- The statements of this module by their keywords. -/
def Grammar.changes (g : Grammar) : List (String × Parser (List Piece)) :=
  [("INSERT", g.insert), ("UPDATE", g.update), ("DELETE", g.delete), ("MERGE", g.merge)]

end RowShape.Sql
