import RowShape.Sql.Grammar.Projection
import RowShape.Sql.Grammar.Relation

/-!
# `SELECT`

## Main definitions

* `Grammar.quantifier`, `Grammar.groupBy`, `Grammar.windows`: the clauses of a `SELECT`.
* `Grammar.select`: a `SELECT` up to the end of its own clauses.
-/

namespace RowShape.Sql

open RowShape.Sql.Parser Piece

/-! ### Before the projection -/

/-- `DISTINCT`, perhaps with the expressions that tell rows apart. -/
private def Grammar.distinct? (g : Grammar) : Parser (List Piece) := do
  let l ← peek
  let all ← acceptWord "ALL"
  if ← acceptWord "DISTINCT" then
    if all then failAt l .allAndDistinct
    else if ← acceptWord "ON" then
      let es ← inParens (sepByCommaUntil ")" g.expr)
      return text " DISTINCT ON (" :: exprs es ++ [text ")"]
    else return [text " DISTINCT"]
  else return []

/-- `TOP` and the number of rows. -/
private def Grammar.top? (g : Grammar) : Parser (List Piece) := do
  if ← acceptWord "TOP" then
    let quantity ←
      if ← peekMark "(" then do
        let e ← inParens g.expr
        pure [text "(", .expr e, text ")"]
      else do
        let n ← count
        pure [text n]
    let percent ← acceptWord "PERCENT"
    let ties ← acceptWords ["WITH", "TIES"]
    return text " TOP " :: quantity ++
      [text ((if percent then " PERCENT" else "") ++ if ties then " WITH TIES" else "")]
  else return []

/-- What stands between `SELECT` and the projection. -/
def Grammar.quantifier (g : Grammar) : Parser (List Piece) := do
  let distinct ← g.distinct?
  let top ← g.top?
  return distinct ++ top

/-- The table that the rows go into. -/
private def into? (d : Dialect) : Parser (List Piece) := do
  if ← acceptWord "INTO" then
    let temporary := (← acceptOneOf ["TEMP", "TEMPORARY"]).isSome
    let unlogged ← acceptWord "UNLOGGED"
    let table ← acceptWord "TABLE"
    let name ← qualifiedName d
    return [text (" INTO" ++ (if temporary then " TEMPORARY" else "") ++
      (if unlogged then " UNLOGGED" else "") ++ (if table then " TABLE " else " ") ++ name.render)]
  else return []

/-! ### Filters -/

/-- Views of the members of collections. -/
private def Grammar.lateralView? (g : Grammar) : Parser (Option (List Piece)) := do
  if ← acceptWords ["LATERAL", "VIEW"] then
    let outer ← acceptWord "OUTER"
    let e ← g.expr
    let name ← qualifiedName g.dialect
    let reserved := ["WHERE", "GROUP", "CLUSTER", "HAVING", "LATERAL"]
    let aliases ← sepByComma (asOrAlias? reserved.contains)
    let names := aliases.filterMap (·.map Ident.render)
    return some [text (if outer then " LATERAL VIEW OUTER " else " LATERAL VIEW "), .expr e,
      text (" " ++ name.render ++ if names.isEmpty then "" else " AS " ++ ", ".intercalate names)]
  else return none

/-- The filters of a `SELECT`. -/
private def Grammar.filters (g : Grammar) : Parser (List Piece) := do
  let views ← many g.lateralView?
  let before ← if g.dialect.columnStoreClauses then g.exprAfter? "PREWHERE" else pure []
  let filter ← g.exprAfter? "WHERE"
  return views.flatten ++ before ++ filter

/-! ### Groups -/

/-- Expressions in parentheses, which may be empty, or a single expression. -/
private def Grammar.groupingSet (g : Grammar) : Parser (List Expr) := do
  if ← peekMark "(" then inParens (sepByCommaUntil ")" g.expr)
  else return [← g.expr]

/-- Sets of expressions; `bare` tells that a set of one is written without parentheses. -/
private def Grammar.groupingSets (g : Grammar) (lead : String) (bare : Bool) :
    Parser (List Piece) := do
  let sets ← inParens (sepByComma g.groupingSet)
  let shown := sets.map fun es => if bare && es.length == 1 then exprs es else parens (exprs es)
  return text (lead ++ " (") :: commas shown ++ [text ")"]

/-- An item of `GROUP BY`. -/
private def Grammar.groupItem (g : Grammar) : Parser (List Piece) := do
  if !g.dialect.groupingForms then return [.expr (← g.expr)]
  else if ← acceptWords ["GROUPING", "SETS"] then g.groupingSets "GROUPING SETS" false
  else if ← acceptWord "CUBE" then g.groupingSets "CUBE" true
  else if ← acceptWord "ROLLUP" then g.groupingSets "ROLLUP" true
  else
    let l ← peek
    let l' ← peekAt 1
    if l.token == .mark "(" && l'.token == .mark ")" then
      expectMark "("
      expectMark ")"
      return [text "()"]
    else return [.expr (← g.expr)]

/-- A summary that `GROUP BY` adds, as text. -/
private def groupModifier? : Parser (Option String) := do
  if ← acceptWord "WITH" then
    let k ← expectOneOf ["ROLLUP", "CUBE", "TOTALS"]
    return some (" WITH " ++ k)
  else return none

/-- `GROUP BY`. -/
def Grammar.groupBy (g : Grammar) : Parser (List Piece) := do
  if ← acceptWords ["GROUP", "BY"] then
    let items ← if ← acceptWord "ALL" then pure [text "ALL"] else do
      let items ← sepByComma g.groupItem
      pure (commas items)
    let modifiers ← if g.dialect.columnStoreClauses then many groupModifier? else pure []
    let sets ←
      if ← acceptWords ["GROUPING", "SETS"] then g.groupingSets " GROUPING SETS" false
      else pure []
    return text " GROUP BY " :: items ++ text (String.join modifiers) :: sets
  else return []

/-! ### After groups -/

/-- A list of expressions behind two keywords. -/
private def listAfter? (first second : String)
    (items : Parser (List Piece)) : Parser (List Piece) := do
  if ← acceptWords [first, second] then
    let found ← items
    return text (" " ++ first ++ " " ++ second ++ " ") :: found
  else return []

/-- How rows are spread over workers, and the condition on groups. -/
private def Grammar.having (g : Grammar) : Parser (List Piece) := do
  let list := do return exprs (← sepByComma g.expr)
  let cluster ← listAfter? "CLUSTER" "BY" list
  let distribute ← listAfter? "DISTRIBUTE" "BY" list
  let sort ← listAfter? "SORT" "BY" g.sortKeys
  let having ← g.exprAfter? "HAVING"
  return cluster ++ distribute ++ sort ++ having

/-- The definitions of windows. -/
private def Grammar.windowClause? (g : Grammar) : Parser (List Piece) := do
  if ← acceptWord "WINDOW" then
    let items ← sepByComma g.namedWindow
    return text " WINDOW " :: commas items
  else return []

/-- The walk through a hierarchy. -/
private def Grammar.hierarchy? (g : Grammar) : Parser (List Piece) := do
  let start := do
    expectWords ["START", "WITH"]
    g.expr
  let relationships := sepByComma g.relationship
  let walk (e : Expr) (es : List Expr) : List Piece :=
    text " START WITH " :: .expr e :: text " CONNECT BY " :: exprs es
  if !g.dialect.hierarchicalQueries then return []
  else if !(["START", "CONNECT"].contains (← peek).token.keyword) then return []
  else if ← acceptWords ["CONNECT", "BY"] then
    let es ← relationships
    let e ← start
    return walk e es
  else
    let e ← start
    expectWords ["CONNECT", "BY"]
    let es ← relationships
    return walk e es

/-- Windows, the condition on them, and the walk through a hierarchy. -/
def Grammar.windows (g : Grammar) : Parser (List Piece) := do
  let before ← g.windowClause?
  let qualify ← g.exprAfter? "QUALIFY"
  let after ← if before.isEmpty && !qualify.isEmpty then g.windowClause? else pure []
  let hierarchy ← g.hierarchy?
  return before ++ qualify ++ after ++ hierarchy

/-! ### All clauses -/

/-- A `SELECT` whose `FROM` clause may be written first. -/
private def Grammar.selectAfter (g : Grammar) (leading : Option (List JoinedTable)) :
    Parser Select := do
  expectWord "SELECT"
  let quantifier ← g.quantifier
  let empty ← if g.dialect.emptyProjections then peekWord "FROM" else pure false
  let projection ← if empty then pure [] else g.projection
  let into ← into? g.dialect
  let tables ←
    match leading with
    | some ts => pure ts
    | none => if ← acceptWord "FROM" then g.tables else pure []
  let filter ← g.filters
  let groupBy ← g.groupBy
  let having ← g.having
  let windows ← g.windows
  return .mk quantifier projection into tables filter groupBy having windows leading.isSome

/-- A `SELECT` up to the end of its own clauses, or tables alone. -/
def Grammar.select (g : Grammar) : Parser QueryBody := do
  if ← provided g.dialect.fromFirst (acceptWord "FROM") then
    let tables ← g.tables
    if ← peekWord "SELECT" then return .select (← g.selectAfter (some tables))
    else return .other [text ("FROM " ++ ", ".intercalate (tables.map JoinedTable.render))]
  else return .select (← g.selectAfter none)

end RowShape.Sql
