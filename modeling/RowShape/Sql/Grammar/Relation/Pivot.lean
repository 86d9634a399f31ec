import RowShape.Sql.Grammar.Operator
import RowShape.Sql.Printer

/-!
# Pivoted relations

Relations whose rows become columns, or the other way round.

## Main definitions

* `Grammar.pivoted`: a relation with the pivots behind it.
-/

namespace RowShape.Sql

open RowShape.Sql.Parser Piece

/-- An expression, perhaps with an alias behind `AS`. -/
private def Grammar.aliasedExpr (g : Grammar) : Parser (List Piece) := do
  let e ← g.expr
  match ← after? "AS" identifier with
  | some i => return [.expr e, text (" AS " ++ i.render)]
  | none => return [.expr e]

/-- A call that sums up rows, perhaps with an alias. -/
private def Grammar.aliasedCall (g : Grammar) : Parser (List Piece) := do
  let l ← advance
  match l.token with
  | .word i _ =>
    let e ← g.call (.single (.bare i.value))
    match ← after? "AS" identifier with
    | some a => return [.expr e, text (" AS " ++ a.render)]
    | none => return [.expr e]
  | _ => expected "a function identifier"

/-- The values that become columns. -/
private def Grammar.pivotValues (g : Grammar) : Parser (List Piece) := do
  if ← acceptWord "ANY" then
    let order ← g.orderBy?
    return spacedPhrases [[text "ANY"], order]
  else if ["SELECT", "WITH"].contains (← peek).token.keyword then
    return [.query (← g.query)]
  else return commas (← sepByComma g.aliasedExpr)

/-- What follows `PIVOT`. -/
private def Grammar.pivotDetails (g : Grammar) : Parser (List Piece) := do
  expectMark "("
  let calls ← sepByComma g.aliasedCall
  expectWord "FOR"
  let columns ←
    if ← peekMark "(" then do
      let es ← inParens (sepByComma (g.operandOf .between))
      pure (match es with
        | [e] => [Piece.expr e]
        | es => parens (exprs es))
    else do pure [Piece.expr (← g.operandOf .between)]
  expectWord "IN"
  let values ← inParens g.pivotValues
  let default ←
    if ← acceptWords ["DEFAULT", "ON", "NULL"] then do
      let e ← inParens g.expr
      pure [text " DEFAULT ON NULL (", .expr e, text ")"]
    else pure []
  expectMark ")"
  return text " PIVOT(" :: commas calls ++ text " FOR " :: columns ++ text " IN (" :: values ++
    text ")" :: default ++ [text ")"]

/-- What follows `UNPIVOT`. -/
private def Grammar.unpivotDetails (g : Grammar) : Parser (List Piece) := do
  let nulls ← acceptOneOf ["INCLUDE", "EXCLUDE"]
  if nulls.isSome then expectWord "NULLS"
  expectMark "("
  let value ← g.expr
  expectWord "FOR"
  let name ← identifier
  expectWord "IN"
  unless ← peekMark "(" do expected "a list of columns in parentheses"
  let columns ← inParens (sepByComma g.aliasedExpr)
  expectMark ")"
  return text (" UNPIVOT" ++ (nulls.map fun k => " " ++ k ++ " NULLS").getD "" ++ " (") ::
    .expr value :: text (" FOR " ++ name.render ++ " IN (") :: commas columns ++ [text "))"]

/-- A relation with the pivots behind it. -/
def Grammar.pivoted (g : Grammar) (r : Relation) : Parser Relation :=
  iterate (fun r => do
    match ← acceptOneOf ["PIVOT", "UNPIVOT"] with
    | none => return none
    | some k =>
      let details ← if k == "PIVOT" then g.pivotDetails else g.unpivotDetails
      return some (.derived (text r.render :: details) (← tableAlias? g.dialect))) r

end RowShape.Sql
