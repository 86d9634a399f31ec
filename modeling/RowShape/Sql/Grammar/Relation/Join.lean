import RowShape.Sql.Grammar.Operator

/-!
# Joins

## Main definitions

* `Grammar.joinCondition`: what two relations have in common.
* `Grammar.joined`: a relation with the relations joined to it.
-/

namespace RowShape.Sql

open RowShape.Sql.Parser Piece

/-- The condition of a join. -/
def Grammar.joinCondition (g : Grammar) : Parser (List Piece) := do
  if ← acceptWord "ON" then
    let e ← g.expr
    return [text " ON ", .expr e]
  else if ← acceptWord "USING" then
    unless ← peekMark "(" do expected "a list of columns in parentheses"
    let names ← inParens (sepByComma (qualifiedName g.dialect))
    return [text (" USING(" ++ ", ".intercalate (names.map QualifiedName.render) ++ ")")]
  else return []

/-! ### Kinds of joins -/

/-- The kind of join that `LEFT` or `RIGHT` begins. -/
private def sidedKind (side : String) : Parser String := do
  match ← acceptOneOf ["OUTER", "SEMI", "ANTI", "JOIN"] with
  | some "JOIN" => return side ++ " JOIN"
  | some k =>
    expectWord "JOIN"
    return side ++ " " ++ k ++ " JOIN"
  | none => throw (.nowhere (.noJoinAfter side))

/-- A kind of join that takes a condition, if one comes next. -/
private def joinKind? (natural : Bool) : Parser (Option String) := do
  match ← acceptOneOf ["INNER", "JOIN", "LEFT", "RIGHT", "ANTI", "SEMI", "FULL",
      "STRAIGHT_JOIN"] with
  | some "JOIN" => return some "JOIN"
  | some "STRAIGHT_JOIN" => return some "STRAIGHT_JOIN"
  | some "FULL" =>
    let _ ← acceptWord "OUTER"
    expectWord "JOIN"
    return some "FULL JOIN"
  | some k =>
    if ["LEFT", "RIGHT"].contains k then return some (← sidedKind k)
    else
      expectWord "JOIN"
      return some (k ++ " JOIN")
  | none =>
    if ← peekWord "OUTER" then expected "LEFT, RIGHT, or FULL"
    else if natural then expected "a join type after NATURAL"
    else return none

/-! ### Joined relations -/

/-- A relation joined to those before it, if one follows. -/
private def Grammar.join? (g : Grammar) : Parser (Option Join) := do
  let lead := if ← acceptWord "GLOBAL" then "GLOBAL " else ""
  let plain (kind : String) : Parser (Option Join) := do
    let r ← g.relation
    return some (.mk (lead ++ kind) r [])
  if ← acceptWord "CROSS" then
    if ← acceptWord "JOIN" then plain "CROSS JOIN"
    else if ← acceptWord "APPLY" then plain "CROSS APPLY"
    else expected "JOIN or APPLY after CROSS"
  else if ← acceptWord "OUTER" then
    expectWord "APPLY"
    plain "OUTER APPLY"
  else if ← acceptWord "ASOF" then
    expectWord "JOIN"
    let r ← g.relation
    expectWord "MATCH_CONDITION"
    let e ← inParens g.expr
    let condition ← g.joinCondition
    return some (.mk (lead ++ "ASOF JOIN") r
      (text " MATCH_CONDITION (" :: .expr e :: text ")" :: condition))
  else
    let natural ← acceptWord "NATURAL"
    match ← joinKind? natural with
    | none => return none
    | some kind =>
      let r ← g.relation
      let condition ← if natural then pure [] else g.joinCondition
      return some (.mk (lead ++ (if natural then "NATURAL " else "") ++ kind) r condition)

/-- A relation with the relations joined to it. -/
def Grammar.joined (g : Grammar) : Parser JoinedTable := do
  let r ← g.relation
  let joins ← many g.join?
  return .mk r joins

/-- Relations with commas between them. -/
def Grammar.tables (g : Grammar) : Parser (List JoinedTable) := sepByComma g.joined

end RowShape.Sql
