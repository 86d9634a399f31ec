import RowShape.Sql.Grammar.Select
import RowShape.Sql.Grammar.Query.Tail

/-!
# Queries

## Main definitions

* `Grammar.queryBody`: `SELECT`s and set operations.
* `Grammar.queryWith`: a query with common table expressions, given the statements that may stand
  in its place.
-/

namespace RowShape.Sql

open RowShape.Sql.Parser Piece

/-! ### Bodies -/

/-- A table as a query, with its keyword taken.  Two tokens after a bare name are taken as well. -/
private def wholeTable : Parser (List Piece) := do
  let first ← advance
  let second ← advance
  let third ← advance
  match second.token, first.token, third.token with
  | .mark ".", .word i _, .word j _ => return [text ("TABLE " ++ i.value ++ "." ++ j.value)]
  | .mark ".", .word _ _, _ => unexpected "Table name" third
  | .mark ".", _, _ => unexpected "Schema name" first
  | _, .word i _, _ => return [text ("TABLE " ++ i.value)]
  | _, _, _ => unexpected "Table name" first

/-- A body without set operations. -/
private def Grammar.simpleBody (g : Grammar) : Parser QueryBody := do
  let k := (← peek).token.keyword
  if k == "SELECT" || (k == "FROM" && g.dialect.fromFirst) then g.select
  else if ← acceptMark "(" then
    let q ← g.query
    expectMark ")"
    return .nested q
  else if ← acceptWord "VALUES" then return .other (← g.rows "VALUES")
  else if ← acceptWord "VALUE" then return .other (← g.rows "VALUE")
  else if ← acceptWord "TABLE" then return .other (← wholeTable)
  else expected "SELECT, VALUES, or a subquery in the query body"

/-- How a set operation treats equal rows and matches columns, as text. -/
private def setQuantifier : Parser String := do
  if ← acceptWords ["DISTINCT", "BY", "NAME"] then return " DISTINCT BY NAME"
  else if ← acceptWords ["BY", "NAME"] then return " BY NAME"
  else if ← acceptWords ["ALL", "BY", "NAME"] then return " ALL BY NAME"
  else if ← acceptWord "ALL" then return " ALL"
  else if ← acceptWord "DISTINCT" then return " DISTINCT"
  else return ""

/-- Bodies with some set operators between them, which group to the left. -/
private def setOperations (operators : List String) (operand : Parser QueryBody) :
    Parser QueryBody := do
  let first ← operand
  iterate (fun left => do
    match ← acceptOneOf operators with
    | none => return none
    | some k =>
      let quantifier ← setQuantifier
      let right ← operand
      return some (.setOperation left (k ++ quantifier) right)) first

/-- A body: `INTERSECT` binds stronger than the other set operators. -/
def Grammar.queryBody (g : Grammar) : Parser QueryBody :=
  setOperations ["UNION", "EXCEPT", "MINUS"] (setOperations ["INTERSECT"] g.simpleBody)

/-! ### Common table expressions -/

/-- A common table expression. -/
private def Grammar.commonTable (g : Grammar) : Parser (List Piece) := do
  let name ← identifier
  let columns ← if ← peekWord "AS" then pure [] else columnNames g.dialect
  expectWord "AS"
  let materialized ←
    if !g.dialect.materializedTables then pure ""
    else if ← acceptWord "MATERIALIZED" then pure "MATERIALIZED "
    else if ← acceptWords ["NOT", "MATERIALIZED"] then pure "NOT MATERIALIZED "
    else pure ""
  expectMark "("
  let q ← g.query
  expectMark ")"
  let source ←
    match ← after? "FROM" identifier with
    | some i => pure (" FROM " ++ i.render)
    | none => pure ""
  return [text ((TableAlias.mk name columns).render ++ " AS " ++ materialized ++ "("), .query q,
    text (")" ++ source)]

/-- Common table expressions, with a space after them. -/
private def Grammar.withClause (g : Grammar) : Parser (List Piece) := do
  if ← acceptWord "WITH" then
    let recursive ← acceptWord "RECURSIVE"
    let items ← sepByComma g.commonTable
    return text (if recursive then "WITH RECURSIVE " else "WITH ") :: commas items ++ [text " "]
  else return []

/-! ### Queries -/

/-- A query.  `changes` are the statements that change tables, which may stand in the place of its
body. -/
def Grammar.queryWith (g : Grammar) (changes : List (String × Parser (List Piece))) :
    Parser Query := do
  let withClause ← g.withClause
  let k := (← peek).token.keyword
  match changes.lookup k with
  | some change =>
    let _ ← advance
    return .mk withClause (.other (← change)) [] []
  | none =>
    let body ← g.queryBody
    let orderBy ← g.queryOrder
    let limit ← g.queryTail
    return .mk withClause body orderBy limit

end RowShape.Sql
