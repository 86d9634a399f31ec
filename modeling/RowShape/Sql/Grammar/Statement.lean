import RowShape.Sql.Grammar.Statement.Change
import RowShape.Sql.Grammar.Statement.Control
import RowShape.Sql.Grammar.Statement.Definition
import RowShape.Sql.Grammar.Statement.Inspection
import RowShape.Sql.Grammar.Statement.Privilege
import RowShape.Sql.Token.Lexer

/-!
# Statements

## Main definitions

* `Grammar.anyStatement`: a statement.
* `Grammar.ofDepth`: the grammar of texts that are nested up to some depth.
* `parseStatements`: all statements of a text.
-/

namespace RowShape.Sql

open RowShape.Sql.Parser Piece

/-! ### One statement -/

/-- The value that a procedure returns. -/
private def Grammar.returned (g : Grammar) : Parser (List Piece) := do
  match ← attempt g.expr with
  | some e => return [text "RETURN ", .expr e]
  | none => return [text "RETURN"]

/-- The statement that a keyword begins, if it is no query; the keyword is already taken. -/
private def Grammar.otherStatement? (g : Grammar) (keyword : String) :
    Option (Parser (List Piece)) :=
  let d := g.dialect
  g.changes.lookup keyword <|> g.inspections.lookup keyword <|> [
    ("TRUNCATE", g.truncate),
    ("CREATE", g.create),
    ("ALTER", g.alter),
    ("DROP", drop d),
    ("DECLARE", g.declare),
    ("CALL", g.invoke),
    ("SET", g.assign),
    ("USE", do return [text ("USE " ++ (← qualifiedName d).render)]),
    ("START", do
      expectWord "TRANSACTION"
      return [text ("START TRANSACTION" ++ (← transactionModes))]),
    ("BEGIN", beginTransaction d),
    ("SAVEPOINT", do return [text ("SAVEPOINT " ++ (← identifier).render)]),
    ("RELEASE", do
      let _ ← acceptWord "SAVEPOINT"
      return [text ("RELEASE SAVEPOINT " ++ (← identifier).render)]),
    ("GRANT", grant d),
    ("REVOKE", revoke d),
    ("DENY", deny d),
    ("COMMIT", commit),
    ("END", endTransaction d),
    ("ROLLBACK", rollback),
    ("RAISERROR", g.raise),
    ("EXECUTE", g.execute),
    ("EXEC", g.execute),
    ("PRINT", do return [text "PRINT ", .expr (← g.expr)]),
    ("RETURN", g.returned)].lookup keyword

/-- A statement. -/
def Grammar.anyStatement (g : Grammar) : Parser Statement := do
  let l ← peek
  let k := l.token.keyword
  if ["SELECT", "WITH", "VALUES", "FROM"].contains k || l.token == .mark "(" then
    return .query (← g.query)
  else if k == "IF" then return .other (← g.conditional)
  else if k == "WHILE" then return .other (← g.loop)
  else
    match g.otherStatement? k with
    | some p =>
      let _ ← advance
      return .other (← p)
    | none => unexpected "an SQL statement" l

/-! ### Nesting -/

/-- The grammar of texts in which expressions, queries, relations and statements are nested at most
`n` deep.  `hierarchical` tells that `PRIOR` refers to the row above. -/
def Grammar.ofDepth (d : Dialect) : Nat → Bool → Grammar
  | 0, _ => .tooDeep d
  | n + 1, hierarchical =>
    let inner := Grammar.ofDepth d n hierarchical
    { dialect := d
      hierarchical := hierarchical
      exprAbove := fun strength => inner.expression strength
      operand := inner.anyOperand
      relationship := fun s => (Grammar.ofDepth d n true).expression 0 s
      query := inner.queryWith inner.changes
      relation := inner.anyRelation
      statement := inner.anyStatement }

/-- The deepest nesting that is read. -/
def depthLimit : Nat := 50

/-! ### All statements -/

/-- The next statement behind those that are found, if one follows.  `END` ends a text like its
end, unless it begins a statement of its own. -/
private def nextStatement (statement : Parser Statement) (found : List Statement) :
    Parser (Option (List Statement)) := do
  let separators ← many do
    if ← acceptMark ";" then return some () else return none
  let l ← peek
  let due := !found.isEmpty && separators.isEmpty
  if l.token == .endOfText then return none
  else if due && l.token.keyword == "END" then return none
  else if due then expected "end of statement"
  else
    let s ← statement
    return some (found ++ [s])

/-- The statements of a list of tokens. -/
def statements (d : Dialect) : Parser (List Statement) :=
  iterate (nextStatement (Grammar.ofDepth d depthLimit false).statement) []

/-- The statements of a text, or the first syntax error in it. -/
def parseStatements (d : Dialect) (text : String) : Except SyntaxError (List Statement) := do
  let lexemes ← tokenize d text
  let (found, _) ← statements d lexemes
  return found

end RowShape.Sql
