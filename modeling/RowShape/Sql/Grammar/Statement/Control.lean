import RowShape.Sql.Grammar.Statement.Table

/-!
# Statements of procedures

Variables, transactions, calls and control flow.  Each parser here runs after its keyword has been
taken, unless it says otherwise.

## Main definitions

* `Grammar.declare`, `Grammar.assign`: variables and settings.
* `beginTransaction`, `commit`, `rollback`: transactions.
* `Grammar.execute`, `Grammar.invoke`: calls.
* `Grammar.conditional`, `Grammar.loop`: control flow.
-/

namespace RowShape.Sql

open RowShape.Sql.Parser Piece

/-! ### Variables -/

/-- A variable or cursor of a procedure. -/
private def Grammar.variable (g : Grammar) : Parser (List Piece) := do
  let name ← identifier
  let cursor ← peekWord "CURSOR"
  unless name.value.startsWith "@" || cursor do
    throw (.nowhere (.malformed "Invalid MsSql variable declaration."))
  let kind ←
    if ← acceptWord "CURSOR" then pure " CURSOR"
    else do
      let _ ← acceptWord "AS"
      if (← peekWord "TABLE") && (← peekAt 1).token == .mark "(" then do
        let _ ← advance
        let columns ← inParens (sepByComma g.columnDefinition)
        pure (" TABLE(" ++ renderPieces (commas columns) ++ ")")
      else pure (" " ++ (← typeName g.dialect).text)
  let value : List Piece ←
    if ← acceptWord "FOR" then do
      let q ← g.query
      pure [text " FOR ", .query q]
    else if ← acceptMark "=" then do
      let e ← g.expr
      pure [text " = ", .expr e]
    else pure []
  return text (name.render ++ kind) :: value

/-- A cursor. -/
private def Grammar.cursor (g : Grammar) : Parser (List Piece) := do
  let name ← identifier
  let binary ← acceptWord "BINARY"
  let sensitive ← acceptOneOf ["INSENSITIVE", "ASENSITIVE"]
  let scroll ←
    if ← acceptWord "SCROLL" then pure " SCROLL"
    else if ← acceptWords ["NO", "SCROLL"] then pure " NO SCROLL"
    else pure ""
  expectWord "CURSOR"
  let hold ←
    match ← acceptOneOf ["WITH", "WITHOUT"] with
    | some k => do
      expectWord "HOLD"
      pure (" " ++ k ++ " HOLD")
    | none => pure ""
  expectWord "FOR"
  let q ← g.query
  return [text (name.render ++ (if binary then " BINARY" else "") ++
    (sensitive.map (" " ++ ·)).getD "" ++ scroll ++ " CURSOR" ++ hold ++ " FOR "), .query q]

/-- `DECLARE`. -/
def Grammar.declare (g : Grammar) : Parser (List Piece) := do
  if g.dialect == .msSql then
    match ← sepByComma g.variable with
    | [] => return [text "DECLARE "]
    | first :: more => return text "DECLARE " :: first ++ more.flatMap fun v => text "; " :: v
  else return text "DECLARE " :: (← g.cursor)

/-! ### Settings -/

/-- `ON` or `OFF`, as text. -/
private def switch : Parser String := do
  match ← acceptOneOf ["ON", "OFF"] with
  | some k => return " " ++ k
  | none => expected "ON or OFF"

/-- A word that names a setting. -/
private def settingName : Parser String := do
  let l ← advance
  match l.token with
  | .word .. => return l.token.render
  | _ => unexpected "Session param name" l

/-- The value of a setting. -/
private def Grammar.settingValue (g : Grammar) : Parser Expr := do
  match ← caught g.expr with
  | .ok e => return e
  | .error _ =>
    let _ ← advance
    expected "variable value"

/-- A setting that stands before its value without a sign of equality. -/
private def Grammar.bareSetting (g : Grammar) : Parser (List Piece) := do
  if ← acceptWord "STATISTICS" then
    match ← acceptOneOf ["IO", "PROFILE", "TIME", "XML"] with
    | some topic => return [text ("SET STATISTICS " ++ topic ++ (← switch))]
    | none => expected "IO, PROFILE, TIME or XML"
  else if ← acceptWord "IDENTITY_INSERT" then
    let table ← qualifiedName g.dialect
    return [text ("SET IDENTITY_INSERT " ++ table.render ++ (← switch))]
  else
    let names ← sepByComma settingName
    let e ← g.expr
    return [text ("SET " ++ ", ".intercalate names ++ " "), .expr e]

/-- A mode of a transaction. -/
private def transactionMode? : Parser (Option String) := do
  if ← acceptWords ["ISOLATION", "LEVEL"] then
    let level ← [["READ", "UNCOMMITTED"], ["READ", "COMMITTED"], ["REPEATABLE", "READ"],
      ["SERIALIZABLE"], ["SNAPSHOT"]].findM? (acceptWords ·)
    match level with
    | some words => return some ("ISOLATION LEVEL " ++ " ".intercalate words)
    | none => expected "isolation level"
  else if ← acceptWords ["READ", "ONLY"] then return some "READ ONLY"
  else if ← acceptWords ["READ", "WRITE"] then return some "READ WRITE"
  else return none

/-- Modes of a transaction, as text; commas between them may be left out. -/
def transactionModes : Parser String := do
  let (modes, _) ← iterate (fun ((modes, due) : List String × Bool) => do
    match ← transactionMode? with
    | some m => return some (modes ++ [m], ← acceptMark ",")
    | none => if due then expected "transaction mode" else return none) ([], false)
  return if modes.isEmpty then "" else " " ++ ", ".intercalate modes

/-- `SET`. -/
def Grammar.assign (g : Grammar) : Parser (List Piece) := do
  let scope ← acceptOneOf ["SESSION", "LOCAL", "GLOBAL"]
  let lead := "SET " ++ (scope.map (· ++ " ")).getD ""
  if ← acceptWord "ROLE" then
    return [text (lead ++ "ROLE " ++ (← identifier).render)]
  else if ← acceptWords ["TIME", "ZONE"] then
    let e ← g.expr
    return [text (lead ++ "TIME ZONE "), .expr e]
  else if ← provided (g.dialect != .msSql) (acceptWord "NAMES") then
    if ← acceptWord "DEFAULT" then return [text "SET NAMES DEFAULT"]
    else
      let charset ← identifier
      let collation ← after? "COLLATE" quotedText
      return [text ("SET NAMES " ++ charset.render ++
        (collation.map fun s => " COLLATE " ++ quoted '\'' s).getD "")]
  else if ← acceptWord "TRANSACTION" then
    return [text ("SET TRANSACTION" ++ (← transactionModes))]
  else
    let s ← get
    let name ← qualifiedName g.dialect
    let assigned ← if ← acceptMark "=" then pure true else acceptWord "TO"
    if assigned then
      let values ← sepByComma g.settingValue
      return text (lead ++ name.render ++ " = ") :: exprs values
    else if g.dialect == .msSql then
      set s
      g.bareSetting
    else expected "equals sign or TO"

/-! ### Transactions -/

/-- `BEGIN`. -/
def beginTransaction (d : Dialect) : Parser (List Piece) := do
  let modifier ←
    if d == .postgres then pure none
    else acceptOneOf ["DEFERRED", "IMMEDIATE", "EXCLUSIVE", "TRY", "CATCH"]
  let kind ← acceptOneOf ["TRANSACTION", "WORK", "TRAN"]
  let modes ← transactionModes
  let word (k : Option String) : String := (k.map (" " ++ ·)).getD ""
  return [text ("BEGIN" ++ word modifier ++ word kind ++ modes)]

/-- Whether another transaction follows, as text. -/
private def chain? : Parser String := do
  let _ ← acceptOneOf ["TRANSACTION", "WORK", "TRAN"]
  if ← acceptWord "AND" then
    let no ← acceptWord "NO"
    expectWord "CHAIN"
    return if no then "" else " AND CHAIN"
  else return ""

/-- `COMMIT`. -/
def commit : Parser (List Piece) := do
  return [text ("COMMIT" ++ (← chain?))]

/-- `END`, where it closes a transaction. -/
def endTransaction (d : Dialect) : Parser (List Piece) := do
  let modifier ← if d == .postgres then pure none else acceptOneOf ["TRY", "CATCH"]
  let chain ← chain?
  return [text ("END" ++ (modifier.map (" " ++ ·)).getD "" ++ chain)]

/-- `ROLLBACK`. -/
def rollback : Parser (List Piece) := do
  let chain ← chain?
  if ← acceptWord "TO" then
    let _ ← acceptWord "SAVEPOINT"
    return [text ("ROLLBACK" ++ chain ++ " TO SAVEPOINT " ++ (← identifier).render)]
  else return [text ("ROLLBACK" ++ chain)]

/-! ### Calls -/

/-- `EXECUTE`. -/
def Grammar.execute (g : Grammar) : Parser (List Piece) := do
  let name ← qualifiedName g.dialect
  let enclosed ← acceptMark "("
  let l ← peek
  let none_ :=
    if enclosed then l.token == .mark ")"
    else l.token == .endOfText || l.token == .mark ";" ||
      ["USING", "OUTPUT", "DEFAULT"].contains l.token.keyword
  let parameters ← if none_ then pure [] else sepByComma g.expr
  if enclosed then expectMark ")"
  let output ← acceptWord "OUTPUT"
  let default ← acceptWord "DEFAULT"
  let shown :=
    if enclosed then parens (exprs parameters)
    else if parameters.isEmpty then []
    else text " " :: exprs parameters
  return text ("EXECUTE " ++ name.render) :: shown ++
    [text ((if output then " OUTPUT" else "") ++ if default then " DEFAULT" else "")]

/-- `CALL`. -/
def Grammar.invoke (g : Grammar) : Parser (List Piece) := do
  let name ← qualifiedName g.dialect
  if ← peekMark "(" then return [text "CALL ", .expr (← g.call name)]
  else return [text ("CALL " ++ name.render)]

/-- `RAISERROR`. -/
def Grammar.raise (g : Grammar) : Parser (List Piece) := do
  let es ← inParens do
    let message ← g.expr
    expectMark ","
    let severity ← g.expr
    expectMark ","
    let rest ← sepByComma g.expr
    return message :: severity :: rest
  let options ←
    match ← after? "WITH" (sepByComma (expectOneOf ["LOG", "NOWAIT", "SETERROR"])) with
    | some ks => pure (" WITH " ++ ", ".intercalate ks)
    | none => pure ""
  return text "RAISERROR(" :: exprs es ++ [text (")" ++ options)]

/-! ### Control flow -/

/-- The text of a list of statements. -/
private def renderStatements (statements : List Statement) : String :=
  if statements.isEmpty then "" else "; ".intercalate (statements.map Statement.render) ++ ";"

/-- Statements up to one of some keywords or the end of the text; `strict` tells that each must
end in a semicolon. -/
def Grammar.statementsUntil (g : Grammar) (strict : Bool) (closing : List String) :
    Parser (List Statement) :=
  many do
    let l ← peek
    if l.token == .endOfText || closing.contains l.token.keyword then return none
    else
      let s ← g.statement
      if strict then expectMark ";"
      let _ ← many do
        if ← acceptMark ";" then return some () else return none
      return some s

/-- Statements between `BEGIN` and `END`, or others, as text. -/
def Grammar.block (g : Grammar) (strict : Bool) (others : Parser (List Statement)) :
    Parser String := do
  let opening ← peek
  if ← acceptWord "BEGIN" then
    let statements ← g.statementsUntil strict ["END"]
    let closing ← peek
    expectWord "END"
    return opening.token.render ++ " " ++ renderStatements statements ++ " " ++
      closing.token.render
  else return renderStatements (← others)

/-- `IF`, with its keyword, of a dialect in which it holds one statement. -/
private def Grammar.shortConditional (g : Grammar) : Parser (List Piece) := do
  let one := do return [← g.statement]
  let opening ← advance
  let e ← g.expr
  let first ← g.block false one
  let s ← get
  let separators ← many do
    if ← acceptMark ";" then return some () else return none
  let l ← peek
  let rest ←
    if ← acceptWord "ELSE" then do
      let second ← g.block false one
      pure (" " ++ l.token.render ++ " " ++ second)
    else do
      set (s.drop (separators.length - 1))
      pure ""
  return [text (opening.token.render ++ " "), .expr e, text (" " ++ first ++ rest)]

/-- A branch of `IF` after its keyword: a condition and statements. -/
private def Grammar.longBranch (g : Grammar) (lead : String) : Parser (List Piece) := do
  let e ← g.expr
  expectWord "THEN"
  let block ← g.block true (g.statementsUntil true ["ELSEIF", "ELSE", "END"])
  return [text (lead ++ " "), .expr e, text (" THEN " ++ block)]

/-- `IF`, with its keyword, of a dialect in which `END IF` closes it. -/
private def Grammar.longConditional (g : Grammar) : Parser (List Piece) := do
  let opening ← advance
  let first ← g.longBranch opening.token.render
  let more ← many do
    let l ← peek
    if ← acceptWord "ELSEIF" then
      return some (text " " :: (← g.longBranch l.token.render))
    else return none
  let l ← peek
  let otherwise ←
    if ← acceptWord "ELSE" then do
      let block ← g.block true (g.statementsUntil true ["END"])
      pure (" " ++ l.token.render ++ " " ++ block)
    else pure ""
  expectWord "END"
  let closing ← peek
  expectWord "IF"
  return first ++ more.flatten ++ [text (otherwise ++ " END " ++ closing.token.render)]

/-- `IF`, with its keyword. -/
def Grammar.conditional (g : Grammar) : Parser (List Piece) :=
  if g.dialect == .msSql then g.shortConditional else g.longConditional

/-- `WHILE`, with its keyword. -/
def Grammar.loop (g : Grammar) : Parser (List Piece) := do
  let opening ← advance
  let e ← g.expr
  let block ← g.block true (g.statementsUntil true ["END"])
  return [text (opening.token.render ++ " "), .expr e, text (" " ++ block)]

end RowShape.Sql
