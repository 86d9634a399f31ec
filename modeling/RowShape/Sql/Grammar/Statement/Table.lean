import RowShape.Sql.Grammar.Query

/-!
# Statements that define tables

## Main definitions

* `Grammar.columnDefinition`: a column with its properties.
* `Grammar.constraint?`: a constraint on the rows of a table.
* `Grammar.createTable`, `Grammar.alterTable`: the statements, after their keywords.
-/

namespace RowShape.Sql

open RowShape.Sql.Parser Piece

/-- Identifiers in parentheses, as text; empty text if there are no parentheses. -/
def optionalNames : Parser String := do
  if ← peekMark "(" then
    let names ← inParens (sepByComma identifier)
    return "(" ++ ", ".intercalate (names.map Ident.render) ++ ")"
  else return ""

/-! ### References to other tables -/

/-- What becomes of a row when the row it refers to changes, as text. -/
private def referentialAction : Parser String := do
  match ← acceptOneOf ["RESTRICT", "CASCADE"] with
  | some k => return k
  | none =>
    match ← [["SET", "NULL"], ["NO", "ACTION"], ["SET", "DEFAULT"]].findM? (acceptWords ·) with
    | some words => return " ".intercalate words
    | none => expected "one of RESTRICT, CASCADE, SET NULL, NO ACTION or SET DEFAULT"

/-- The table that a column refers to, after `REFERENCES`, as text. -/
private def reference (d : Dialect) : Parser String := do
  let table ← qualifiedName d
  let columns ← optionalNames
  let actionOn (event : String) : Parser (Option String) := do
    if ← acceptWords ["ON", event] then return some (← referentialAction) else return none
  let (deleted, updated) ← iterate (fun ((deleted, updated) : Option String × Option String) => do
    match ← (if deleted.isNone then actionOn "DELETE" else pure none) with
    | some a => return some (some a, updated)
    | none =>
      match ← (if updated.isNone then actionOn "UPDATE" else pure none) with
      | some a => return some (deleted, some a)
      | none => return none) (none, none)
  let action (lead : String) (a : Option String) : String := (a.map (lead ++ ·)).getD ""
  return table.render ++ columns ++ action " ON DELETE " deleted ++ action " ON UPDATE " updated

/-! ### Columns -/

/-- A property of a column. -/
private def Grammar.columnOption? (g : Grammar) : Parser (Option (List Piece)) := do
  let above := g.dialect.strength .test
  if ← acceptWords ["NOT", "NULL"] then return some [text "NOT NULL"]
  else if ← acceptWord "NULL" then return some [text "NULL"]
  else if ← acceptWord "DEFAULT" then
    let e ← g.exprAbove above
    return some [text "DEFAULT ", .expr e]
  else if ← acceptWords ["PRIMARY", "KEY"] then return some [text "PRIMARY KEY"]
  else if ← acceptWord "UNIQUE" then return some [text "UNIQUE"]
  else if ← acceptWord "REFERENCES" then
    return some [text ("REFERENCES " ++ (← reference g.dialect))]
  else if ← acceptWord "CHECK" then
    let e ← inParens g.expr
    return some [text "CHECK (", .expr e, text ")"]
  else if ← provided (g.dialect == .generic) (acceptWord "AUTO_INCREMENT") then
    return some [text "AUTO_INCREMENT"]
  else if ← acceptWord "IDENTITY" then
    if g.dialect == .postgres then return none
    else if ← peekMark "(" then
      let es ← inParens (sepByComma g.expr)
      return some (text "IDENTITY(" :: exprs es ++ [text ")"])
    else return some [text "IDENTITY"]
  else return none

/-- The properties of a column, each after a space and perhaps named. -/
private def Grammar.columnOptions (g : Grammar) : Parser (List Piece) := do
  let found ← many do
    if ← acceptWord "CONSTRAINT" then
      let name ← identifier
      match ← g.columnOption? with
      | some ps => return some (text (" CONSTRAINT " ++ name.render ++ " ") :: ps)
      | none => expected "constraint details after CONSTRAINT <name>"
    else if ← acceptWord "COLLATE" then
      let name ← qualifiedName g.dialect
      return some [text (" COLLATE " ++ name.render)]
    else return (← g.columnOption?).map (text " " :: ·)
  return found.flatten

/-- The definition of a column. -/
def Grammar.columnDefinition (g : Grammar) : Parser (List Piece) := do
  let name ← identifier
  let type ← typeName g.dialect
  let options ← g.columnOptions
  return text (name.render ++ " " ++ type.text) :: options

/-! ### Constraints -/

/-- The columns that a constraint names, perhaps after the name of an index. -/
private def Grammar.constrainedColumns (g : Grammar) : Parser (List Piece) := do
  let l ← peek
  let index ← match l.token with
    | .word i _ => do
      let _ ← advance
      pure (" " ++ i.render)
    | _ => pure ""
  let keys ← inParens g.sortKeys
  return text (index ++ " (") :: keys ++ [text ")"]

/-- A constraint on the rows of a table. -/
def Grammar.constraint? (g : Grammar) : Parser (Option (List Piece)) := do
  let name ← after? "CONSTRAINT" identifier
  let lead := (name.map fun i => "CONSTRAINT " ++ i.render ++ " ").getD ""
  if ← acceptWord "UNIQUE" then
    return some (text (lead ++ "UNIQUE") :: (← g.constrainedColumns))
  else if ← acceptWord "PRIMARY" then
    expectWord "KEY"
    return some (text (lead ++ "PRIMARY KEY") :: (← g.constrainedColumns))
  else if ← acceptWord "FOREIGN" then
    expectWord "KEY"
    let columns ← nameList "a list of columns in parentheses"
    expectWord "REFERENCES"
    return some [text (lead ++ "FOREIGN KEY (" ++ ", ".intercalate (columns.map Ident.render) ++
      ") REFERENCES " ++ (← reference g.dialect))]
  else if ← acceptWord "CHECK" then
    let e ← inParens g.expr
    return some [text (lead ++ "CHECK ("), .expr e, text ")"]
  else if name.isSome then expected "PRIMARY, UNIQUE, FOREIGN, or CHECK"
  else return none

/-! ### `CREATE TABLE` -/

/-- The columns of a table and its constraints, in parentheses; both lists are empty if there are
no parentheses. -/
private def Grammar.tableElements (g : Grammar) :
    Parser (List (List Piece) × List (List Piece)) := do
  unless ← acceptMark "(" do return ([], [])
  if ← acceptMark ")" then return ([], [])
  let elements ← iterate (fun (columns, constraints, closed) => do
    if closed then return none
    let l ← peek
    let found ←
      match ← g.constraint? with
      | some c => pure (columns, c :: constraints)
      | none =>
        match l.token with
        | .word .. => do pure ((← g.columnDefinition) :: columns, constraints)
        | _ => expected "column name or constraint definition"
    let comma ← acceptMark ","
    let closes ← peekMark ")"
    unless comma || closes do expected "',' or ')' after column definition"
    let ends := closes && !comma
    if ends then expectMark ")"
    return some (found.1, found.2, ends))
    (([], [], false) : List (List Piece) × List (List Piece) × Bool)
  return (elements.1.reverse, elements.2.1.reverse)

/-- The definition of a table, after its keyword. -/
def Grammar.createTable (g : Grammar) (lead : String) : Parser (List Piece) := do
  let missing ← acceptWords ["IF", "NOT", "EXISTS"]
  let name ← qualifiedName g.dialect
  let head := "CREATE " ++ lead ++ "TABLE " ++ (if missing then "IF NOT EXISTS " else "") ++
    name.render
  let (columns, constraints) ← g.tableElements
  let elements := columns ++ constraints
  let shape := if elements.isEmpty then [] else text " (" :: commas elements ++ [text ")"]
  if ← acceptWord "AS" then
    let q ← g.query
    return text head :: shape ++ [text " AS ", .query q]
  else return text head :: (if shape.isEmpty then [text " ()"] else shape)

/-! ### `ALTER TABLE` -/

/-- What becomes of objects that depend on a dropped one, as text. -/
def dropBehaviour : Parser String := do
  return ((← acceptOneOf ["CASCADE", "RESTRICT"]).map (" " ++ ·)).getD ""

/-- Something new in a table, after `ADD`. -/
private def Grammar.addition (g : Grammar) : Parser (List Piece) := do
  match ← g.constraint? with
  | some c => return text "ADD " :: c
  | none =>
    let column ← acceptWord "COLUMN"
    let missing ←
      if g.dialect == .msSql then pure false else acceptWords ["IF", "NOT", "EXISTS"]
    let definition ← g.columnDefinition
    return text ("ADD " ++ (if column then "COLUMN " else "") ++
      if missing then "IF NOT EXISTS " else "") :: definition

/-- A new name, after `RENAME`. -/
private def Grammar.renaming (g : Grammar) : Parser (List Piece) := do
  let newName : Parser String := do
    expectWord "TO"
    return (← identifier).render
  if ← provided (g.dialect != .msSql) (acceptWord "CONSTRAINT") then
    let name ← identifier
    return [text ("RENAME CONSTRAINT " ++ name.render ++ " TO " ++ (← newName))]
  else if ← acceptWord "TO" then
    return [text ("RENAME TO " ++ (← qualifiedName g.dialect).render)]
  else if ← acceptWord "AS" then
    return [text ("RENAME AS " ++ (← qualifiedName g.dialect).render)]
  else
    let _ ← acceptWord "COLUMN"
    let name ← identifier
    return [text ("RENAME COLUMN " ++ name.render ++ " TO " ++ (← newName))]

/-- Something that leaves a table, after `DROP`. -/
private def removal : Parser (List Piece) := do
  if ← acceptWords ["PRIMARY", "KEY"] then
    return [text ("DROP PRIMARY KEY" ++ (← dropBehaviour))]
  else
    let kind ← acceptOneOf ["CONSTRAINT", "COLUMN"]
    let present ← acceptWords ["IF", "EXISTS"]
    let name ← identifier
    return [text ("DROP " ++ (kind.map (· ++ " ")).getD "" ++
      (if present then "IF EXISTS " else "") ++ name.render ++ (← dropBehaviour))]

/-- A change of a column, after `ALTER`. -/
private def Grammar.columnChange (g : Grammar) : Parser (List Piece) := do
  let _ ← acceptWord "COLUMN"
  let name ← identifier
  let lead := "ALTER COLUMN " ++ name.render
  let newType (words : String) : Parser (List Piece) := do
    let type ← typeName g.dialect
    let converted ← if g.dialect == .postgres then g.exprAfter? "USING" else pure []
    return text (lead ++ words ++ type.text) :: converted
  if ← acceptWords ["SET", "NOT", "NULL"] then return [text (lead ++ " SET NOT NULL")]
  else if ← acceptWords ["DROP", "NOT", "NULL"] then return [text (lead ++ " DROP NOT NULL")]
  else if ← acceptWords ["SET", "DEFAULT"] then
    let e ← g.expr
    return [text (lead ++ " SET DEFAULT "), .expr e]
  else if ← acceptWords ["DROP", "DEFAULT"] then return [text (lead ++ " DROP DEFAULT")]
  else if ← acceptWords ["SET", "DATA", "TYPE"] then newType " SET DATA TYPE "
  else if ← acceptWord "TYPE" then newType " TYPE "
  else if g.dialect == .postgres then
    expected "SET/DROP NOT NULL, SET DEFAULT, SET DATA TYPE, or ADD GENERATED after ALTER COLUMN"
  else expected "SET/DROP NOT NULL, SET DEFAULT, or SET DATA TYPE after ALTER COLUMN"

/-- A change of a table. -/
private def Grammar.alteration (g : Grammar) : Parser (List Piece) := do
  if ← acceptWord "ADD" then g.addition
  else if ← acceptWord "RENAME" then g.renaming
  else if ← acceptWord "DROP" then removal
  else if ← acceptWord "ALTER" then g.columnChange
  else expected ("ADD, RENAME, PARTITION, SWAP, DROP, REPLICA IDENTITY, SET, or " ++
    "SET TBLPROPERTIES after ALTER TABLE")

/-- Changes of a table, after its keyword. -/
def Grammar.alterTable (g : Grammar) : Parser (List Piece) := do
  let present ← acceptWords ["IF", "EXISTS"]
  let only ← acceptWord "ONLY"
  let name ← qualifiedName g.dialect
  let items ← sepByComma g.alteration
  return text ("ALTER TABLE " ++ (if present then "IF EXISTS " else "") ++
    (if only then "ONLY " else "") ++ name.render ++ " ") :: commas items

end RowShape.Sql
