import RowShape.Sql.Grammar.Statement.Control
import RowShape.Sql.Grammar.Statement.Table

/-!
# Statements that define and drop objects

Each parser here runs after its keyword has been taken.

## Main definitions

* `Grammar.create`, `Grammar.alter`, `drop`, `Grammar.truncate`: the statements.
-/

namespace RowShape.Sql

open RowShape.Sql.Parser Piece

/-- A word and a space after it, if the word is wanted. -/
private def mark (wanted : Bool) (word : String) : String := if wanted then word ++ " " else ""

/-! ### Views and indexes -/

/-- The definition of a view, after its keyword. -/
private def Grammar.createView (g : Grammar) (lead : String) : Parser (List Piece) := do
  let missing ← acceptWords ["IF", "NOT", "EXISTS"]
  let name ← qualifiedName g.dialect
  let columns ← optionalNames
  expectWord "AS"
  let q ← g.query
  return [text ("CREATE " ++ lead ++ "VIEW " ++ mark missing "IF NOT EXISTS" ++ name.render ++
    (if columns.isEmpty then "" else " " ++ columns) ++ " AS "), .query q]

/-- The definition of an index, after its keyword. -/
private def Grammar.createIndex (g : Grammar) (unique : Bool) : Parser (List Piece) := do
  let concurrent ← acceptWord "CONCURRENTLY"
  let missing ← acceptWords ["IF", "NOT", "EXISTS"]
  let name ←
    if ← provided (!missing) (acceptWord "ON") then pure ""
    else do
      let n ← qualifiedName g.dialect
      expectWord "ON"
      pure (n.render ++ " ")
  let table ← qualifiedName g.dialect
  let using? ← after? "USING" identifier
  let keys ← inParens g.sortKeys
  let included ←
    match ← after? "INCLUDE" (inParens (sepByComma identifier)) with
    | some names => pure (" INCLUDE (" ++ ", ".intercalate (names.map Ident.render) ++ ")")
    | none => pure ""
  let filter ← g.exprAfter? "WHERE"
  return text ("CREATE " ++ mark unique "UNIQUE" ++ "INDEX " ++ mark concurrent "CONCURRENTLY" ++
      mark missing "IF NOT EXISTS" ++ name ++ "ON " ++ table.render ++
      ((using?.map fun i => " USING " ++ i.render ++ " ").getD "") ++ "(") ::
    keys ++ text (")" ++ included) :: filter

/-! ### Routines -/

/-- A parameter of a routine. -/
private def Grammar.parameter (g : Grammar) : Parser (List Piece) := do
  let mode ← acceptOneOf ["IN", "OUT", "INOUT"]
  let name ← identifier
  let type ← typeName g.dialect
  let value : List Piece ←
    if ← acceptMark "=" then do
      let e ← g.expr
      pure [text " = ", .expr e]
    else pure []
  return text ((mode.map (· ++ " ")).getD "" ++ name.render ++ " " ++ type.text) :: value

/-- Parameters in parentheses, if there are any; a comma may follow the last one. -/
private def Grammar.parameters (g : Grammar) : Parser (List (List Piece)) := do
  unless ← acceptMark "(" do return []
  if ← acceptMark ")" then return []
  let (found, _) ← iterate (fun ((found, closed) : List (List Piece) × Bool) => do
    if closed then return none
    let l ← peek
    let found ← match l.token with
      | .word .. => do pure (found ++ [← g.parameter])
      | _ => pure found
    let comma ← acceptMark ","
    if ← acceptMark ")" then return some (found, true)
    else if comma then return some (found, false)
    else expected "',' or ')' after parameter definition") ([], false)
  return found

/-- The definition of a procedure, after its keyword. -/
private def Grammar.createProcedure (g : Grammar) (lead : String) : Parser (List Piece) := do
  let name ← qualifiedName g.dialect
  let parameters ← g.parameters
  let language ← after? "LANGUAGE" identifier
  expectWord "AS"
  let body ← g.block true (g.statementsUntil true ["END"])
  let shown := if parameters.isEmpty then [] else text " (" :: commas parameters ++ [text ")"]
  return text ("CREATE " ++ lead ++ "PROCEDURE " ++ name.render) :: shown ++
    [text ((language.map fun i => " LANGUAGE " ++ i.render).getD "" ++ " AS " ++ body)]

/-- The definition of a function, after its keyword. -/
private def Grammar.createFunction (g : Grammar) (lead : String) : Parser (List Piece) := do
  let name ← qualifiedName g.dialect
  expectMark "("
  let parameters ← sepByCommaUntil ")" g.parameter
  expectMark ")"
  expectWord "RETURNS"
  let type ← typeName g.dialect
  let _ ← acceptWord "AS"
  let body : List Piece ←
    if ← peekWord "BEGIN" then do
      pure [text (← g.block true (pure []))]
    else if ← acceptWord "RETURN" then do
      if ← peekMark "(" then pure [text "RETURN ", .expr (← g.expr)]
      else if ← peekWord "SELECT" then pure [text "RETURN ", .query (← g.query)]
      else failAt (← peek) <|
        .malformed "Expected a subquery (or bare SELECT statement) after RETURN"
    else failAt (← peek) (.malformed "Unparsable function body")
  return text ("CREATE " ++ lead ++ "FUNCTION " ++ name.render ++ "(") :: commas parameters ++
    text (") RETURNS " ++ type.text ++ " AS ") :: body

/-! ### Other objects -/

/-- An option of a sequence of numbers. -/
private def Grammar.sequenceOption? (g : Grammar) : Parser (Option (List Piece)) := do
  let number (lead : String) : Parser (Option (List Piece)) := do
    let e ← g.expr
    return some [text lead, .expr e]
  if ← acceptWord "INCREMENT" then
    number (" INCREMENT " ++ mark (← acceptWord "BY") "BY")
  else if ← acceptWord "MINVALUE" then number " MINVALUE "
  else if ← acceptWords ["NO", "MINVALUE"] then return some [text " NO MINVALUE"]
  else if ← acceptWord "MAXVALUE" then number " MAXVALUE "
  else if ← acceptWords ["NO", "MAXVALUE"] then return some [text " NO MAXVALUE"]
  else if ← acceptWord "START" then
    number (" START " ++ mark (← acceptWord "WITH") "WITH")
  else if ← acceptWord "CACHE" then number " CACHE "
  else if ← acceptWords ["NO", "CYCLE"] then return some [text " NO CYCLE"]
  else if ← acceptWord "CYCLE" then return some [text " CYCLE"]
  else return none

/-- The definition of an object that has only a name, and options that are printed with it. -/
private def Grammar.createNamed (g : Grammar) (lead : String) (options : Parser (List Piece)) :
    Parser (List Piece) := do
  let missing ← acceptWords ["IF", "NOT", "EXISTS"]
  let name ← qualifiedName g.dialect
  let shown ← options
  return text ("CREATE " ++ lead ++ mark missing "IF NOT EXISTS" ++ name.render) :: shown

/-! ### `CREATE` and `ALTER` -/

/-- `CREATE`. -/
def Grammar.create (g : Grammar) : Parser (List Piece) := do
  let replaces ← acceptWords ["OR", "REPLACE"]
  let alters ← acceptWords ["OR", "ALTER"]
  let temporary := (← acceptOneOf ["TEMPORARY", "TEMP"]).isSome
  let lead := mark alters "OR ALTER" ++ mark replaces "OR REPLACE" ++ mark temporary "TEMPORARY"
  if ← acceptWord "TABLE" then g.createTable lead
  else if ← acceptWord "VIEW" then g.createView lead
  else if ← acceptWords ["MATERIALIZED", "VIEW"] then g.createView (lead ++ "MATERIALIZED ")
  else if ← provided (g.dialect == .msSql) (acceptWord "FUNCTION") then g.createFunction lead
  else if replaces then
    expected "[EXTERNAL] TABLE or [MATERIALIZED] VIEW or FUNCTION after CREATE OR REPLACE"
  else if ← acceptWord "INDEX" then g.createIndex false
  else if ← acceptWords ["UNIQUE", "INDEX"] then g.createIndex true
  else if ← acceptWord "SCHEMA" then g.createNamed "SCHEMA " (pure [])
  else if ← acceptWord "DATABASE" then g.createNamed "DATABASE " (pure [])
  else if ← acceptWord "ROLE" then g.createNamed "ROLE " (pure [])
  else if ← acceptWord "SEQUENCE" then
    g.createNamed (mark temporary "TEMPORARY" ++ "SEQUENCE ") do
      let type ← after? "AS" (typeName g.dialect)
      let options ← many g.sequenceOption?
      return text ((type.map (" AS " ++ ·.text)).getD "") :: options.flatten
  else if ← acceptWord "PROCEDURE" then g.createProcedure (mark alters "OR ALTER")
  else expected "an object type after CREATE"

/-- `ALTER`. -/
def Grammar.alter (g : Grammar) : Parser (List Piece) := do
  match ← acceptOneOf ["VIEW", "TABLE"] with
  | some "TABLE" => g.alterTable
  | some _ =>
    let name ← qualifiedName g.dialect
    let columns ← optionalNames
    expectWord "AS"
    let q ← g.query
    return [text ("ALTER VIEW " ++ name.render ++
      (if columns.isEmpty then "" else " " ++ columns) ++ " AS "), .query q]
  | none => expected ("one of " ++ " or ".intercalate ["VIEW", "TYPE", "TABLE", "INDEX", "ROLE",
      "POLICY", "CONNECTOR", "ICEBERG", "SCHEMA"])

/-! ### `DROP` and `TRUNCATE` -/

/-- The kinds of objects of which several can be dropped at once. -/
private def droppable : List String :=
  ["TABLE", "VIEW", "INDEX", "ROLE", "SCHEMA", "DATABASE", "SEQUENCE", "STAGE", "TYPE", "USER",
    "STREAM"]

/-- Objects that are dropped together, after their kind. -/
private def dropAll (d : Dialect) (lead kind : String) : Parser (List Piece) := do
  let present ← acceptWords ["IF", "EXISTS"]
  let names ← sepByComma (qualifiedName d)
  let l ← peek
  let cascade ← acceptWord "CASCADE"
  let restrict ← acceptWord "RESTRICT"
  let purge ← acceptWord "PURGE"
  if cascade && restrict then
    failAt l (.malformed "Cannot specify both CASCADE and RESTRICT in DROP")
  if kind == "ROLE" && (cascade || restrict || purge) then
    failAt l (.malformed "Cannot specify CASCADE, RESTRICT, or PURGE in DROP ROLE")
  let table ←
    match ← after? "ON" (qualifiedName d) with
    | some n => pure (" ON " ++ n.render)
    | none => pure ""
  return [text ("DROP " ++ lead ++ kind ++ (if present then " IF EXISTS " else " ") ++
    ", ".intercalate (names.map QualifiedName.render) ++ (if cascade then " CASCADE" else "") ++
    (if restrict then " RESTRICT" else "") ++ (if purge then " PURGE" else "") ++ table)]

/-- A routine by its name and perhaps the types of its parameters, as text. -/
private def routine (d : Dialect) : Parser String := do
  let name ← qualifiedName d
  if ← acceptMark "(" then
    let types ← sepByCommaUntil ")" (typeName d)
    expectMark ")"
    return name.render ++ "(" ++ ", ".intercalate (types.map TypeName.text) ++ ")"
  else return name.render

/-- Routines that are dropped, after their kind. -/
private def dropRoutines (d : Dialect) (kind : String) : Parser (List Piece) := do
  let present ← acceptWords ["IF", "EXISTS"]
  let names ← sepByComma (routine d)
  let behaviour ← dropBehaviour
  return [text ("DROP " ++ kind ++ (if present then " IF EXISTS " else " ") ++
    ", ".intercalate names ++ behaviour)]

/-- A trigger that is dropped. -/
private def dropTrigger (d : Dialect) : Parser (List Piece) := do
  let present ← acceptWords ["IF", "EXISTS"]
  let name ← qualifiedName d
  let table ← after? "ON" (qualifiedName d)
  let behaviour ← dropBehaviour
  return [text ("DROP TRIGGER " ++ mark present "IF EXISTS" ++ name.render ++
    (table.map fun n => " ON " ++ n.render).getD "" ++ behaviour)]

/-- `DROP`. -/
def drop (d : Dialect) : Parser (List Piece) := do
  let temporary ← if d == .generic then acceptWord "TEMPORARY" else pure false
  let lead := mark temporary "TEMPORARY"
  match ← acceptOneOf (["PROCEDURE", "FUNCTION", "TRIGGER"] ++ droppable) with
  | some "TRIGGER" => dropTrigger d
  | some kind =>
    if droppable.contains kind then dropAll d lead kind else dropRoutines d kind
  | none =>
    if ← acceptWords ["MATERIALIZED", "VIEW"] then dropAll d lead "MATERIALIZED VIEW"
    else expected ("CONNECTOR, DATABASE, EXTENSION, FUNCTION, INDEX, POLICY, PROCEDURE, ROLE, " ++
      "SCHEMA, SECRET, SEQUENCE, STAGE, TABLE, TRIGGER, TYPE, VIEW, MATERIALIZED VIEW or USER " ++
      "after DROP")

/-- `TRUNCATE`. -/
def Grammar.truncate (g : Grammar) : Parser (List Piece) := do
  let table ← acceptWord "TABLE"
  let names ← sepByComma do
    let only ← acceptWord "ONLY"
    let n ← qualifiedName g.dialect
    return mark only "ONLY" ++ n.render
  let partitions ←
    if ← acceptWord "PARTITION" then do
      let es ← inParens (sepByComma g.expr)
      pure (text " PARTITION (" :: exprs es ++ [text ")"])
    else pure []
  let options ←
    if g.dialect == .msSql then pure ""
    else do
      let identity ←
        if ← acceptWords ["RESTART", "IDENTITY"] then pure " RESTART IDENTITY"
        else if ← acceptWords ["CONTINUE", "IDENTITY"] then pure " CONTINUE IDENTITY"
        else pure ""
      pure (identity ++ (← dropBehaviour))
  return text ("TRUNCATE " ++ mark table "TABLE" ++ ", ".intercalate names ++ options) :: partitions

end RowShape.Sql
