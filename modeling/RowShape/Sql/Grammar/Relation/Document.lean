import RowShape.Sql.Grammar.Operator

/-!
# Tables read from documents

`JSON_TABLE`, `OPENJSON` and `XMLTABLE`.

## Main definitions

* `Grammar.documentTable`: the table that one of these functions reads.
-/

namespace RowShape.Sql

open RowShape.Sql.Parser Piece

/-! ### `JSON_TABLE` -/

/-- What happens to a value that is missing or wrong, as text. -/
private def onMissing? (d : Dialect) : Parser (Option String) := do
  let action ←
    match ← acceptOneOf ["NULL", "ERROR", "DEFAULT"] with
    | some "DEFAULT" => do
      let v ← literal d
      pure (some ("DEFAULT " ++ v.render))
    | found => pure found
  match action with
  | none => return none
  | some a =>
    expectWord "ON"
    if ← acceptWord "EMPTY" then return some (" " ++ a ++ " ON EMPTY")
    else
      expectWord "ERROR"
      return some (" " ++ a ++ " ON ERROR")

/-- A column of `JSON_TABLE`, as text; columns are nested at most `n` deep. -/
private def jsonColumn (d : Dialect) : Nat → Parser String
  | 0 => expected "identifier"
  | n + 1 => do
    if ← acceptWord "NESTED" then
      let _ ← acceptWord "PATH"
      let path ← literal d
      expectWord "COLUMNS"
      let columns ← inParens (sepByComma (jsonColumn d n))
      return "NESTED PATH " ++ path.render ++ " COLUMNS (" ++ ", ".intercalate columns ++ ")"
    let name ← identifier
    if ← acceptWord "FOR" then
      expectWord "ORDINALITY"
      return name.render ++ " FOR ORDINALITY"
    let type ← typeName d
    let onlyExists ← acceptWord "EXISTS"
    expectWord "PATH"
    let path ← literal d
    let actions ← many (onMissing? d)
    return name.render ++ " " ++ type.text ++ (if onlyExists then " EXISTS" else "") ++ " PATH " ++
      path.render ++ String.join actions

/-- `JSON_TABLE(..)` after its keyword. -/
private def Grammar.jsonTable (g : Grammar) : Parser (List Piece) := do
  expectMark "("
  let e ← g.expr
  expectMark ","
  let path ← literal g.dialect
  expectWord "COLUMNS"
  let depth := (← get).length
  let columns ← inParens (sepByComma (jsonColumn g.dialect depth))
  expectMark ")"
  return [text "JSON_TABLE(", .expr e,
    text (", " ++ path.render ++ " COLUMNS(" ++ ", ".intercalate columns ++ "))")]

/-! ### `OPENJSON` -/

/-- A column of `OPENJSON`, as text. -/
private def openColumn (d : Dialect) : Parser String := do
  let name ← identifier
  let type ← typeName d
  let path ←
    match (← peek).token with
    | .literal (.text s) => do
      let _ ← advance
      pure (" '" ++ s ++ "'")
    | _ => pure ""
  if ← acceptWord "AS" then
    expectWord "JSON"
    return name.render ++ " " ++ type.text ++ path ++ " AS JSON"
  else return name.render ++ " " ++ type.text ++ path

/-- `OPENJSON(..)` after its keyword. -/
private def Grammar.openJson (g : Grammar) : Parser (List Piece) := do
  expectMark "("
  let e ← g.expr
  let path ←
    if ← acceptMark "," then do
      let v ← literal g.dialect
      pure (", " ++ v.render)
    else pure ""
  expectMark ")"
  let columns ←
    if ← acceptWord "WITH" then do
      let columns ← inParens (sepByComma (openColumn g.dialect))
      pure (" WITH (" ++ ", ".intercalate columns ++ ")")
    else pure ""
  return [text "OPENJSON(", .expr e, text (path ++ ")" ++ columns)]

/-! ### `XMLTABLE` -/

/-- The documents that `XMLTABLE` reads. -/
private def Grammar.passing (g : Grammar) : Parser (List Piece) := do
  if ← acceptWord "PASSING" then
    let items ← sepByComma do
      let byValue ← if ← acceptWord "BY" then do
          expectWord "VALUE"
          pure true
        else pure false
      let e ← g.expr
      let aliased ← after? "AS" identifier
      return [text (if byValue then "BY VALUE " else ""), .expr e,
        text ((aliased.map fun i => " AS " ++ i.render).getD "")]
    return text " PASSING " :: commas items
  else return []

/-- A column of `XMLTABLE`. -/
private def Grammar.xmlColumn (g : Grammar) : Parser (List Piece) := do
  let name ← identifier
  if ← acceptWord "FOR" then
    expectWord "ORDINALITY"
    return [text (name.render ++ " FOR ORDINALITY")]
  let type ← typeName g.dialect
  let path ← g.exprAfter? "PATH"
  let default ← g.exprAfter? "DEFAULT"
  let required ← acceptWords ["NOT", "NULL"]
  unless required do
    let _ ← acceptWord "NULL"
  return text (name.render ++ " " ++ type.text) :: path ++ default ++
    [text (if required then " NOT NULL" else "")]

/-- `XMLTABLE(..)` after its keyword. -/
private def Grammar.xmlTable (g : Grammar) : Parser (List Piece) := do
  expectMark "("
  let spaces ←
    if ← acceptWord "XMLNAMESPACES" then do
      let items ← inParens (sepByComma do
        let e ← g.expr
        expectWord "AS"
        let i ← identifier
        return [.expr e, text (" AS " ++ i.render)])
      expectMark ","
      pure (text "XMLNAMESPACES(" :: commas items ++ [text "), "])
    else pure []
  let row ← g.expr
  let passing ← g.passing
  expectWord "COLUMNS"
  let columns ← sepByComma g.xmlColumn
  expectMark ")"
  return text "XMLTABLE(" :: spaces ++ .expr row :: passing ++ text " COLUMNS " ::
    commas columns ++ [text ")"]

/-! ### All of them -/

/-- The table that a function on documents reads; the name of the function is already taken. -/
def Grammar.documentTable (g : Grammar) (name : String) : Parser (List Piece) :=
  if name == "JSON_TABLE" then g.jsonTable
  else if name == "OPENJSON" then g.openJson
  else g.xmlTable

end RowShape.Sql
