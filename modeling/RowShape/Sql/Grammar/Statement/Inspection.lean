import RowShape.Sql.Grammar.Query

/-!
# Statements that look at things

Explanations, listings and cursors.  Each parser here runs after its keyword has been taken.

## Main definitions

* `Grammar.explain`, `Grammar.listing`: what the database knows.
* `fetch`, `kill`, `discard`: cursors and sessions.
* `Grammar.inspections`: all statements of this module by their keywords.
-/

namespace RowShape.Sql

open RowShape.Sql.Parser Piece

/-! ### Explanations and listings -/

/-- `EXPLAIN`, `DESCRIBE` or `DESC`. -/
private def Grammar.explain (g : Grammar) (keyword : String) : Parser (List Piece) := do
  let plan ← acceptWords ["QUERY", "PLAN"]
  let analyze ← acceptWord "ANALYZE"
  let verbose ← acceptWord "VERBOSE"
  let lead := keyword ++ " " ++ (if plan then "QUERY PLAN " else "") ++
    (if analyze then "ANALYZE " else "") ++ if verbose then "VERBOSE " else ""
  match ← attempt g.statement with
  | some (.query q) => return [text lead, .query q]
  | some (.other ps) => return text lead :: ps
  | none => return [text (keyword ++ " " ++ (← qualifiedName g.dialect).render)]

/-- Where the listed things are, and which of them are listed. -/
private def Grammar.listingOptions (g : Grammar) : Parser (List Piece) := do
  let place ←
    match ← acceptOneOf ["FROM", "IN"] with
    | some k => do
      let name ← qualifiedName g.dialect
      match ← acceptOneOf ["FROM", "IN"] with
      | some _ => do
        let outer ← identifier
        pure (" " ++ k ++ " " ++ outer.render ++ "." ++ name.render)
      | none => pure (" " ++ k ++ " " ++ name.render)
    | none => pure ""
  let filter ←
    match ← after? "LIKE" quotedText with
    | some s => pure [text (" LIKE " ++ quoted '\'' s)]
    | none => g.exprAfter? "WHERE"
  return text place :: filter

/-- The words of a listing that is known only by name; other tokens between them are left out. -/
private def settingWords : Parser (List String) :=
  many do
    let l ← peek
    if [.endOfText, .mark "=", .mark ";"].contains l.token then return none
    else
      let _ ← advance
      match l.token with
      | .word i _ => return some (" " ++ i.render)
      | _ => return some ""

/-- `SHOW`. -/
private def Grammar.listing (g : Grammar) : Parser (List Piece) := do
  match ← acceptOneOf ["COLUMNS", "TABLES", "VIEWS", "DATABASES", "SCHEMAS"] with
  | some k => return text ("SHOW " ++ k) :: (← g.listingOptions)
  | none =>
    if ← acceptWord "CREATE" then
      let kind ← expectOneOf ["TABLE", "TRIGGER", "FUNCTION", "PROCEDURE", "EVENT", "VIEW"]
      return [text ("SHOW CREATE " ++ kind ++ " " ++ (← qualifiedName g.dialect).render)]
    else return [text ("SHOW" ++ String.join (← settingWords))]

/-! ### Cursors and sessions -/

/-- The row that a cursor moves to, as text. -/
private def direction (d : Dialect) : Parser String := do
  match ← acceptOneOf ["NEXT", "PRIOR", "FIRST", "LAST", "ALL"] with
  | some k => return k
  | none =>
    match ← acceptOneOf ["ABSOLUTE", "RELATIVE"] with
    | some k => return k ++ " " ++ (← literal d).render
    | none =>
      match ← acceptOneOf ["FORWARD", "BACKWARD"] with
      | some k =>
        if ← acceptWord "ALL" then return k ++ " ALL" else return k ++ " " ++ (← literal d).render
      | none => return (← literal d).render

/-- `FETCH`. -/
private def fetch (d : Dialect) : Parser (List Piece) := do
  let row ← direction d
  match ← acceptOneOf ["FROM", "IN"] with
  | some k =>
    let name ← identifier
    let target ← after? "INTO" (qualifiedName d)
    return [text ("FETCH " ++ row ++ " " ++ k ++ " " ++ name.render ++
      (target.map (" INTO " ++ ·.render)).getD "")]
  | none => failAt (← peek) (.malformed "Expected FROM or IN")

/-- `KILL`. -/
private def kill (d : Dialect) : Parser (List Piece) := do
  let kinds := ["CONNECTION", "QUERY"] ++ if d == .generic then ["MUTATION"] else []
  let kind ← acceptOneOf kinds
  return [text ("KILL " ++ (kind.map (· ++ " ")).getD "" ++ (← count))]

/-- `DISCARD`. -/
private def discard : Parser (List Piece) := do
  match ← acceptOneOf ["ALL", "PLANS", "SEQUENCES", "TEMP", "TEMPORARY"] with
  | some k => return [text ("DISCARD " ++ if k == "TEMPORARY" then "TEMP" else k)]
  | none => expected "ALL, PLANS, SEQUENCES, TEMP or TEMPORARY after DISCARD"

/-- `ASSERT`. -/
private def Grammar.assertion (g : Grammar) : Parser (List Piece) := do
  let e ← g.expr
  let message ← g.exprAfter? "AS"
  return text "ASSERT " :: .expr e :: message

/-- `PREPARE`. -/
private def Grammar.prepare (g : Grammar) : Parser (List Piece) := do
  let name ← identifier
  let types ←
    if ← peekMark "(" then inParens (sepByComma (typeName g.dialect)) else pure []
  expectWord "AS"
  let s ← g.statement
  let shown := if types.isEmpty then "" else
    "(" ++ ", ".intercalate (types.map TypeName.text) ++ ") "
  return [text ("PREPARE " ++ name.render ++ " " ++ shown ++ "AS " ++ s.render)]

/-! ### All statements -/

/-- The statements of this module by their keywords. -/
def Grammar.inspections (g : Grammar) : List (String × Parser (List Piece)) :=
  let named (lead : String) : Parser (List Piece) :=
    return [text (lead ++ (← identifier).render)]
  [("EXPLAIN", g.explain "EXPLAIN"),
    ("DESCRIBE", g.explain "DESCRIBE"),
    ("DESC", g.explain "DESC"),
    ("SHOW", g.listing),
    ("ANALYZE", do
      let table ← acceptWord "TABLE"
      let name ← qualifiedName g.dialect
      return [text ((if table then "ANALYZE TABLE " else "ANALYZE ") ++ name.render)]),
    ("FETCH", fetch g.dialect),
    ("OPEN", named "OPEN "),
    ("CLOSE", do
      if ← acceptWord "ALL" then return [text "CLOSE ALL"] else named "CLOSE "),
    ("DEALLOCATE", do
      if ← acceptWord "PREPARE" then named "DEALLOCATE PREPARE " else named "DEALLOCATE "),
    ("KILL", kill g.dialect),
    ("DISCARD", discard),
    ("ASSERT", g.assertion),
    ("PREPARE", g.prepare)]

end RowShape.Sql
