import RowShape.Sql.Grammar.Call

/-!
# Expressions that a keyword announces

Each parser here runs after its keyword has been taken.

## Main definitions

* `Grammar.case`, `Grammar.cast`, `Grammar.convert` and their like: one form each.
* `Grammar.form?`: the form that a keyword announces.
-/

namespace RowShape.Sql

open RowShape.Sql.Parser Piece

/-- A keyword phrase around an expression. -/
private def wrapped (before : String) (e : Expr) (after : String) : Expr :=
  .phrase [text before, .expr e, text after]

/-! ### Conditions and conversions -/

/-- A branch of `CASE` after its `WHEN`. -/
def Grammar.branch (g : Grammar) : Parser (List Piece) := do
  let condition ← g.expr
  expectWord "THEN"
  let result ← g.expr
  return [text " WHEN ", .expr condition, text " THEN ", .expr result]

/-- `CASE .. WHEN .. THEN .. ELSE .. END`. -/
def Grammar.case (g : Grammar) : Parser Expr := do
  let subject ←
    if ← acceptWord "WHEN" then pure []
    else do
      let e ← g.expr
      expectWord "WHEN"
      pure [text " ", .expr e]
  let first ← g.branch
  let more ← many (after? "WHEN" g.branch)
  let otherwise ← g.exprAfter? "ELSE"
  expectWord "END"
  return .phrase (text "CASE" :: subject ++ first ++ more.flatten ++ otherwise ++ [text " END"])

/-- `CONVERT(..)` under one of its names. -/
def Grammar.convert (g : Grammar) (name : String) : Parser Expr := do
  expectMark "("
  if g.dialect.convertsTypeFirst then
    let type ← typeName g.dialect
    expectMark ","
    let e ← g.expr
    let styles ←
      if ← acceptMark "," then do
        let styles ← sepByComma g.expr
        pure (text ", " :: exprs styles)
      else pure []
    expectMark ")"
    return .phrase (text (name ++ "(" ++ type.text ++ ", ") :: .expr e :: styles ++ [text ")"])
  else
    let e ← g.expr
    if ← acceptWord "USING" then
      let charset ← qualifiedName g.dialect
      expectMark ")"
      return wrapped (name ++ "(") e (" USING " ++ charset.render ++ ")")
    else
      expectMark ","
      let type ← typeName g.dialect
      let charset ←
        if ← acceptWords ["CHARACTER", "SET"] then do
          let n ← qualifiedName g.dialect
          pure (" CHARACTER SET " ++ n.render)
        else pure ""
      expectMark ")"
      return wrapped (name ++ "(") e (", " ++ type.text ++ charset ++ ")")

/-- `CAST(..)` under one of its names. -/
def Grammar.cast (g : Grammar) (name : String) : Parser Expr := do
  expectMark "("
  let e ← g.expr
  expectWord "AS"
  let type ← typeName g.dialect
  let format ←
    if ← acceptWord "FORMAT" then do
      let v ← literal g.dialect
      let zone ←
        if ← acceptWords ["AT", "TIME", "ZONE"] then do
          let z ← literal g.dialect
          pure (" AT TIME ZONE " ++ z.render)
        else pure ""
      pure (" FORMAT " ++ v.render ++ zone)
    else pure ""
  expectMark ")"
  return wrapped (name ++ "(") e (" AS " ++ type.text ++ format ++ ")")

/-- `EXISTS (..)`. -/
def Grammar.existence (g : Grammar) (negated : Bool) : Parser Expr := do
  expectMark "("
  let q ← g.query
  expectMark ")"
  return .phrase [text (if negated then "NOT EXISTS (" else "EXISTS ("), .query q, text ")"]

/-- `NOT ..`. -/
def Grammar.negation (g : Grammar) : Parser Expr := do
  if ← acceptWord "EXISTS" then g.existence true
  else
    let e ← g.operandOf .negation
    return wrapped "NOT " e ""

/-! ### Functions with words among their arguments -/

/-- `EXTRACT(field FROM ..)`. -/
def Grammar.extract (g : Grammar) : Parser Expr := do
  expectMark "("
  let field ← dateField g.dialect
  let link ←
    if ← acceptWord "FROM" then pure " FROM "
    else if ← provided g.dialect.dateFieldExtras (acceptMark ",") then pure ", "
    else throw (.nowhere (.malformed "Expected 'FROM' or ','"))
  let e ← g.expr
  expectMark ")"
  return wrapped ("EXTRACT(" ++ field ++ link) e ")"

/-- `CEIL(..)` and `FLOOR(..)`. -/
def Grammar.rounding (g : Grammar) (name : String) : Parser Expr := do
  expectMark "("
  let e ← g.expr
  let scale ←
    if ← acceptWord "TO" then do
      let field ← dateField g.dialect
      pure (" TO " ++ field)
    else if ← acceptMark "," then
      match ← literal g.dialect with
      | .number digits long => pure (", " ++ (Literal.number digits long).render)
      | _ => throw (.nowhere (.malformed "Scale field can only be of number type"))
    else pure ""
  expectMark ")"
  return wrapped (name ++ "(") e (scale ++ ")")

/-- `POSITION(.. IN ..)`, or a call of a function of that name. -/
def Grammar.position (g : Grammar) (name : Ident) : Parser Expr := do
  let found ← attempt do
    expectMark "("
    let e ← g.operandOf .between
    expectWord "IN"
    let place ← g.expr
    expectMark ")"
    return Expr.phrase [text "POSITION(", .expr e, text " IN ", .expr place, text ")"]
  match found with
  | some e => return e
  | none => g.call (.single name)

/-- `SUBSTRING(..)` under one of its names. -/
def Grammar.substring (g : Grammar) (name : String) : Parser Expr := do
  expectMark "("
  let e ← g.expr
  let commas ← acceptMark ","
  let start ←
    if commas then do
      let start ← g.expr
      pure [text ", ", .expr start]
    else g.exprAfter? "FROM"
  let lengthFollows ← do
    if ← acceptWord "FOR" then pure true else acceptMark ","
  let length ←
    if lengthFollows then do
      let length ← g.expr
      pure [text (if commas then ", " else " FOR "), .expr length]
    else pure []
  expectMark ")"
  return .phrase (text (name ++ "(") :: .expr e :: start ++ length ++ [text ")"])

/-- `OVERLAY(.. PLACING .. FROM .. FOR ..)`. -/
def Grammar.overlay (g : Grammar) : Parser Expr := do
  expectMark "("
  let e ← g.expr
  expectWord "PLACING"
  let what ← g.expr
  expectWord "FROM"
  let start ← g.expr
  let length ← g.exprAfter? "FOR"
  expectMark ")"
  return .phrase ([text "OVERLAY(", .expr e, text " PLACING ", .expr what, text " FROM ",
    .expr start] ++ length ++ [text ")"])

/-- `TRIM(.. FROM ..)`. -/
def Grammar.trimmed (g : Grammar) : Parser Expr := do
  expectMark "("
  let side ← acceptOneOf ["BOTH", "LEADING", "TRAILING"]
  let e ← g.expr
  if ← acceptWord "FROM" then
    let subject ← g.expr
    expectMark ")"
    return .trim subject side (some e) []
  else
    let comma ← acceptMark ","
    if comma && g.dialect.trimsCharacters then
      let characters ← sepByComma g.expr
      expectMark ")"
      return .trim e none none (text ", " :: exprs characters)
    else
      expectMark ")"
      return .trim e side none []

/-- `MATCH (..) AGAINST (..)`. -/
def Grammar.textMatch (g : Grammar) : Parser Expr := do
  let columns ← nameList "a list of columns in parentheses"
  expectWord "AGAINST"
  expectMark "("
  let v ← literal g.dialect
  let mode ←
    if ← acceptWords ["IN", "NATURAL", "LANGUAGE", "MODE"] then
      if ← acceptWords ["WITH", "QUERY", "EXPANSION"] then
        pure " IN NATURAL LANGUAGE MODE WITH QUERY EXPANSION"
      else pure " IN NATURAL LANGUAGE MODE"
    else if ← acceptWords ["IN", "BOOLEAN", "MODE"] then pure " IN BOOLEAN MODE"
    else if ← acceptWords ["WITH", "QUERY", "EXPANSION"] then pure " WITH QUERY EXPANSION"
    else pure ""
  expectMark ")"
  return .phrase [text ("MATCH (" ++ ", ".intercalate (columns.map Ident.render) ++ ") AGAINST (" ++
    v.render ++ mode ++ ")")]

/-! ### Composite values -/

/-- An array after its opening bracket. -/
def Grammar.array (g : Grammar) (lead : String) : Parser Expr := do
  let elements ← sepByCommaUntil "]" g.expr
  expectMark "]"
  return .phrase (text (lead ++ "[") :: exprs elements ++ [text "]"])

/-- `ARRAY(..)` around a query. -/
def Grammar.arrayOfQuery (g : Grammar) (name : Ident) : Parser Expr := do
  expectMark "("
  let q ← g.query
  expectMark ")"
  return .call (.single name) [text "(", .query q, text ")"] [] []

/-- An entry of a dictionary. -/
private def entry (key : Parser (List Piece)) (g : Grammar) : Parser (List Piece) := do
  let k ← key
  expectMark ":"
  let v ← g.expr
  return k ++ [text ": ", .expr v]

/-- Entries in braces. -/
private def entries (lead : String) (key : Parser (List Piece)) (g : Grammar) : Parser Expr := do
  expectMark "\x7b"
  let found ← sepByCommaUntil "\x7d" (entry key g)
  expectMark "\x7d"
  return .phrase (text (lead ++ "\x7b") :: commas found ++ [text "\x7d"])

/-- A dictionary whose keys are names. -/
def Grammar.dictionary (g : Grammar) : Parser Expr :=
  entries "" (do return [text (← identifier).render]) g

/-- A map whose keys are expressions. -/
def Grammar.map (g : Grammar) : Parser Expr :=
  entries "MAP " (do return [.expr (← g.expr)]) g

/-- The fields of a structure type between angle brackets, as text. -/
def fieldTypes? (d : Dialect) : Parser String := do
  if ← acceptMark "<" then
    let fields ← sepByComma do
      let first ← peek
      let second ← peekAt 1
      let name ← match first.token, second.token with
        | .word .., .word .. => do
          let i ← identifier
          pure (i.render ++ " ")
        | .word .., .mark ":" => do
          let i ← identifier
          expectMark ":"
          pure (i.render ++ " ")
        | _, _ => pure ""
      let t ← typeName d
      return name ++ t.text
    expectMark ">"
    return "<" ++ ", ".intercalate fields ++ ">"
  else return ""

/-- `STRUCT(..)`. -/
def Grammar.record (g : Grammar) : Parser Expr := do
  let types ← fieldTypes? g.dialect
  expectMark "("
  let fields ← sepByComma do
    let e ← g.expr
    let l ← peek
    if ← acceptWord "AS" then
      unless types.isEmpty do failAt l (.malformed "Typed syntax does not allow AS")
      let name ← identifier
      return [.expr e, text (" AS " ++ name.render)]
    else return [.expr e]
  expectMark ")"
  return .phrase (text ("STRUCT" ++ types ++ "(") :: commas fields ++ [text ")"])

/-! ### All forms -/

/-- Functions that are called without parentheses and never have arguments. -/
private def sessionWords : List String :=
  ["CURRENT_CATALOG", "CURRENT_USER", "SESSION_USER", "USER"]

/-- Functions that may be called without parentheses. -/
private def clockWords : List String :=
  ["CURRENT_TIMESTAMP", "CURRENT_TIME", "CURRENT_DATE", "LOCALTIME", "LOCALTIMESTAMP"]

/-- Types of shapes, which are never plain words where the dialect knows them. -/
private def shapeWords : List String :=
  ["CIRCLE", "BOX", "PATH", "LINE", "LSEG", "POINT", "POLYGON"]

/-- The expression that a word announces, if it announces one; the word is already taken. -/
def Grammar.form? (g : Grammar) (name : Ident) (keyword : String) : Parser (Option Expr) := do
  let d := g.dialect
  let l ← peek
  if keyword == "NULL" then return some (.literal .null)
  else if d.booleanLiterals && keyword == "TRUE" then return some (.literal (.boolean true))
  else if d.booleanLiterals && keyword == "FALSE" then return some (.literal (.boolean false))
  else if d.sessionFunctions && sessionWords.contains keyword then
    return some (.call (.single name) [] [] [])
  else if clockWords.contains keyword then
    if ← acceptMark "(" then
      let (arguments, _) ← g.argumentList
      return some (.call (.single name) arguments [] [])
    else return some (.call (.single name) [] [] [])
  else if keyword == "CASE" then some <$> g.case
  else if keyword == "CONVERT" then some <$> g.convert keyword
  else if keyword == "TRY_CONVERT" && d.tryConvert then some <$> g.convert keyword
  else if ["CAST", "TRY_CAST", "SAFE_CAST"].contains keyword then some <$> g.cast keyword
  else if keyword == "EXISTS" then some <$> g.existence false
  else if keyword == "EXTRACT" then some <$> g.extract
  else if ["CEIL", "FLOOR"].contains keyword then some <$> g.rounding keyword
  else if keyword == "POSITION" && l.token == .mark "(" then some <$> g.position name
  else if ["SUBSTR", "SUBSTRING"].contains keyword then some <$> g.substring keyword
  else if keyword == "OVERLAY" then some <$> g.overlay
  else if keyword == "TRIM" then some <$> g.trimmed
  else if keyword == "INTERVAL" then some <$> g.interval
  else if keyword == "ARRAY" && l.token == .mark "[" then
    expectMark "["
    some <$> g.array "ARRAY"
  else if keyword == "ARRAY" && l.token == .mark "(" then some <$> g.arrayOfQuery name
  else if keyword == "NOT" then some <$> g.negation
  else if keyword == "MATCH" && d.compositeLiterals then some <$> g.textMatch
  else if keyword == "STRUCT" && d.compositeLiterals then some <$> g.record
  else if keyword == "PRIOR" && g.hierarchical then
    let e ← g.operandOf .plus
    return some (wrapped "PRIOR " e "")
  else if keyword == "MAP" && d.compositeLiterals && l.token == .mark "\x7b" then some <$> g.map
  else if d.shapeOperators && shapeWords.contains keyword then
    let v ← literal d
    return some (.phrase [text (keyword ++ " " ++ v.render)])
  else return none

end RowShape.Sql
