import RowShape.Sql.Grammar.Relation

/-!
# The end of a query

Order, limits and what else may follow the body of a query.

## Main definitions

* `Grammar.queryOrder`: the order of the rows.
* `Grammar.queryTail`: everything behind the order.
-/

namespace RowShape.Sql

open RowShape.Sql.Parser Piece

/-! ### Order -/

/-- How missing rows are made up, behind sort keys. -/
private def Grammar.interpolation? (g : Grammar) : Parser (List Piece) := do
  if ← provided g.dialect.columnStoreClauses (acceptWord "INTERPOLATE") then
    if ← acceptMark "(" then
      let items ← sepByCommaUntil ")" do
        let i ← identifier
        match ← after? "AS" g.expr with
        | some e => return [text (i.render ++ " AS "), .expr e]
        | none => return [text i.render]
      expectMark ")"
      return text " INTERPOLATE (" :: commas items ++ [text ")"]
    else return [text " INTERPOLATE"]
  else return []

/-- The order of the rows. -/
def Grammar.queryOrder (g : Grammar) : Parser (List Piece) := do
  let order ← g.orderBy?
  if order.isEmpty then return []
  else
    let more ← g.interpolation?
    return text " " :: order ++ more

/-! ### Limits -/

/-- The number of rows to leave out. -/
private def Grammar.offset? (g : Grammar) : Parser (List Piece) := do
  if ← acceptWord "OFFSET" then
    let e ← g.expr
    let unit ← acceptOneOf ["ROW", "ROWS"]
    return [text " OFFSET ", .expr e, text ((unit.map (" " ++ ·)).getD "")]
  else return []

/-- The rows to leave out and the number of rows to return. -/
private def Grammar.limits (g : Grammar) : Parser (List Piece) := do
  let before ← g.offset?
  if ← acceptWord "LIMIT" then
    let limit ← if ← acceptWord "ALL" then pure none else some <$> g.expr
    let comma ←
      if g.dialect.columnStoreClauses && before.isEmpty && limit.isSome then acceptMark ","
      else pure false
    let shown : List Piece := match limit with
      | some e => [text " LIMIT ", .expr e]
      | none => []
    if comma then
      let e ← g.expr
      return shown ++ [text ", ", .expr e]
    else
      let within ←
        if ← provided g.dialect.columnStoreClauses (acceptWord "BY") then do
          let es ← sepByComma g.expr
          pure (text " BY " :: exprs es)
        else pure []
      let offset ← if before.isEmpty then g.offset? else pure before
      return shown ++ offset ++ within
  else return before

/-- The number of rows to fetch. -/
private def fetch? (d : Dialect) : Parser (List Piece) := do
  if ← acceptWord "FETCH" then
    let _ ← acceptOneOf ["FIRST", "NEXT"]
    let quantity ←
      match ← acceptOneOf ["ROW", "ROWS"] with
      | some _ => pure ""
      | none => do
        let v ← literal d
        let percent ← acceptWord "PERCENT"
        let _ ← acceptOneOf ["ROW", "ROWS"]
        pure (" " ++ v.render ++ if percent then " PERCENT" else "")
    let only ← acceptWord "ONLY"
    let ties ← if only then pure false else acceptWords ["WITH", "TIES"]
    return [text (" FETCH FIRST" ++ quantity ++ " ROWS " ++ if ties then "WITH TIES" else "ONLY")]
  else return []

/-! ### Locks and documents -/

/-- Options behind commas, each of them text. -/
private def documentOptions (option : Parser (Option String)) : Parser (List String) := do
  let found ← many do
    if ← acceptMark "," then some <$> option else return none
  return found.filterMap id

/-- A name in parentheses, in quotes. -/
private def elementName? : Parser String := do
  if ← peekMark "(" then
    let s ← inParens quotedText
    return "('" ++ s ++ "')"
  else return ""

/-- The name of the root of a document. -/
private def rootName : Parser String := do
  let s ← inParens quotedText
  return ", ROOT('" ++ s ++ "')"

/-- An XML document made of the rows, as text. -/
private def forXml : Parser String := do
  let shape ←
    match ← acceptOneOf ["RAW", "AUTO", "EXPLICIT", "PATH"] with
    | some k => if ["RAW", "PATH"].contains k then do pure (k ++ (← elementName?)) else pure k
    | none => throw (.nowhere (.malformed "Expected FOR XML [RAW | AUTO | EXPLICIT | PATH ]"))
  let options ← documentOptions do
    if ← acceptWord "ELEMENTS" then return some ", ELEMENTS"
    else if ← acceptWord "BINARY" then
      expectWord "BASE64"
      return some ", BINARY BASE64"
    else if ← acceptWord "ROOT" then return some (← rootName)
    else if ← acceptWord "TYPE" then return some ", TYPE"
    else return none
  let flag (s : String) : String := if options.contains s then s else ""
  let root := ((options.filter (·.startsWith ", ROOT(")).getLast?).getD ""
  return "FOR XML " ++ shape ++ flag ", BINARY BASE64" ++ flag ", TYPE" ++ root ++
    flag ", ELEMENTS"

/-- A JSON document made of the rows, as text. -/
private def forJson : Parser String := do
  let shape ←
    match ← acceptOneOf ["AUTO", "PATH"] with
    | some k => pure k
    | none => throw (.nowhere (.malformed "Expected FOR JSON [AUTO | PATH ]"))
  let options ← documentOptions do
    if ← acceptWord "ROOT" then return some (← rootName)
    else if ← acceptWord "INCLUDE_NULL_VALUES" then return some ", INCLUDE_NULL_VALUES"
    else if ← acceptWord "WITHOUT_ARRAY_WRAPPER" then return some ", WITHOUT_ARRAY_WRAPPER"
    else return none
  let flag (s : String) : String := if options.contains s then s else ""
  let root := ((options.filter (·.startsWith ", ROOT(")).getLast?).getD ""
  return "FOR JSON " ++ shape ++ root ++ flag ", INCLUDE_NULL_VALUES" ++
    flag ", WITHOUT_ARRAY_WRAPPER"

/-- A lock on the rows, as text. -/
private def lock (d : Dialect) : Parser String := do
  let k ← expectOneOf ["UPDATE", "SHARE"]
  let source ←
    match ← after? "OF" (qualifiedName d) with
    | some n => pure (" OF " ++ n.render)
    | none => pure ""
  let wait ←
    if ← acceptWord "NOWAIT" then pure " NOWAIT"
    else if ← acceptWords ["SKIP", "LOCKED"] then pure " SKIP LOCKED"
    else pure ""
  return "FOR " ++ k ++ source ++ wait

/-- What `FOR` clauses ask for: locks, and at last perhaps a document. -/
private def purposes (d : Dialect) : Parser (List Piece) := do
  let (found, _) ← iterate (fun (found, document) => do
    if document then return none
    else if ← acceptWord "FOR" then
      if ← acceptWord "XML" then return some (found ++ [text (" " ++ (← forXml))], true)
      else if ← acceptWord "JSON" then return some (found ++ [text (" " ++ (← forJson))], true)
      else if ← acceptWord "BROWSE" then return some (found ++ [text " FOR BROWSE"], true)
      else return some (found ++ [text (" " ++ (← lock d))], false)
    else return none) ([], false)
  return found

/-! ### Everything behind the order -/

/-- The name of the format of the answer. -/
private def format? (d : Dialect) : Parser (List Piece) := do
  if ← provided d.columnStoreClauses (acceptWord "FORMAT") then
    if ← acceptWord "NULL" then return [text " FORMAT NULL"]
    else return [text (" FORMAT " ++ (← identifier).render)]
  else return []

/-- Everything behind the order. -/
def Grammar.queryTail (g : Grammar) : Parser (List Piece) := do
  let limits ← g.limits
  let settings ← g.settings?
  let fetch ← fetch? g.dialect
  let purposes ← purposes g.dialect
  let format ← format? g.dialect
  return limits ++ (if settings.isEmpty then [] else text " " :: settings) ++ fetch ++ purposes ++
    format

end RowShape.Sql
