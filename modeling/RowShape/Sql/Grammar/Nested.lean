import RowShape.Sql.Grammar.TypeName

/-!
# Nested constructs

The parsers of a construct take the parsers of what may be nested in it as a value of `Grammar`.
The grammar of one nesting depth is then built from the grammar of the depth below it.

## Main definitions

* `Grammar`: the parsers of nested constructs, and the dialect.
* `Grammar.tooDeep`: the grammar in which nothing may be nested any more.
* `Piece.commas`: joins phrases by commas.
-/

namespace RowShape.Sql

/-- The parsers of nested constructs. -/
structure Grammar where
  /-- The dialect. -/
  dialect : Dialect
  /-- `PRIOR` refers to the row above in a hierarchy. -/
  hierarchical : Bool
  /-- An expression that ends before any operator that binds no stronger than this. -/
  exprAbove : Nat → Parser Expr
  /-- An operand: an expression without infix operators. -/
  operand : Parser Expr
  /-- An expression between the rows of a hierarchy, in which `PRIOR` refers to the row above. -/
  relationship : Parser Expr
  /-- A query. -/
  query : Parser Query
  /-- A relation of a `FROM` clause. -/
  relation : Parser Relation
  /-- A statement. -/
  statement : Parser Statement

/-- The grammar in which nothing may be nested any more. -/
def Grammar.tooDeep (d : Dialect) : Grammar where
  dialect := d
  hierarchical := false
  exprAbove _ := throw (.nowhere .tooDeep)
  operand := throw (.nowhere .tooDeep)
  relationship := throw (.nowhere .tooDeep)
  query := throw (.nowhere .tooDeep)
  relation := throw (.nowhere .tooDeep)
  statement := throw (.nowhere .tooDeep)

/-- An expression of any form. -/
def Grammar.expr (g : Grammar) : Parser Expr := g.exprAbove 0

/-- An expression with an operand position of a given strength. -/
def Grammar.operandOf (g : Grammar) (b : Binding) : Parser Expr :=
  g.exprAbove (g.dialect.strength b)

/-! ### Phrases -/

namespace Piece

/-- Phrases with commas between them. -/
def commas : List (List Piece) → List Piece
  | [] => []
  | [p] => p
  | p :: rest => p ++ text ", " :: commas rest

/-- Expressions with commas between them. -/
def exprs (es : List Expr) : List Piece := commas (es.map fun e => [expr e])

/-- A phrase in parentheses. -/
def parens (pieces : List Piece) : List Piece := text "(" :: pieces ++ [text ")"]

/-- A text, if there is one. -/
def optionalText (s : Option String) : List Piece :=
  match s with
  | some s => [text s]
  | none => []

end Piece

open RowShape.Sql.Parser Piece

/-- A keyword phrase followed by an expression, if its keyword is next. -/
def Grammar.exprAfter? (g : Grammar) (word : String) : Parser (List Piece) := do
  match ← after? word g.expr with
  | some e => return [text (" " ++ word ++ " "), .expr e]
  | none => return []

/-! ### Sort keys -/

/-- The direction of a sort key and the place of its nulls, as text. -/
def sortDirection : Parser String := do
  let direction ← acceptOneOf ["ASC", "DESC"]
  let nulls ←
    if ← acceptWords ["NULLS", "FIRST"] then pure " NULLS FIRST"
    else if ← acceptWords ["NULLS", "LAST"] then pure " NULLS LAST"
    else pure ""
  return (direction.map (" " ++ ·)).getD "" ++ nulls

/-- A sort key. -/
def Grammar.sortKey (g : Grammar) : Parser (List Piece) := do
  let e ← g.expr
  let direction ← sortDirection
  let fill ←
    if ← provided g.dialect.columnStoreClauses (acceptWords ["WITH", "FILL"]) then do
      let start ← g.exprAfter? "FROM"
      let stop ← g.exprAfter? "TO"
      let step ← g.exprAfter? "STEP"
      pure (text " WITH FILL" :: start ++ stop ++ step)
    else pure []
  return .expr e :: text direction :: fill

/-- Sort keys with commas between them. -/
def Grammar.sortKeys (g : Grammar) : Parser (List Piece) := do
  return commas (← sepByComma g.sortKey)

/-- `ORDER BY` and its keys, if they come next. -/
def Grammar.orderBy? (g : Grammar) : Parser (List Piece) := do
  if ← acceptWords ["ORDER", "BY"] then
    let keys ← g.sortKeys
    return text "ORDER BY " :: keys
  else return []

/-! ### Windows -/

/-- The words for units of dates and times. -/
def dateUnits : List String :=
  ["YEAR", "YEARS", "MONTH", "MONTHS", "WEEK", "WEEKS", "DAY", "DAYS", "HOUR", "HOURS", "MINUTE",
    "MINUTES", "SECOND", "SECONDS", "CENTURY", "DECADE", "DOW", "DOY", "EPOCH", "ISODOW",
    "ISOYEAR", "JULIAN", "MICROSECOND", "MICROSECONDS", "MILLENIUM", "MILLENNIUM", "MILLISECOND",
    "MILLISECONDS", "NANOSECOND", "NANOSECONDS", "QUARTER", "TIMEZONE", "TIMEZONE_HOUR",
    "TIMEZONE_MINUTE"]

/-- Words for fields of a date that are no units of an interval. -/
private def otherDateFields : List String := ["DATE", "DATETIME", "TIME", "ISOWEEK", "DAYOFWEEK",
  "DAYOFYEAR", "TIMEZONE_REGION", "TIMEZONE_ABBR"]

/-- A field of a date or time, as text. -/
def dateField (d : Dialect) : Parser String := do
  let l ← advance
  match l.token with
  | .word i k =>
    if k == "WEEK" then
      if ← provided d.dateFieldExtras (acceptMark "(") then
        let day ← identifier
        expectMark ")"
        return "WEEK(" ++ day.render ++ ")"
      else return "WEEK"
    else if dateUnits.contains k || otherDateFields.contains k then return k
    else if d.customDateFields then return i.render
    else unexpected "date/time field" l
  | .literal (.text s) =>
    if d.customDateFields then return quoted '\'' s else unexpected "date/time field" l
  | _ => unexpected "date/time field" l

/-- An interval after its keyword. -/
def Grammar.interval (g : Grammar) : Parser Expr := do
  let value ← g.operand
  let lead ←
    if dateUnits.contains (← peek).token.keyword then do
      let field ← dateField g.dialect
      pure (some field)
    else pure none
  let details ←
    if lead == some "SECOND" then precisionScale?
    else do
      let precision ← precision?
      if ← acceptWord "TO" then
        let last ← dateField g.dialect
        let fraction ← if last == "SECOND" then precision? else pure ""
        pure (precision ++ " TO " ++ last ++ fraction)
      else pure precision
  return .phrase [text "INTERVAL ", .expr value, text ((lead.map (" " ++ ·)).getD "" ++ details)]

/-- A bound of a window frame. -/
def Grammar.frameBound (g : Grammar) : Parser (List Piece) := do
  if ← acceptWords ["CURRENT", "ROW"] then return [text "CURRENT ROW"]
  let distance ←
    if ← acceptWord "UNBOUNDED" then pure [text "UNBOUNDED"]
    else match (← peek).token with
      | .literal (.text _) => pure [.expr (← g.interval)]
      | _ => pure [.expr (← g.expr)]
  match ← acceptOneOf ["PRECEDING", "FOLLOWING"] with
  | some side => return distance ++ [text (" " ++ side)]
  | none => expected "PRECEDING or FOLLOWING"

/-- A window frame. -/
def Grammar.windowFrame (g : Grammar) : Parser (List Piece) := do
  let l ← advance
  let unit := l.token.keyword
  unless ["ROWS", "RANGE", "GROUPS"].contains unit do unexpected "ROWS, RANGE, GROUPS" l
  if ← acceptWord "BETWEEN" then
    let first ← g.frameBound
    expectWord "AND"
    let last ← g.frameBound
    return text (unit ++ " BETWEEN ") :: first ++ text " AND " :: last
  else
    let first ← g.frameBound
    return text (unit ++ " ") :: first

/-- Phrases that are not empty, with spaces between them. -/
def spacedPhrases (phrases : List (List Piece)) : List Piece :=
  match phrases.filter fun p => !p.isEmpty with
  | [] => []
  | p :: rest => p ++ rest.flatMap fun q => text " " :: q

/-- A window in parentheses, of which the first is already taken. -/
def Grammar.windowInside (g : Grammar) : Parser (List Piece) := do
  let k := (← peek).token.keyword
  let base ←
    if k != "" && !(["PARTITION", "ORDER", "ROWS", "RANGE", "GROUPS"].contains k) then do
      let i ← identifier
      pure [text i.render]
    else match (← peek).token with
      | .word _ "" => pure [text (← identifier).render]
      | _ => pure []
  let partition ←
    if ← acceptWords ["PARTITION", "BY"] then do
      let keys ← sepByComma g.expr
      pure (text "PARTITION BY " :: exprs keys)
    else pure []
  let order ← g.orderBy?
  if ← acceptMark ")" then
    return parens (spacedPhrases [base, partition, order])
  else
    let frame ← g.windowFrame
    expectMark ")"
    return parens (spacedPhrases [base, partition, order, frame])

/-- The definition of a named window. -/
def Grammar.namedWindow (g : Grammar) : Parser (List Piece) := do
  let name ← identifier
  expectWord "AS"
  if ← acceptMark "(" then
    let window ← g.windowInside
    return text (name.render ++ " AS ") :: window
  else if g.dialect.windowsByName then
    let other ← identifier
    return [text (name.render ++ " AS " ++ other.render)]
  else expected "("

end RowShape.Sql
