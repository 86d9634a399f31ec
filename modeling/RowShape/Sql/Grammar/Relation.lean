import RowShape.Sql.Grammar.Operator
import RowShape.Sql.Grammar.Relation.Document
import RowShape.Sql.Grammar.Relation.Pivot
import RowShape.Sql.Grammar.Relation.Join

/-!
# Relations

The parts of a `FROM` clause.  Row patterns behind a table (`MATCH_RECOGNIZE`) are not read.

## Main definitions

* `Grammar.namedTable`: a table, or a function that returns one.
* `Grammar.inParentheses`: a derived table, or joined tables.
* `Grammar.anyRelation`: all relations.
-/

namespace RowShape.Sql

open RowShape.Sql.Parser Piece

/-! ### Named tables -/

/-- The version of a table. -/
private def Grammar.version? (g : Grammar) : Parser (List Piece) := do
  if !g.dialect.tableVersions then return []
  else if ← acceptWords ["FOR", "SYSTEM_TIME", "AS", "OF"] then
    let e ← g.expr
    return [text " FOR SYSTEM_TIME AS OF ", .expr e]
  else if ["AT", "BEFORE"].contains (← peek).token.keyword then
    let name ← qualifiedName g.dialect
    let e ← g.call name
    return [text " ", .expr e]
  else return []

/-- Settings of a query, with the keyword before them. -/
def Grammar.settings? (g : Grammar) : Parser (List Piece) := do
  if ← provided g.dialect.columnStoreClauses (acceptWord "SETTINGS") then
    let items ← sepByComma do
      let key ← identifier
      expectMark "="
      let e ← g.expr
      return [text (key.render ++ " = "), .expr e]
    return text "SETTINGS " :: commas items
  else return []

/-- The arguments of a function that returns a table, after the opening parenthesis. -/
private def Grammar.tableArguments (g : Grammar) : Parser (List Piece) := do
  if ← acceptMark ")" then return [text "()"]
  let (found, _) ← iterate (fun (found, closed) => do
    if closed then return none
    let settings ← g.settings?
    if settings.isEmpty then
      let a ← g.argument
      let comma ← acceptMark ","
      return some (a :: found, !comma)
    else return some (settings :: found, true)) ([], false)
  expectMark ")"
  return parens (commas found.reverse)

/-- The seed of a sample, as text. -/
private def sampleSeed? (d : Dialect) : Parser String := do
  match ← acceptOneOf ["REPEATABLE", "SEED"] with
  | some k =>
    let v ← inParens (literal d)
    return " " ++ k ++ " (" ++ v.render ++ ")"
  | none => return ""

/-- The size of a sample. -/
private def Grammar.sampleSize (g : Grammar) : Parser (List Piece) := do
  let value ←
    match ← attempt g.expr with
    | some e => pure (Piece.expr e)
    | none => do
      let l ← advance
      match l.token with
      | .word i _ => pure (text i.value)
      | _ => failAt (← peek) (.malformed "Expecting number or byte length e.g. 100M")
  let unit ← acceptOneOf ["ROWS", "PERCENT"]
  return value :: optionalText (unit.map (" " ++ ·))

/-- A bucket that stands for a sample. -/
private def Grammar.sampleBucket (g : Grammar) : Parser (List Piece) := do
  let bucket ← literal g.dialect
  expectWords ["OUT", "OF"]
  let total ← literal g.dialect
  let on ← g.exprAfter? "ON"
  return text ("BUCKET " ++ bucket.render ++ " OUT OF " ++ total.render) :: on

/-- The sample to take from a table. -/
private def Grammar.sample? (g : Grammar) : Parser (List Piece) := do
  match ← acceptOneOf ["TABLESAMPLE", "SAMPLE"] with
  | none => return []
  | some k =>
    let method ← acceptOneOf ["BERNOULLI", "ROW", "SYSTEM", "BLOCK"]
    let enclosed ← acceptMark "("
    let bucket ← if enclosed then acceptWord "BUCKET" else pure false
    let size ← if bucket then g.sampleBucket else g.sampleSize
    if enclosed then expectMark ")"
    let seed ← sampleSeed? g.dialect
    let offset ← g.exprAfter? "OFFSET"
    return text (" " ++ k ++ (method.map (" " ++ ·)).getD "" ++ " ") ::
      (if enclosed then parens size else size) ++ text seed :: offset

/-- Hints on how to read a table. -/
private def Grammar.hints? (g : Grammar) : Parser (List Piece) := do
  let s ← get
  if ← acceptWord "WITH" then
    if ← acceptMark "(" then
      let es ← sepByComma g.expr
      expectMark ")"
      return text " WITH (" :: exprs es ++ [text ")"]
    else
      set s
      return []
  else return []

/-- A table, or a function that returns one. -/
def Grammar.namedTable (g : Grammar) : Parser Relation := do
  let d := g.dialect
  let name ← qualifiedName d
  let partitions ←
    if ← provided d.tablePartitions (acceptWord "PARTITION") then do
      let names ← inParens (sepByComma identifier)
      pure [text (" PARTITION (" ++ ", ".intercalate (names.map Ident.render) ++ ")")]
    else pure []
  let version ← g.version?
  let arguments ← if ← acceptMark "(" then g.tableArguments else pure []
  let ordinality ← acceptWords ["WITH", "ORDINALITY"]
  let aliased ← tableAlias? d
  let hints ← g.hints?
  let sample ← g.sample?
  let counted := if ordinality then [text " WITH ORDINALITY"] else []
  g.pivoted (.table name (partitions ++ arguments ++ counted) aliased (hints ++ version ++ sample))

/-! ### Relations without a name -/

/-- A query in parentheses, after the first of them. -/
private def Grammar.derivedTable (g : Grammar) (lead : String) : Parser Relation := do
  let q ← g.query
  expectMark ")"
  return .derived [text (lead ++ "("), .query q, text ")"] (← tableAlias? g.dialect)

/-- A relation with a second alias, which is only allowed where it has no other. -/
private def withOuterAlias (outer : TableAlias) : Relation → Parser Relation
  | .table name details none hints => return .table name details (some outer) hints
  | .nested tables none => return .nested tables (some outer)
  | .derived pieces none => return .derived pieces (some outer)
  | .table _ _ (some inner) _ | .nested _ (some inner) | .derived _ (some inner) =>
    throw (.nowhere (.duplicateAlias inner.render))

/-- A derived table, or joined tables in parentheses, after the first of them. -/
private def Grammar.inParentheses (g : Grammar) : Parser Relation := do
  match ← attempt (g.derivedTable "") with
  | some r => g.pivoted r
  | none =>
    match ← g.joined with
    | .mk (.nested t a) [] =>
      expectMark ")"
      return .nested (.mk (.nested t a) []) (← tableAlias? g.dialect)
    | .mk r [] =>
      if g.dialect.looseParentheses then
        expectMark ")"
        match ← tableAlias? g.dialect with
        | some outer => withOuterAlias outer r
        | none => return r
      else expected "joined table"
    | t =>
      expectMark ")"
      return .nested t (← tableAlias? g.dialect)

/-- What follows `LATERAL`: a query, or a function that returns a table. -/
private def Grammar.lateral (g : Grammar) : Parser Relation := do
  if ← acceptMark "(" then g.derivedTable "LATERAL "
  else
    let name ← qualifiedName g.dialect
    expectMark "("
    let arguments ← sepByCommaUntil ")" g.argument
    expectMark ")"
    return .derived (text ("LATERAL " ++ name.render ++ "(") :: commas arguments ++ [text ")"])
      (← tableAlias? g.dialect)

/-- Rows of values, after their keyword. -/
def Grammar.rows (g : Grammar) (keyword : String) : Parser (List Piece) := do
  let found ← sepByComma do
    let row ← acceptWord "ROW"
    let es ← inParens (sepByComma g.expr)
    return (row, parens (exprs es))
  let lead : List Piece := if found.any Prod.fst then [text "ROW"] else []
  return text (keyword ++ " ") :: commas (found.map fun (_, row) => lead ++ row)

/-- The members of arrays as a table. -/
private def Grammar.arrayMembers (g : Grammar) : Parser Relation := do
  let es ← inParens (sepByComma g.expr)
  let ordinality ← acceptWords ["WITH", "ORDINALITY"]
  let aliased ← tableAlias? g.dialect
  let offset ← do if ← acceptWord "WITH" then acceptWord "OFFSET" else pure false
  let members := text "UNNEST(" :: exprs es ++
    [text (")" ++ if ordinality then " WITH ORDINALITY" else "")]
  if offset then
    let name ← columnAlias? g.dialect
    let tail := " WITH OFFSET" ++ (name.map fun i => " AS " ++ i.render).getD ""
    return .derived (members ++ [text (renderAlias aliased ++ tail)]) none
  else return .derived members aliased

/-! ### All relations -/

/-- A relation. -/
def Grammar.anyRelation (g : Grammar) : Parser Relation := do
  let d := g.dialect
  let k := (← peek).token.keyword
  let opens := (← peekAt 1).token == .mark "("
  if ← acceptWord "LATERAL" then g.lateral
  else if ← acceptWord "TABLE" then
    let e ← inParens g.expr
    return .derived [text "TABLE(", .expr e, text ")"] (← tableAlias? d)
  else if ← acceptMark "(" then g.inParentheses
  else if d.looseParentheses && k == "VALUES" && opens then
    expectWord "VALUES"
    let rows ← g.rows "VALUES"
    return .derived (parens rows) (← tableAlias? d)
  else if d.unnestTables && k == "UNNEST" then
    expectWord "UNNEST"
    g.arrayMembers
  else if opens && ["JSON_TABLE", "OPENJSON", "XMLTABLE"].contains k then
    expectWord k
    let pieces ← g.documentTable k
    return .derived pieces (← tableAlias? d)
  else g.namedTable

end RowShape.Sql
