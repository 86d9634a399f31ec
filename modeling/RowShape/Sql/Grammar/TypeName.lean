import RowShape.Sql.Grammar.Name

/-!
# Names of types

Types as they appear after `AS` in a cast, after `::`, before a quoted literal and in declarations.

## Main definitions

* `TypeKind`, `TypeName`: a type by its wording, and whether it is a known one.
* `Parser.typeName`: the parser.
-/

namespace RowShape.Sql

/-- How far a type is known. -/
inductive TypeKind where
  /-- A type of the standard or of a common dialect. -/
  | known
  /-- The type `INTERVAL`. -/
  | interval
  /-- Any other name. -/
  | custom
  deriving DecidableEq

/-- The name of a type. -/
structure TypeName where
  /-- The wording. -/
  text : String
  /-- How far it is known. -/
  kind : TypeKind

namespace Parser

/-! ### Arguments of types -/

/-- An optional count in parentheses, as text. -/
def precision? : Parser String := do
  if ← acceptMark "(" then
    let n ← count
    expectMark ")"
    return "(" ++ n ++ ")"
  else return ""

/-- An optional count and scale in parentheses, as text. -/
def precisionScale? : Parser String := do
  if ← acceptMark "(" then
    let n ← count
    let scale ← if ← acceptMark "," then do
        let m ← count
        pure ("," ++ m)
      else pure ""
    expectMark ")"
    return "(" ++ n ++ scale ++ ")"
  else return ""

/-- An optional length of text in parentheses, perhaps `MAX`. -/
def textLength? : Parser String := do
  if ← acceptMark "(" then
    let length ← if ← acceptWord "MAX" then pure "MAX" else do
      let n ← count
      match ← acceptOneOf ["CHARACTERS", "OCTETS"] with
      | some unit => pure (n ++ " " ++ unit)
      | none => pure n
    expectMark ")"
    return "(" ++ length ++ ")"
  else return ""

/-- An optional time zone, as text. -/
def timeZone? : Parser String := do
  if ← acceptWord "WITH" then
    expectWords ["TIME", "ZONE"]
    return " WITH TIME ZONE"
  else if ← acceptWord "WITHOUT" then
    expectWords ["TIME", "ZONE"]
    return " WITHOUT TIME ZONE"
  else return ""

/-- Arguments of a type of the user's own, as text. -/
def typeArguments? : Parser String := do
  if ← acceptMark "(" then
    let found ← iterate (fun (found, closed) => do
      if closed then return none
      let l ← advance
      match l.token with
      | .word i _ => return some (Ident.render i :: found, false)
      | .literal (.number digits _) => return some (digits :: found, false)
      | .literal (.text s) => return some (s :: found, false)
      | .mark "," => return some (found, false)
      | .mark ")" => return some (found, true)
      | _ => unexpected "type modifiers" l) (([] : List String), false)
    return "(" ++ ", ".intercalate found.1.reverse ++ ")"
  else return ""

/-! ### Types -/

/-- Known types without arguments. -/
private def plainTypes : List String :=
  ["BOOLEAN", "BOOL", "REAL", "FLOAT4", "FLOAT8", "FLOAT32", "FLOAT64", "INT16", "INT32", "INT64",
    "INT128", "INT256", "UINT8", "UINT16", "UINT32", "UINT64", "UINT128", "UINT256", "UUID",
    "DATE", "DATE32", "JSON", "JSONB", "REGCLASS", "TEXT", "TINYTEXT", "MEDIUMTEXT", "LONGTEXT",
    "TINYBLOB", "MEDIUMBLOB", "LONGBLOB", "BYTEA", "TRIGGER", "HUGEINT", "UBIGINT", "UHUGEINT",
    "USMALLINT", "UTINYINT", "SIGNED", "UNSIGNED"]

/-- Known types with an optional count. -/
private def countedTypes : List String :=
  ["TINYINT", "SMALLINT", "MEDIUMINT", "INT", "INT2", "INT4", "INT8", "INTEGER", "BIGINT"]

/-- Known types with an optional count that is never followed by a sign. -/
private def sizedTypes : List String := ["DATETIME", "CLOB", "BLOB", "BINARY", "BYTES", "STRING"]

/-- Known types with an optional length of text. -/
private def textTypes : List String := ["VARCHAR", "NVARCHAR", "VARBINARY"]

/-- Known types with an optional count and scale. -/
private def decimalTypes : List String :=
  ["NUMERIC", "DECIMAL", "DEC", "BIGNUMERIC", "BIGDECIMAL", "FLOAT"]

/-- Types of shapes. -/
private def shapeTypes : List String :=
  ["POINT", "LINE", "LSEG", "BOX", "PATH", "POLYGON", "CIRCLE"]

/-- The fields of an interval. -/
private def intervalFields : List String := ["YEAR", "MONTH", "DAY", "HOUR", "MINUTE", "SECOND"]

/-- Optional fields and precision of an interval, as text. -/
def intervalDetails? (d : Dialect) : Parser String := do
  if d == .msSql then return ""
  match ← acceptOneOf intervalFields with
  | some first =>
    let last ← if ← acceptWord "TO" then do
        let field ← expectOneOf intervalFields
        pure (" TO " ++ field)
      else pure ""
    let precision ← precision?
    return " " ++ first ++ last ++ (if precision.isEmpty then "" else " " ++ precision)
  | none =>
    let precision ← precision?
    return if precision.isEmpty then "" else " " ++ precision

/-- The type that a keyword begins, if it begins a known one; the keyword is already taken. -/
def knownType? (d : Dialect) (inner : Parser TypeName) (k : String) :
    Parser (Option TypeName) := do
  let known (p : Parser String) : Parser (Option TypeName) := do
    let arguments ← p
    return some ⟨k ++ arguments, .known⟩
  if plainTypes.contains k then known (pure "")
  else if countedTypes.contains k then known do
    let length ← precision?
    let sign ← acceptOneOf ["UNSIGNED"]
    pure (length ++ (sign.map (" " ++ ·)).getD "")
  else if sizedTypes.contains k then known precision?
  else if textTypes.contains k then known textLength?
  else if decimalTypes.contains k then known precisionScale?
  else if k == "DOUBLE" then
    if ← acceptWord "PRECISION" then known (pure " PRECISION") else known precisionScale?
  else if k == "CHARACTER" || k == "CHAR" then
    if ← acceptWord "VARYING" then known do pure (" VARYING" ++ (← textLength?))
    else if ← acceptWords ["LARGE", "OBJECT"] then known do pure (" LARGE OBJECT" ++ (← precision?))
    else known textLength?
  else if k == "BIT" then
    if ← acceptWord "VARYING" then known do pure (" VARYING" ++ (← precision?))
    else known precision?
  else if k == "VARBIT" then known precision?
  else if k == "TIME" || k == "TIMESTAMP" then known do
    let length ← precision?
    let zone ← timeZone?
    pure (length ++ zone)
  else if k == "TIMETZ" || k == "TIMESTAMPTZ" then known precision?
  else if k == "TIMESTAMP_NTZ" then known (pure "")
  else if k == "INTERVAL" then
    let details ← intervalDetails? d
    return some ⟨k ++ details, .interval⟩
  else if k == "ENUM" || k == "SET" then known do
    let values ← inParens (sepByComma quotedText)
    pure ("(" ++ ", ".intercalate (values.map (quoted '\'')) ++ ")")
  else if k == "ARRAY" then
    expectMark "<"
    let element ← inner
    expectMark ">"
    return some ⟨"ARRAY<" ++ element.text ++ ">", .known⟩
  else if d.shapeOperators && shapeTypes.contains k then known (pure "")
  else if (k == "TSVECTOR" || k == "TSQUERY") && d != .msSql then known (pure "")
  else return none

/-- A type in which array types are nested at most `n` deep. -/
def typeNameWithin (d : Dialect) : Nat → Parser TypeName
  | 0 => expected "a data type name"
  | n + 1 => do
    let l ← peek
    match l.token with
    | .word _ k =>
      let s ← get
      let _ ← advance
      let base ← match ← knownType? d (typeNameWithin d n) k with
        | some t => pure t
        | none => do
          set s
          let name ← qualifiedName d
          let arguments ← typeArguments?
          pure ⟨name.render ++ arguments, .custom⟩
      if d.bracketArrayTypes then
        iterate (fun (t : TypeName) => do
          if ← acceptMark "[" then
            let size ← attempt count
            expectMark "]"
            return some ⟨t.text ++ "[" ++ size.getD "" ++ "]", .known⟩
          else return none) base
      else return base
    | _ =>
      let _ ← advance
      unexpected "a data type name" l

/-- The name of a type. -/
def typeName (d : Dialect) : Parser TypeName := fun s => typeNameWithin d (s.length + 1) s

/-- Names of columns, each perhaps with a type, in parentheses; none if there are no
parentheses. -/
def columnNames (d : Dialect) : Parser (List String) := do
  if ← acceptMark "(" then
    let names ← sepByComma do
      let i ← identifier
      let t ← attempt (typeName d)
      return i.render ++ (t.map (" " ++ ·.text)).getD ""
    expectMark ")"
    return names
  else return []

/-- The alias of a table. -/
def tableAlias? (d : Dialect) : Parser (Option TableAlias) := do
  match ← asOrAlias? Dialect.reservedAsTableAlias with
  | some name =>
    let columns ← columnNames d
    return some ⟨name, columns⟩
  | none => return none

end Parser

end RowShape.Sql
