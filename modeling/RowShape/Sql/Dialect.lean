import RowShape.Text.Letter

/-!
# Dialects

The dialects of SQL that can be read, and how they differ.

One feature is left out: the permissive dialect also knows row patterns, `MATCH_RECOGNIZE` behind a
table, and here they are a syntax error as in the other dialects.

## Main definitions

* `Dialect`: the three dialects.
* `Dialect.identStart`, `Dialect.identPart`, `Dialect.identQuotes`: how identifiers are written.
* `Binding` and `Dialect.strength`: the binding strengths of operators.
* `Dialect.reservedAsColumnAlias`, `Dialect.reservedAsTableAlias`: words that cannot be an alias,
  because they begin the next clause.
* `Dialect.reservedAsIdent`: words that are never read as a plain name when what they announce
  cannot be read.
* The remaining functions each answer whether a dialect has one feature of the grammar.
-/

namespace RowShape.Sql

/-- A dialect of SQL. -/
inductive Dialect where
  /-- SQL Server. -/
  | msSql
  /-- A permissive mixture of many dialects. -/
  | generic
  /-- PostgreSQL. -/
  | postgres
  deriving DecidableEq, Inhabited

namespace Dialect

/-! ### Characters -/

/-- A character that begins an unquoted word. -/
def identStart (d : Dialect) (c : Char) : Bool :=
  Text.isLetter c || c == '_' ||
    match d with
    | postgres => c.toNat ≥ 128
    | msSql | generic => c == '#' || c == '@'

/-- A character that continues an unquoted word. -/
def identPart (d : Dialect) (c : Char) : Bool :=
  Text.isLetter c || c.isDigit || c == '_' || c == '$' ||
    match d with
    | postgres => c.toNat ≥ 128
    | msSql | generic => c == '#' || c == '@'

/-- The characters that open a quoted identifier. -/
def identQuotes : Dialect → List Char
  | msSql => ['"', '[']
  | generic => ['"', '`']
  | postgres => ['"']

/-- A character that can extend an operator to one of the dialect's own making. -/
def operatorPart (d : Dialect) (c : Char) : Bool :=
  d == postgres && "+-*/<>=~!@#%^&|`?".contains c

/-! ### Literals -/

/-- `E'..'` is a string with backslash escapes. -/
def backslashStrings (d : Dialect) : Bool := d != msSql

/-- `U&'..'` is a string with Unicode escapes. -/
def unicodeStrings (d : Dialect) : Bool := d != msSql

/-- `B'..'` is a string of bytes or bits. -/
def byteStrings (d : Dialect) : Bool := d != msSql

/-- `R'..'` is a raw string. -/
def rawStrings (d : Dialect) : Bool := d == generic

/-- Digits may be grouped by underscores. -/
def digitGroups (d : Dialect) : Bool := d == postgres

/-- `TRUE` and `FALSE` are values; otherwise they are plain words. -/
def booleanLiterals (d : Dialect) : Bool := d != msSql

/-- `?`, `@` and other marks spell operators on shapes and documents. -/
def shapeOperators (d : Dialect) : Bool := d == postgres

/-! ### Expressions -/

/-- `CONVERT` takes the type before the value. -/
def convertsTypeFirst (d : Dialect) : Bool := d == msSql

/-- `TRY_CONVERT` is known. -/
def tryConvert (d : Dialect) : Bool := d != postgres

/-- A dictionary `{'k': v}`, a `MAP {..}` and a `STRUCT(..)` are values. -/
def compositeLiterals (d : Dialect) : Bool := d == generic

/-- `CURRENT_USER` and its like are functions without arguments. -/
def sessionFunctions (d : Dialect) : Bool := d != msSql

/-- A named argument may have any expression as its name; otherwise an identifier. -/
def argumentNamesAreExprs (d : Dialect) : Bool := d != generic

/-- `name => value` names an argument. -/
def arrowNamesArgument (d : Dialect) : Bool := d != msSql

/-- `name := value` names an argument. -/
def assignmentNamesArgument (d : Dialect) : Bool := d == generic

/-- `name : value` names an argument. -/
def colonNamesArgument (d : Dialect) : Bool := d != generic

/-- A function call may be filtered by `FILTER (WHERE ..)`. -/
def filteredCalls (d : Dialect) : Bool := d != msSql

/-- An argument list may have its own `HAVING`, `SEPARATOR` and treatment of nulls, and a call may
have two argument lists. -/
def richArguments (d : Dialect) : Bool := d == generic

/-- `value:path` reads a part of a document. -/
def colonPaths (d : Dialect) : Bool := d == generic

/-- `(+)` marks the optional side of a join. -/
def outerJoinMark (d : Dialect) : Bool := d == msSql

/-- `<<` and `>>` shift bits. -/
def bitShifts (d : Dialect) : Bool := d != msSql

/-- `//` divides integers. -/
def integerDivision (d : Dialect) : Bool := d == generic

/-- `OPERATOR(..)` and `^@` are infix operators. -/
def namedOperators (d : Dialect) : Bool := d != msSql

/-- `a NOTNULL` is a test, and `a!` the factorial. -/
def postfixTests (d : Dialect) : Bool := d == postgres

/-- Any word or string may name a field of a date. -/
def customDateFields (d : Dialect) : Bool := d != msSql

/-- `EXTRACT(field, value)` is allowed, and so is a day in `WEEK(..)`. -/
def dateFieldExtras (d : Dialect) : Bool := d == generic

/-- `TRIM(value, characters)` is allowed. -/
def trimsCharacters (d : Dialect) : Bool := d == generic

/-- `INTERVAL` is a plain word where no interval can be read. -/
def intervalIsReserved (d : Dialect) : Bool := d != postgres

/-- A type may be followed by brackets, which make it an array type. -/
def bracketArrayTypes (d : Dialect) : Bool := d != msSql

/-! ### Queries -/

/-- A projection may be empty. -/
def emptyProjections (d : Dialect) : Bool := d != msSql

/-- A query may begin with its `FROM` clause. -/
def fromFirst (d : Dialect) : Bool := d == generic

/-- `alias = value` in a projection names the value. -/
def equalsNamesColumn (d : Dialect) : Bool := d == msSql

/-- The last item of a projection may be followed by a comma. -/
def trailingCommas (d : Dialect) : Bool := d == generic

/-- A wildcard may be followed by exceptions, replacements and new names. -/
def wildcardOptions (d : Dialect) : Bool := d == generic

/-- `GROUP BY` knows `GROUPING SETS`, `CUBE` and `ROLLUP`. -/
def groupingForms (d : Dialect) : Bool := d != msSql

/-- Clauses of column stores: `PREWHERE`, `SETTINGS`, `FORMAT`, `LIMIT BY`, `WITH FILL`,
`LIMIT offset, count` and `GROUP BY .. WITH ROLLUP`. -/
def columnStoreClauses (d : Dialect) : Bool := d == generic

/-- `START WITH` and `CONNECT BY` walk hierarchies. -/
def hierarchicalQueries (d : Dialect) : Bool := d != postgres

/-- A common table expression may be marked `MATERIALIZED`. -/
def materializedTables (d : Dialect) : Bool := d == postgres

/-- A window may be defined as another name of a window. -/
def windowsByName (d : Dialect) : Bool := d == generic

/-! ### Tables -/

/-- `FOR SYSTEM_TIME AS OF` selects a version of a table. -/
def tableVersions (d : Dialect) : Bool := d == msSql

/-- `db..table` leaves out the middle part of a name. -/
def doubleDotNames (d : Dialect) : Bool := d == msSql

/-- A single table may stand in parentheses, and `VALUES` without them. -/
def looseParentheses (d : Dialect) : Bool := d == generic

/-- `PARTITION (..)` after a table selects partitions. -/
def tablePartitions (d : Dialect) : Bool := d == generic

/-- `UNNEST(..)` is a table of its own kind. -/
def unnestTables (d : Dialect) : Bool := d != msSql

end Dialect

/-! ### Binding strength -/

/-- The classes of operators that share a binding strength. -/
inductive Binding where
  | period
  | doubleColon
  | collate
  | timeZone
  | times
  | plus
  | xor
  | ampersand
  | caret
  | pipe
  | between
  | equal
  | like
  | test
  | other
  | negation
  | conjunction
  | disjunction
  deriving DecidableEq

/-- How strongly a class of operators binds; an operand ends before an operator that binds no
stronger than the one the operand belongs to. -/
def Dialect.strength (d : Dialect) (b : Binding) : Nat :=
  match d with
  | .postgres =>
    match b with
    | .period => 200
    | .doubleColon => 140
    | .collate => 120
    | .timeZone => 110
    | .caret => 100
    | .times => 90
    | .plus => 80
    | .xor => 75
    | .ampersand | .pipe | .other => 70
    | .between | .like => 60
    | .equal => 50
    | .test => 40
    | .negation => 30
    | .conjunction => 20
    | .disjunction => 10
  | .msSql | .generic =>
    match b with
    | .period => 100
    | .doubleColon => 50
    | .collate => 42
    | .timeZone => 41
    | .times => 40
    | .plus => 30
    | .xor => 24
    | .ampersand => 23
    | .caret => 22
    | .pipe => 21
    | .between | .equal => 20
    | .like => 19
    | .test => 17
    | .other => 16
    | .negation => 15
    | .conjunction => 10
    | .disjunction => 5

/-! ### Reserved words -/

/-- Words that begin a clause after a projection or a table alike. -/
private def clauseWords : List String :=
  ["WITH", "EXPLAIN", "ANALYZE", "SELECT", "WHERE", "GROUP", "SORT", "HAVING", "ORDER", "TOP",
    "LATERAL", "VIEW", "LIMIT", "OFFSET", "FETCH", "UNION", "EXCEPT", "INTERSECT", "MINUS",
    "CLUSTER", "DISTRIBUTE", "RETURNING", "END"]

/-- Words that only follow a projection. -/
private def afterProjection : List String := ["FROM", "INTO"]

/-- Words that only follow a table. -/
private def afterTable : List String :=
  ["PIVOT", "UNPIVOT", "ON", "JOIN", "INNER", "CROSS", "FULL", "LEFT", "RIGHT", "NATURAL",
    "USING", "GLOBAL", "ANTI", "SEMI", "ASOF", "MATCH_CONDITION", "OUTER", "SET", "QUALIFY",
    "WINDOW", "FOR", "PARTITION", "PREWHERE", "SETTINGS", "FORMAT", "START", "CONNECT",
    "MATCH_RECOGNIZE", "SAMPLE", "TABLESAMPLE", "FROM", "OPEN"]

namespace Dialect

/-- A keyword cannot be the alias of a column unless `AS` announces it. -/
def reservedAsColumnAlias (d : Dialect) (keyword : String) : Bool :=
  clauseWords.contains keyword || afterProjection.contains keyword ||
    (d == .msSql && ["IF", "ELSE"].contains keyword)

/-- A keyword cannot be the alias of a table unless `AS` announces it. -/
def reservedAsTableAlias (keyword : String) : Bool :=
  clauseWords.contains keyword || afterTable.contains keyword

/-- A keyword is not read as a plain name when what it announces cannot be read. -/
def reservedAsIdent (d : Dialect) (keyword : String) : Bool :=
  ["EXISTS", "STRUCT", "TRIM"].contains keyword || (d.intervalIsReserved && keyword == "INTERVAL")

end Dialect

end RowShape.Sql
