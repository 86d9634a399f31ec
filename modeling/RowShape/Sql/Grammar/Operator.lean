import RowShape.Sql.Grammar.Access

/-!
# Operators

Expressions are operands with operators between or behind them.  An expression that is itself an
operand ends before an operator that binds no stronger than the one it belongs to.

## Main definitions

* `nextStrength`: how strongly the next token binds as an operator.
* `Grammar.afterOperator`: what an operator makes of the operand before it.
* `Grammar.expression`: an expression.
-/

namespace RowShape.Sql

open RowShape.Sql.Parser Piece

/-! ### Binding strength of the next token -/

/-- The bindings of marks that compare. -/
private def comparisons : List String :=
  [":=", "=", "<", "<=", "<>", ">", ">=", "==", "~", "~*", "!~", "!~*", "~~", "~~*", "!~~",
    "!~~*", "<=>"]

/-- Marks for operators on shapes. -/
private def shapeOperations : List String :=
  ["?-", "##", "&<", "&>", "?-|", "&<|", "|&>", "<->", "<^", ">^", "?#", "?||", "~=", "<<|",
    "|>>"]

/-- Marks for operators on documents. -/
private def documentOperations : List String :=
  ["->", "->>", "#>", "#>>", "@>", "<@", "#-", "@?", "@@", "?", "?&", "?|"]

/-- The strength of a mark. -/
private def markStrength (d : Dialect) (mark : String) : Nat :=
  let postgres := d == .postgres
  if mark == "." then d.strength .period
  else if comparisons.contains mark then d.strength .equal
  else if documentOperations.contains mark then d.strength .other
  else if mark == "|" || mark == "@" || shapeOperations.contains mark then d.strength .pipe
  else if mark == "&&" then d.strength (if postgres then .other else .pipe)
  else if ["#", "<<", ">>"].contains mark then d.strength (if postgres then .other else .caret)
  else if mark == "^" then d.strength .caret
  else if mark == "&" then d.strength .ampersand
  else if ["+", "-"].contains mark then d.strength .plus
  else if ["*", "/", "//", "%"].contains mark then d.strength .times
  else if mark == "||" then d.strength (if postgres then .other else .times)
  else if mark == "::" then d.strength .doubleColon
  else if mark == "[" then if postgres then 130 else d.strength .doubleColon
  else if ["!", "^@"].contains mark then d.strength (if postgres then .other else .doubleColon)
  else 0

/-- Words that test a value against a pattern. -/
private def likeWords : List String :=
  ["LIKE", "ILIKE", "RLIKE", "REGEXP", "MATCH", "SIMILAR", "MEMBER"]

/-- The strength of a keyword, given the two keywords after it. -/
private def wordStrength (d : Dialect) (word second third : String) : Nat :=
  if word == "OR" then d.strength .disjunction
  else if word == "AND" then d.strength .conjunction
  else if word == "XOR" then d.strength .xor
  else if word == "AT" then
    if second == "TIME" && third == "ZONE" then d.strength .timeZone else 0
  else if word == "NOT" then
    if ["IN", "BETWEEN"].contains second then d.strength .between
    else if likeWords.contains second then d.strength .like
    else if second == "NULL" then d.strength .test
    else 0
  else if word == "IS" then d.strength .test
  else if word == "NOTNULL" && d.postfixTests then d.strength .test
  else if ["IN", "BETWEEN", "OVERLAPS", "OPERATOR"].contains word then d.strength .between
  else if likeWords.contains word then d.strength .like
  else if word == "DIV" then d.strength .times
  else if word == "COLLATE" && d == .postgres then d.strength .collate
  else 0

/-- How strongly the next token binds as an operator; 0 if it is none. -/
def nextStrength (d : Dialect) : Parser Nat := do
  let l ← peek
  let l' ← peekAt 1
  let l'' ← peekAt 2
  match l.token with
  | .word _ k => return wordStrength d k l'.token.keyword l''.token.keyword
  | .mark ":" =>
    let ofMap := match l'.token with
      | .literal (.text _) | .literal (.number ..) => true
      | _ => false
    return if d.colonPaths && !ofMap then d.strength .pipe else 0
  | .mark m => return markStrength d m
  | .operator _ => return d.strength .other
  | _ => return 0

/-! ### Operators between operands -/

/-- Marks that are operators between operands in every dialect. -/
private def commonOperators : List String :=
  comparisons ++ ["+", "-", "*", "%", "||", "|", "^", "&", "/"] ++ documentOperations

/-- The printed form of a token that is an operator between operands; none if it is no such
operator. -/
def betweenOperator? (d : Dialect) (t : Token) : Option String :=
  match t with
  | .mark m =>
    if m == "==" then some "="
    else if commonOperators.contains m then some m
    else if m == "//" && d.integerDivision then some m
    else if ["<<", ">>"].contains m && d.bitShifts then some m
    else if m == "#" && d == .postgres then some m
    else if ["&&", "^@"].contains m && d.namedOperators then some m
    else if d.shapeOperators && (m == "@" || shapeOperations.contains m) then some m
    else none
  | .operator o => some o
  | .word _ k => if ["AND", "OR", "XOR", "OVERLAPS"].contains k then some k else none
  | _ => none

/-- The name of an operator after `OPERATOR`, as text. -/
def operatorName : Parser String := do
  expectMark "("
  let first ← advance
  let more ← many do
    if ← acceptMark "." then
      let l ← advance
      return some l.token.render
    else return none
  expectMark ")"
  return "OPERATOR(" ++ ".".intercalate (first.token.render :: more) ++ ")"

/-- Operators that compare with `ANY` or `ALL` of some values. -/
private def quantified : List String :=
  [">", "<", ">=", "<=", "=", "<>", "~", "~*", "!~", "!~*", "~~", "~~*", "!~~", "!~~*"]

/-- The right side of an operator that is already taken. -/
def Grammar.rightSide (g : Grammar) (left : Expr) (strength : Nat) (operator : String)
    (sign : Lexeme) : Parser Expr := do
  match ← acceptOneOf ["ANY", "ALL", "SOME"] with
  | none =>
    let right ← g.exprAbove strength
    return .binary left operator right
  | some quantifier =>
    unless ← peekMark "(" do expected "("
    let k := (← peekAt 1).token.keyword
    let query := ["SELECT", "WITH"].contains k
    let right ←
      if query then g.exprAbove strength
      else inParens (g.exprAbove strength)
    unless quantified.contains operator do failAt sign (.noComparison operator)
    let lead := " " ++ operator ++ " " ++ quantifier
    let value : List Piece := if query then [.expr right] else [text "(", .expr right, text ")"]
    return .phrase (.expr left :: text lead :: value)

/-! ### Tests -/

/-- What may follow `IS` without an operand. -/
private def plainTests : List (List String) :=
  [["NULL"], ["NOT", "NULL"], ["TRUE"], ["NOT", "TRUE"], ["FALSE"], ["NOT", "FALSE"],
    ["UNKNOWN"], ["NOT", "UNKNOWN"]]

/-- A test after `IS`. -/
def Grammar.test (g : Grammar) (e : Expr) : Parser Expr := do
  match ← plainTests.findM? fun words => acceptWords words with
  | some words => return .phrase [.expr e, text (" IS " ++ " ".intercalate words)]
  | none =>
    let same ← acceptWords ["DISTINCT", "FROM"]
    let differs ← if same then pure false else acceptWords ["NOT", "DISTINCT", "FROM"]
    if same || differs then
      let other ← g.expr
      let link := if same then " IS DISTINCT FROM " else " IS NOT DISTINCT FROM "
      return .phrase [.expr e, text link, .expr other]
    else
      let negated ← acceptWord "NOT"
      let form ← acceptOneOf ["NFC", "NFD", "NFKC", "NFKD"]
      if ← acceptWord "NORMALIZED" then
        return .phrase [.expr e, text (" IS " ++ (if negated then "NOT " else "") ++
          (form.map (· ++ " ")).getD "" ++ "NORMALIZED")]
      else expected "[NOT] NULL | TRUE | FALSE | DISTINCT | [form] NORMALIZED FROM after IS"

/-- What follows `IN`. -/
def Grammar.membership (g : Grammar) (before : List Piece) : Parser Expr := do
  if ← acceptWord "UNNEST" then
    let e ← inParens g.expr
    return .phrase (before ++ [text "IN UNNEST(", .expr e, text ")"])
  else
    expectMark "("
    let inside : List Piece ←
      match ← attempt g.query with
      | some q => pure [.query q]
      | none => do
        let es ← sepByComma g.expr
        pure (exprs es)
    expectMark ")"
    return .phrase (before ++ text "IN (" :: inside ++ [text ")"])

/-- The pattern of a test and its escape character. -/
def Grammar.pattern (g : Grammar) : Parser (List Piece) := do
  let p ← g.operandOf .like
  match ← after? "ESCAPE" (literal g.dialect) with
  | some v => return [.expr p, text (" ESCAPE " ++ v.render)]
  | none => return [.expr p]

/-- Tests that may be negated: `IN`, `BETWEEN` and patterns. -/
def Grammar.negatable (g : Grammar) (e : Expr) : Parser Expr := do
  let negated ← acceptWord "NOT"
  let before : List Piece := [.expr e, text (if negated then " NOT " else " ")]
  let regexp ← acceptWord "REGEXP"
  let rlike ← acceptWord "RLIKE"
  let null ← acceptWord "NULL"
  if regexp || rlike then
    let p ← g.operandOf .like
    return .phrase (before ++ [text (if regexp then "REGEXP " else "RLIKE "), .expr p])
  else if negated && null then return .phrase [.expr e, text " IS NOT NULL"]
  else if ← acceptWord "IN" then g.membership before
  else if ← acceptWord "BETWEEN" then
    let low ← g.operandOf .between
    expectWord "AND"
    let high ← g.operandOf .between
    return .phrase (before ++ [text "BETWEEN ", .expr low, text " AND ", .expr high])
  else
    match ← acceptOneOf ["LIKE", "ILIKE"] with
    | some word =>
      let any ← acceptWord "ANY"
      let p ← g.pattern
      return .phrase (before ++ text (word ++ (if any then " ANY " else " ")) :: p)
    | none =>
      if ← acceptWords ["SIMILAR", "TO"] then
        let p ← g.pattern
        return .phrase (before ++ text "SIMILAR TO " :: p)
      else expected "IN or BETWEEN after NOT"

/-! ### Paths into documents -/

/-- A name in a path, with the mark before it. -/
private def pathName (mark : String) : Parser (List Piece) := do
  let l ← advance
  match l.token with
  | .word i _ =>
    match i.quote with
    | none => return [text (mark ++ i.value)]
    | some '"' => return [text (mark ++ quoted '"' i.value)]
    | some _ => unexpected "variant object key name" l
  | .literal (.doubleQuoted s) => return [text (mark ++ quoted '"' s)]
  | _ => unexpected "variant object key name" l

/-- A path into a document. -/
def Grammar.documentPath (g : Grammar) (e : Expr) : Parser Expr := do
  expectMark ":"
  let first ← pathName ":"
  let more ← many do
    if ← acceptMark "." then
      return some (← pathName ".")
    else if ← acceptMark "[" then
      let key ← g.expr
      expectMark "]"
      return some [text "[", .expr key, text "]"]
    else return none
  return .phrase (.expr e :: first ++ more.flatten)

/-! ### Expressions -/

/-- What the next operator, which binds with a given strength, makes of the operand before it. -/
def Grammar.afterOperator (g : Grammar) (left : Expr) (strength : Nat) : Parser Expr := do
  let d := g.dialect
  let s ← get
  let l ← advance
  match betweenOperator? d l.token with
  | some operator => g.rightSide left strength operator l
  | none =>
    match l.token with
    | .word _ k =>
      if k == "OPERATOR" && d.namedOperators then
        let operator ← operatorName
        g.rightSide left strength operator l
      else if k == "IS" then g.test left
      else if k == "AT" then
        expectWords ["TIME", "ZONE"]
        let zone ← g.exprAbove strength
        return .phrase [.expr left, text " AT TIME ZONE ", .expr zone]
      else if ["NOT", "IN", "BETWEEN", "LIKE", "ILIKE", "SIMILAR", "REGEXP", "RLIKE"].contains
          k then
        set s
        g.negatable left
      else if k == "NOTNULL" && d.postfixTests then
        return .phrase [.expr left, text " IS NOT NULL"]
      else if k == "MEMBER" then
        unless ← acceptWord "OF" do expected "OF after MEMBER"
        let array ← inParens g.expr
        return .phrase [.expr left, text " MEMBER OF(", .expr array, text ")"]
      else failAt l (.noInfix l.token)
    | .mark "::" =>
      let type ← typeName d
      return .phrase [.expr left, text ("::" ++ type.text)]
    | .mark "!" =>
      if d.postfixTests then return .phrase [.expr left, text "!"]
      else failAt l (.noInfix l.token)
    | .mark ":" =>
      if d.colonPaths then
        set s
        g.documentPath left
      else failAt l (.noInfix l.token)
    | _ => failAt l (.noInfix l.token)

/-- An expression that ends before any operator that binds no stronger than `above`. -/
def Grammar.expression (g : Grammar) (above : Nat) : Parser Expr := do
  let first ← g.accessed
  iterate (fun left => do
    let strength ← nextStrength g.dialect
    let period ← peekMark "."
    if strength ≤ above || period then return none
    else
      let e ← g.afterOperator left strength
      return some e) first

end RowShape.Sql
