import RowShape.Sql.Grammar.Form

/-!
# Operands

An operand is an expression without infix operators: a value, a name, a call, a form that a keyword
announces, an operator in front of another operand, or anything in parentheses.

## Main definitions

* `Grammar.typedLiteral`: a literal with the name of its type in front.
* `Grammar.wordOperand`: what a word begins.
* `Grammar.anyOperand`: all operands.
-/

namespace RowShape.Sql

open RowShape.Sql.Parser Piece

/-! ### Typed literals -/

/-- A literal with the name of its type in front, such as `DATE '2020-02-29'`. -/
def Grammar.typedLiteral (g : Grammar) : Parser Expr := do
  let l ← peek
  let type ← typeName g.dialect
  match type.kind with
  | .interval => g.interval
  | .custom => unexpected "a known type" l
  | .known =>
    let v ← literal g.dialect
    return .phrase [text (type.text ++ " " ++ v.render)]

/-! ### Words -/

/-- `(+)` comes next and marks a side of a join. -/
def peekOptionalSide (d : Dialect) : Parser Bool := fun s =>
  .ok (d.outerJoinMark && (s.take 3).map Lexeme.token == [.mark "(", .mark "+", .mark ")"], s)

/-- A word that announces no form: a call, a literal with an introducer, or a name. -/
def Grammar.plainWord (g : Grammar) (name : Ident) : Parser Expr := do
  let optional ← peekOptionalSide g.dialect
  let l ← peek
  match l.token with
  | .mark "(" => if optional then return .ident name else g.call (.single name)
  | .literal v =>
    let introduced := match v with
      | .text _ | .doubleQuoted _ | .hex _ => name.value.startsWith "_"
      | _ => false
    if introduced then
      let _ ← advance
      return .phrase [text (name.render ++ " "), .expr (.literal v)]
    else return .ident name
  | _ => return .ident name

/-- The collation after an operand, if there is one. -/
def collated? (d : Dialect) (e : Expr) : Parser Expr := do
  match ← after? "COLLATE" (qualifiedName d) with
  | some n => return .phrase [.expr e, text (" COLLATE " ++ n.render)]
  | none => return e

/-- What a word begins.  A word whose form cannot be read is a plain word, unless it is reserved;
where it is neither, the form's error counts. -/
def Grammar.wordOperand (g : Grammar) (name : Ident) (keyword : String) : Parser Expr := do
  match ← caught (g.form? name keyword) with
  | .ok (some e) => collated? g.dialect e
  | .ok none => collated? g.dialect (← g.plainWord name)
  | .error fault =>
    if g.dialect.reservedAsIdent keyword then throw fault
    else match ← caught (g.plainWord name) with
      | .ok e => return e
      | .error _ => throw fault

/-! ### Operators in front -/

/-- The binding strength of an operand behind an operator, if the mark is such an operator, and
whether a space separates them when they are printed. -/
def frontOperator? (d : Dialect) (mark : String) : Option (Binding × Bool) :=
  if ["-", "+"].contains mark then some (.times, false)
  else if mark == "~" then some (.plus, false)
  else if d.shapeOperators && ["!!", "|/", "||/", "@"].contains mark then some (.plus, false)
  else if d.shapeOperators && ["#", "@-@", "@@", "?-", "?|"].contains mark then some (.plus, true)
  else none

/-! ### Parentheses and braces -/

/-- What stands in parentheses, after the first of them. -/
def Grammar.parenthesised (g : Grammar) : Parser Expr := do
  let k := (← peek).token.keyword
  if ["SELECT", "WITH"].contains k then
    let q ← g.query
    expectMark ")"
    return .scalar q
  else
    let es ← sepByComma g.expr
    expectMark ")"
    return .phrase (text "(" :: exprs es ++ [text ")"])

/-- A date or time in braces, after the first of them. -/
def bracedLiteral (d : Dialect) : Parser Expr := do
  let l ← advance
  let kind := l.token.render
  unless ["t", "d", "ts"].contains kind do
    unexpected "ODBC datetime keyword (t, d, or ts)" l
  let v ← literal d
  return .phrase [text ("\x7b" ++ kind ++ " " ++ v.render ++ "\x7d")]

/-- What stands in braces, after the first of them, which is `opening`. -/
def Grammar.braced (g : Grammar) (opening : Lexeme) : Parser Expr := do
  let s ← get
  let call ← attempt do
    expectWord "FN"
    let name ← qualifiedName g.dialect
    g.call name
  match call with
  | some e =>
    expectMark "\x7d"
    return e
  | none =>
    match ← attempt (bracedLiteral g.dialect) with
    | some e =>
      expectMark "\x7d"
      return e
    | none =>
      if g.dialect.compositeLiterals then
        set (opening :: s)
        g.dictionary
      else unexpected "an expression" opening

/-! ### All operands -/

/-- An operand that begins with a given token, which is already taken. -/
def Grammar.operandFrom (g : Grammar) (l : Lexeme) : Parser Expr := do
  match l.token with
  | .word name keyword => g.wordOperand name keyword
  | .literal v => collated? g.dialect (.literal v)
  | .mark m =>
    match frontOperator? g.dialect m with
    | some (b, space) =>
      let e ← g.operandOf b
      collated? g.dialect (.phrase [text (if space then m ++ " " else m), .expr e])
    | none =>
      if m == "[" then collated? g.dialect (← g.array "")
      else if m == "(" then collated? g.dialect (← g.parenthesised)
      else if m == ":" || m == "@" then
        collated? g.dialect (.literal (← parameterAfter m))
      else if m == "\x7b" then collated? g.dialect (← g.braced l)
      else unexpected "an expression" l
  | _ => unexpected "an expression" l

/-- An operand. -/
def Grammar.anyOperand (g : Grammar) : Parser Expr := do
  match ← attempt g.typedLiteral with
  | some e => return e
  | none => g.operandFrom (← advance)

end RowShape.Sql
