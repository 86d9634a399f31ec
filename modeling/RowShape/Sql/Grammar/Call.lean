import RowShape.Sql.Grammar.Nested

/-!
# Function calls

## Main definitions

* `Selected`, `Grammar.selected`: an expression, or a wildcard in its place.
* `Grammar.argumentList`: the arguments of a call and the clauses among them.
* `Grammar.call`: a call after the name of its function.
-/

namespace RowShape.Sql

open RowShape.Sql.Parser Piece

/-! ### Wildcards -/

/-- An expression, or a wildcard in its place. -/
inductive Selected where
  /-- `*`. -/
  | all
  /-- `name.*`. -/
  | allOf (name : QualifiedName)
  /-- An expression. -/
  | expr (e : Expr)

/-- What follows an identifier that a period follows: identifiers up to `.*`, or nothing if no
`.*` comes. -/
def qualifiedWildcard? (first : Ident) : Parser (Option QualifiedName) := do
  let (parts, wildcard) ← iterate (fun (parts, wildcard) => do
    if wildcard then return none
    else if ← acceptMark "." then
      let l ← advance
      match l.token with
      | .word i _ => return some (parts ++ [i], false)
      | .literal (.text s) => return some (parts ++ [⟨s, some '\''⟩], false)
      | .literal (.placeholder s) => return some (parts ++ [Ident.bare s], false)
      | .mark "*" => return some (parts, true)
      | _ => unexpected "an identifier or a '*' after '.'" l
    else return none) ([first], false)
  return if wildcard then some ⟨parts⟩ else none

/-- An expression, or a wildcard in its place. -/
def Grammar.selected (g : Grammar) : Parser Selected := do
  let s ← get
  let l ← advance
  if l.token == .mark "*" then return .all
  let first : Option Ident := match l.token with
    | .word i _ => some i
    | .literal (.text t) => some ⟨t, some '\''⟩
    | _ => none
  match first, ← peekMark "." with
  | some i, true =>
    match ← qualifiedWildcard? i with
    | some name => return .allOf name
    | none => set s
  | _, _ => set s
  return .expr (← g.expr)

/-- The pieces of an argument. -/
def Selected.pieces : Selected → List Piece
  | .all => [text "*"]
  | .allOf name => [text (name.render ++ ".*")]
  | .expr e => [Piece.expr e]

/-! ### Arguments -/

/-- The mark between the name of an argument and its value. -/
def argumentMark (d : Dialect) : Parser String := do
  if ← acceptWord "VALUE" then return "VALUE"
  let l ← advance
  match l.token with
  | .mark "=>" => if d.arrowNamesArgument then return "=>" else unexpected "argument operator" l
  | .mark ":=" =>
    if d.assignmentNamesArgument then return ":=" else unexpected "argument operator" l
  | .mark ":" => if d.colonNamesArgument then return ":" else unexpected "argument operator" l
  | _ => unexpected "argument operator" l

/-- An argument, perhaps with a name. -/
def Grammar.argument (g : Grammar) : Parser (List Piece) := do
  let named ← attempt do
    let name ←
      if g.dialect.argumentNamesAreExprs then do pure [Piece.expr (← g.expr)]
      else do pure [text (← identifier).render]
    let mark ← argumentMark g.dialect
    let value ← g.selected
    return name ++ text (" " ++ mark ++ " ") :: value.pieces
  match named with
  | some pieces => return pieces
  | none => return (← g.selected).pieces

/-- The treatment of nulls, as text. -/
def nullTreatment? : Parser (Option String) := do
  match ← acceptOneOf ["RESPECT", "IGNORE"] with
  | some k =>
    expectWord "NULLS"
    return some (k ++ " NULLS")
  | none => return none

/-- What becomes of null members of a document, as text. -/
def nullMembers? : Parser (List Piece) := do
  if ← acceptWords ["ABSENT", "ON", "NULL"] then return [text "ABSENT ON NULL"]
  else if ← acceptWords ["NULL", "ON", "NULL"] then return [text "NULL ON NULL"]
  else return []

/-- The type that a function on documents returns, as text. -/
def returning? (d : Dialect) : Parser (List Piece) := do
  match ← after? "RETURNING" (typeName d) with
  | some t => return [text ("RETURNING " ++ t.text)]
  | none => return []

/-- What becomes of a text that grows too long. -/
def Grammar.onOverflow? (g : Grammar) : Parser (List Piece) := do
  if ← acceptWords ["ON", "OVERFLOW"] then
    if ← acceptWord "ERROR" then return [text "ON OVERFLOW ERROR"]
    expectWord "TRUNCATE"
    let l ← peek
    let filler ←
      if ["WITH", "WITHOUT"].contains l.token.keyword then pure []
      else match l.token with
        | .literal _ => pure [text " ", Piece.expr (← g.expr)]
        | _ => unexpected "either filler, WITH, or WITHOUT in LISTAGG" l
    match ← acceptOneOf ["WITH", "WITHOUT"] with
    | some k =>
      expectWord "COUNT"
      return text "ON OVERFLOW TRUNCATE" :: filler ++ [text (" " ++ k ++ " COUNT")]
    | none => expected "either WITH or WITHOUT in LISTAGG"
  else return []

/-- `ALL` or `DISTINCT` before arguments, as text. -/
def argumentQuantifier? : Parser (Option String) := do
  let l ← peek
  let all ← acceptWord "ALL"
  let distinct ← acceptWord "DISTINCT"
  if all && distinct then failAt l .allAndDistinct
  else return if all then some "ALL " else if distinct then some "DISTINCT " else none

/-- The arguments of a call up to the closing parenthesis, and whether nulls are treated among
them. -/
def Grammar.argumentList (g : Grammar) : Parser (List Piece × Bool) := do
  let nulls ← nullMembers?
  let type ← returning? g.dialect
  if ← acceptMark ")" then return (parens (spacedPhrases [nulls, type]), false)
  let quantifier ← argumentQuantifier?
  let arguments ← sepByComma g.argument
  let treatment ← if g.dialect.richArguments then nullTreatment? else pure none
  let order ← g.orderBy?
  let limit ←
    match ← after? "LIMIT" g.expr with
    | some e => pure [text "LIMIT ", Piece.expr e]
    | none => pure []
  let having ←
    if ← provided g.dialect.richArguments (acceptWord "HAVING") then do
      let bound ← expectOneOf ["MIN", "MAX"]
      let e ← g.expr
      pure [text ("HAVING " ++ bound ++ " "), Piece.expr e]
    else pure []
  let separator ←
    if ← provided g.dialect.richArguments (acceptWord "SEPARATOR") then do
      let v ← literal g.dialect
      pure [text ("SEPARATOR " ++ v.render)]
    else pure []
  let overflow ← g.onOverflow?
  let nulls' ← nullMembers?
  let type' ← returning? g.dialect
  expectMark ")"
  let clauses := spacedPhrases
    [nulls, type, optionalText treatment, order, limit, having, separator, overflow, nulls', type']
  let list := optionalText quantifier ++ commas arguments
  return (parens (if clauses.isEmpty then list else list ++ text " " :: clauses),
    treatment.isSome)

/-! ### Calls -/

/-- A call after the name of its function. -/
def Grammar.call (g : Grammar) (name : QualifiedName) : Parser Expr := do
  expectMark "("
  let (first, treated) ← g.argumentList
  let (arguments, treated) ←
    if ← provided g.dialect.richArguments (acceptMark "(") then do
      let (second, treated) ← g.argumentList
      pure (first ++ second, treated)
    else pure (first, treated)
  let withinGroup ←
    if ← acceptWords ["WITHIN", "GROUP"] then do
      expectMark "("
      expectWords ["ORDER", "BY"]
      let keys ← g.sortKeys
      expectMark ")"
      pure (text " WITHIN GROUP (ORDER BY " :: keys ++ [text ")"])
    else pure []
  let filter ← do
    let s ← get
    if ← provided g.dialect.filteredCalls (acceptWord "FILTER") then
      if ← acceptMark "(" then
        if ← acceptWord "WHERE" then
          let e ← g.expr
          expectMark ")"
          pure [text " FILTER (WHERE ", Piece.expr e, text ")"]
        else pure []
      else pure []
    else do
      set s
      pure []
  let treatment ← if treated then pure none else nullTreatment?
  let window ←
    if ← acceptWord "OVER" then
      if ← acceptMark "(" then do
        let inside ← g.windowInside
        pure (text " OVER " :: inside)
      else do
        let w ← identifier
        pure [text (" OVER " ++ w.render)]
    else pure []
  return .call name arguments
    (filter ++ optionalText (treatment.map (" " ++ ·)) ++ window) withinGroup

end RowShape.Sql
