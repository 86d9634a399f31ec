import RowShape.Sql.Grammar.Operand

/-!
# Access to members

What may follow an operand directly: members behind periods, subscripts in brackets, and the mark
of an optional side of a join.

## Main definitions

* `Link`: one step of an access.
* `Chain.toExpr`: the expression that an operand and its links make.
* `Grammar.accessed`: an operand with everything that follows it directly.
-/

namespace RowShape.Sql

open RowShape.Sql.Parser Piece

/-- One step of an access. -/
inductive Link where
  /-- A member behind a period. -/
  | member (e : Expr)
  /-- A subscript in brackets. -/
  | subscript (pieces : List Piece)

namespace Link

/-- The identifier that a link adds to a compound name, if it adds one. -/
def ident? : Link → Option Ident
  | member (.ident i) => some i
  | _ => none

/-- The pieces of a link. -/
def pieces : Link → List Piece
  | member e => [text ".", .expr e]
  | subscript ps => text "[" :: ps ++ [text "]"]

end Link

/-! ### Chains -/

namespace Chain

/-- The identifiers of an operand and its links, if all of them are identifiers. -/
def idents? (root : Expr) (links : List Link) : Option (List Ident) :=
  match root with
  | .ident i => (links.mapM Link.ident?).map (i :: ·)
  | _ => none

/-- The links that an expression behind a period makes. -/
def linksOf : Expr → List Link
  | .compound parts => parts.map fun i => .member (.ident i)
  | e => [.member e]

/-- A chain that ends in a call whose name it qualifies, or in the mark of an optional side. -/
def qualified? (root : Expr) (links : List Link) : Option Expr :=
  match links.getLast? with
  | some (.member (.call name arguments options withinGroup)) =>
    (idents? root links.dropLast).map fun parts =>
      .call ⟨parts ++ name.parts⟩ arguments options withinGroup
  | some (.member (.optionalSide column)) =>
    match root, links, column with
    | .ident i, [_], .ident j => some (.optionalSide (.compound [i, j]))
    | .ident i, [_], .compound parts => some (.optionalSide (.compound (i :: parts)))
    | _, _, _ => none
  | _ => none

/-- The expression that an operand and its links make. -/
def toExpr (root : Expr) (links : List Link) : Expr :=
  if links.isEmpty then root
  else match idents? root links with
  | some parts => .compound parts
  | none => (qualified? root links).getD (.phrase (.expr root :: links.flatMap Link.pieces))

end Chain

/-! ### Links -/

/-- A bound of a slice. -/
private def Grammar.sliceBound (g : Grammar) : Parser (List Piece) := do
  return [.expr (← g.operandOf .pipe)]

/-- A subscript after its opening bracket: an index, or a slice with up to three parts. -/
def Grammar.subscript (g : Grammar) : Parser Link := do
  let lower ← if ← acceptMark ":" then pure [] else g.sliceBound
  if ← acceptMark "]" then
    return .subscript (if lower.isEmpty then [text ":"] else lower)
  unless lower.isEmpty do expectMark ":"
  if ← acceptMark "]" then return .subscript (lower ++ [text ":"])
  let upper ← g.sliceBound
  if ← acceptMark "]" then return .subscript (lower ++ text ":" :: upper)
  expectMark ":"
  if ← acceptMark "]" then return .subscript (lower ++ text ":" :: upper)
  let stride ← g.expr
  expectMark "]"
  return .subscript (lower ++ text ":" :: upper ++ [text ":", .expr stride])

/-- The state of reading links: the links so far, and whether a wildcard has ended them. -/
abbrev Links := List Link × Bool

/-- The next links, if any follow. -/
def Grammar.nextLinks (g : Grammar) : Links → Parser (Option Links) := fun (links, wildcard) => do
  if wildcard then return none
  let s ← get
  if ← acceptMark "." then
    let l ← peek
    match l.token with
    | .mark "*" =>
      if g.dialect == .postgres then
        let _ ← advance
        return some (links, true)
      else
        set s
        return none
    | .literal (.text t) =>
      let _ ← advance
      return some (links ++ [.member (.ident ⟨t, some '\''⟩)], false)
    | .literal (.placeholder p) =>
      let _ ← advance
      return some (links ++ [.member (.ident (.bare p))], false)
    | _ =>
      let e ← g.operandOf .period
      return some (links ++ Chain.linksOf e, false)
  else if ← acceptMark "[" then
    let link ← g.subscript
    return some (links ++ [link], false)
  else return none

/-- The last of the tokens that a parser has taken. -/
def lastTaken (before after : List Lexeme) : Lexeme :=
  firstLexeme (before.drop (before.length - after.length - 1))

/-- An operand with everything that follows it directly. -/
def Grammar.accessed (g : Grammar) : Parser Expr := do
  let before ← get
  let root ← g.anyOperand
  let (links, wildcard) ← iterate g.nextLinks ([], false)
  if wildcard then
    match Chain.idents? root links with
    | some parts => return .phrase [text (QualifiedName.render ⟨parts⟩ ++ ".*")]
    | none => expected "an identifier or a '*' after '.'"
  else if ← peekOptionalSide g.dialect then
    let last := lastTaken before (← get)
    let _ ← advance
    let _ ← advance
    let _ ← advance
    match Chain.idents? root links with
    | some _ => return .optionalSide (Chain.toExpr root links)
    | none => unexpected "column identifier before (+)" last
  else return Chain.toExpr root links

end RowShape.Sql
