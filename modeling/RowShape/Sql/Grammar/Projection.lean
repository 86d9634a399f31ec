import RowShape.Sql.Grammar.Operator

/-!
# Projections

## Main definitions

* `Grammar.wildcardOptions`: what may follow a wildcard.
* `Grammar.projectionItem`: an item of a projection.
* `Grammar.projection`: the items.
-/

namespace RowShape.Sql

open RowShape.Sql.Parser Piece

/-! ### Options of wildcards -/

/-- Names, alone or in parentheses, as text. -/
private def someNames : Parser String := do
  if ← peekMark "(" then
    let names ← inParens (sepByComma identifier)
    return "(" ++ ", ".intercalate (names.map Ident.render) ++ ")"
  else return (← identifier).render

/-- The pattern of the columns that a wildcard stands for. -/
private def columnPattern? : Parser (List Piece) := do
  if ← acceptWord "ILIKE" then
    let l ← advance
    match l.token with
    | .literal (.text s) => return [text (" ILIKE '" ++ s ++ "'")]
    | _ => unexpected "ilike pattern" l
  else return []

/-- The columns that a wildcard does not stand for. -/
private def exceptions? : Parser (List Piece) := do
  if ← acceptWord "EXCEPT" then
    let names ← if ← peekMark "(" then someNames else do
      let n ← identifier
      pure ("(" ++ n.render ++ ")")
    return [text (" EXCEPT " ++ names)]
  else return []

/-- The columns whose values are replaced. -/
private def Grammar.replacements? (g : Grammar) : Parser (List Piece) := do
  if ← acceptWord "REPLACE" then
    let l ← advance
    unless l.token == .mark "(" do unexpected "( after REPLACE but" l
    let items ← sepByComma do
      let e ← g.expr
      let link ← acceptWord "AS"
      let name ← identifier
      return [.expr e, text ((if link then " AS " else " ") ++ name.render)]
    expectMark ")"
    return text " REPLACE (" :: commas items ++ [text ")"]
  else return []

/-- A column and its new name, as text. -/
private def newName : Parser String := do
  let name ← identifier
  let _ ← acceptWord "AS"
  let aliased ← identifier
  return name.render ++ " AS " ++ aliased.render

/-- The columns that get new names. -/
private def newNames? : Parser (List Piece) := do
  if ← acceptWord "RENAME" then
    if ← peekMark "(" then
      let names ← inParens (sepByComma newName)
      return [text (" RENAME (" ++ ", ".intercalate names ++ ")")]
    else return [text (" RENAME " ++ (← newName))]
  else return []

/-- What may follow a wildcard. -/
def Grammar.wildcardOptions (g : Grammar) : Parser (List Piece) := do
  if g.dialect.wildcardOptions then
    let like ← columnPattern?
    let exclude ←
      if ← provided like.isEmpty (acceptWord "EXCLUDE") then do
        pure [text (" EXCLUDE " ++ (← someNames))]
      else pure []
    let except ← exceptions?
    let replace ← g.replacements?
    let rename ← newNames?
    return like ++ exclude ++ except ++ replace ++ rename
  else return []

/-! ### Items -/

/-- The name that an item gives to a value in front of it, and the value. -/
def namedInFront? (d : Dialect) : Expr → Option (Ident × Expr)
  | .binary (.ident name) "=" value => if d.equalsNamesColumn then some (name, value) else none
  | _ => none

/-- The word `FROM`, in any case and without quotes, where a name was due. -/
def bareFrom? : Expr → Option String
  | .ident ⟨value, none⟩ => if Text.lowerCase value == "from" then some value else none
  | _ => none

/-- An item of a projection. -/
def Grammar.projectionItem (g : Grammar) : Parser SelectItem := do
  match ← g.selected with
  | .all => return .wildcard (← g.wildcardOptions)
  | .allOf name => return .qualifiedWildcard name (← g.wildcardOptions)
  | .expr e =>
    match bareFrom? e, namedInFront? g.dialect e with
    | some word, _ => failAt (← peek) (.reservedWord word)
    | none, some (name, value) => return .expr value (some name)
    | none, none => return .expr e (← columnAlias? g.dialect)

/-- A trailing comma may stand before this token. -/
def endsProjection (d : Dialect) : Token → Bool
  | .word _ k => d.reservedAsColumnAlias k
  | .mark m => [")", ";", "]", "\x7d"].contains m
  | .endOfText => true
  | _ => false

/-- The items of a projection. -/
def Grammar.projection (g : Grammar) : Parser (List SelectItem) := do
  let first ← g.projectionItem
  let more ← many do
    if ← acceptMark "," then
      if g.dialect.trailingCommas && endsProjection g.dialect (← peek).token then return none
      else return some (← g.projectionItem)
    else return none
  return first :: more

end RowShape.Sql
