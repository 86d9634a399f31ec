import RowShape.Sql.Dialect
import RowShape.Sql.Grammar.Parser
import RowShape.Sql.Syntax

/-!
# Names and values

## Main definitions

* `Parser.identifier`, `Parser.qualifiedName`: names.
* `Parser.columnAlias?`, `Parser.asOrAlias?`: aliases.
* `Parser.literal`: literal values, and `Parser.count`: numbers in fixed places.
-/

namespace RowShape.Sql.Parser

/-! ### Names -/

/-- An identifier: any word, or a quoted text. -/
def identifier : Parser Ident := do
  let l ← advance
  match l.token with
  | .word i _ => return i
  | .literal (.text s) => return ⟨s, some '\''⟩
  | .literal (.doubleQuoted s) => return ⟨s, some '"'⟩
  | _ => unexpected "identifier" l

/-- A name of one part or more; where the dialect allows it, the second part may be missing. -/
def qualifiedName (d : Dialect) : Parser QualifiedName := do
  let first ← identifier
  let parts ← iterate (fun parts => do
    if ← acceptMark "." then
      if parts.length = 1 && d.doubleDotNames && (← peekMark ".") then
        return some (parts ++ [Ident.bare ""])
      else
        let i ← identifier
        return some (parts ++ [i])
    else return none) [first]
  return ⟨parts⟩

/-- Names in parentheses. -/
def nameList (wanted : String) : Parser (List Ident) := do
  unless ← peekMark "(" do expected wanted
  inParens (sepByComma identifier)

/-! ### Aliases -/

/-- An alias: after `AS` any word, otherwise a word that is not reserved; or a quoted text. -/
def asOrAlias? (reserved : String → Bool) : Parser (Option Ident) := do
  let explicit ← acceptWord "AS"
  let l ← peek
  match l.token with
  | .word i k =>
    if explicit || !reserved k then
      let _ ← advance
      return some i
    else return none
  | .literal (.text s) =>
    let _ ← advance
    return some ⟨s, some '\''⟩
  | .literal (.doubleQuoted s) =>
    let _ ← advance
    return some ⟨s, some '"'⟩
  | _ => if explicit then unexpected "an identifier after AS" l else return none

/-- The alias of an item of a projection. -/
def columnAlias? (d : Dialect) : Parser (Option Ident) := asOrAlias? d.reservedAsColumnAlias

/-! ### Values -/

/-- The name of a parameter whose first character is a mark of its own; no blank may come between
them. -/
def parameterAfter (mark : String) : Parser Literal := do
  let l ← peek
  match l.gap with
  | some (blank, place) => throw ⟨.unexpected "placeholder" (.mark blank), some place⟩
  | none =>
    let _ ← advance
    match l.token with
    | .word i _ => return .placeholder (mark ++ i.value)
    | .literal (.number digits false) => return .placeholder (mark ++ digits)
    | _ => unexpected "placeholder" l

/-- A literal value. -/
def literal (d : Dialect) : Parser Literal := do
  let l ← advance
  match l.token with
  | .literal v => return v
  | .mark ":" => parameterAfter ":"
  | .mark "@" => parameterAfter "@"
  | .word i k =>
    if k = "NULL" then return .null
    else if k = "TRUE" && d.booleanLiterals then return .boolean true
    else if k = "FALSE" && d.booleanLiterals then return .boolean false
    else match i.quote with
    | some '"' => return .doubleQuoted i.value
    | some '\'' => return .text i.value
    | some _ => unexpected "A value?" l
    | none => unexpected "a concrete value" l
  | _ => unexpected "a value" l

/-- A number of at most 64 bits, as it is written. -/
def countDigits (l : Lexeme) : Parser String :=
  match l.token with
  | .literal (.number digits _) =>
    match digits.toNat? with
    | some n =>
      if digits.toList.all Char.isDigit && n < Nat.pow 2 64 then return toString n
      else failAt l (.badCount digits)
    | none => failAt l (.badCount digits)
  | _ => unexpected "literal int" l

/-- A number that is a count. -/
def count : Parser String := do
  countDigits (← advance)

/-- A text in quotes, or a word in its place. -/
def quotedText : Parser String := do
  let l ← advance
  match l.token with
  | .word i _ => return i.value
  | .literal (.text s) => return s
  | .literal (.doubleQuoted s) => return s
  | _ => unexpected "literal string" l

end RowShape.Sql.Parser
