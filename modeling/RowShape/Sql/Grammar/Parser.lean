import RowShape.Sql.SyntaxError

/-!
# Parsers

Parsers take tokens from the front of a list and fail with a syntax error.

## Main definitions

* `Parser`: a parser for values of a type.
* `Parser.peek`, `Parser.advance`: the next token.
* `Parser.acceptWord`, `Parser.acceptMark` and their like: tokens that may or must come next.
* `Parser.attempt`: a parser that leaves the tokens alone where it fails.
* `Parser.iterate`: repetition, as often as there are tokens.
* `Parser.sepByComma`: lists.
-/

namespace RowShape.Sql

/-- A parser: it takes tokens and gives a value and the tokens left, or an error. -/
abbrev Parser (α : Type) := StateT (List Lexeme) (Except SyntaxError) α

namespace Parser

variable {α β : Type}

/-! ### The next token -/

/-- The first of some tokens. -/
def firstLexeme : List Lexeme → Lexeme
  | [] => .eof
  | l :: _ => l

/-- The token after the next `n` tokens. -/
def peekAt (n : Nat) : Parser Lexeme := fun s => .ok (firstLexeme (s.drop n), s)

/-- The next token, which stays. -/
def peek : Parser Lexeme := fun s => .ok (firstLexeme s, s)

/-- The next token, which is taken. -/
def advance : Parser Lexeme := fun s => .ok (firstLexeme s, s.drop 1)

/-- Fails at the place of a token. -/
def failAt (l : Lexeme) (fault : Fault) : Parser α := throw (.atLexeme l fault)

/-- Fails because a token is not what is due. -/
def unexpected (wanted : String) (found : Lexeme) : Parser α :=
  failAt found (.unexpected wanted found.token)

/-- Fails because the next token is not what is due. -/
def expected (wanted : String) : Parser α := do
  unexpected wanted (← peek)

/-! ### Words -/

/-- The next token is this keyword. -/
def peekWord (word : String) : Parser Bool := do
  return (← peek).token.keyword == word

/-- Takes a keyword if it is next. -/
def acceptWord (word : String) : Parser Bool := do
  if ← peekWord word then
    let _ ← advance
    return true
  else return false

/-- Takes some keywords if they are the next tokens in this order. -/
def acceptWords : List String → Parser Bool
  | words => fun s =>
    let next := (s.take words.length).map fun l => l.token.keyword
    if next = words then .ok (true, s.drop words.length) else .ok (false, s)

/-- Takes the next token if it is one of some keywords. -/
def acceptOneOf (words : List String) : Parser (Option String) := do
  let k := (← peek).token.keyword
  if words.contains k then
    let _ ← advance
    return some k
  else return none

/-- Tries something only under a condition; otherwise it counts as not found. -/
def provided (condition : Bool) (p : Parser Bool) : Parser Bool :=
  if condition then p else pure false

/-- Takes a keyword that must be next. -/
def expectWord (word : String) : Parser Unit := do
  unless ← acceptWord word do expected word

/-- Takes keywords that must be next. -/
def expectWords (words : List String) : Parser Unit :=
  words.forM expectWord

/-- Takes one of some keywords, which must be next. -/
def expectOneOf (words : List String) : Parser String := do
  match ← acceptOneOf words with
  | some k => return k
  | none => expected ("one of " ++ " or ".intercalate words)

/-! ### Marks -/

/-- The next token is this mark. -/
def peekMark (mark : String) : Parser Bool := do
  return (← peek).token == .mark mark

/-- Takes a mark if it is next. -/
def acceptMark (mark : String) : Parser Bool := do
  if ← peekMark mark then
    let _ ← advance
    return true
  else return false

/-- Takes a mark that must be next. -/
def expectMark (mark : String) : Parser Unit := do
  unless ← acceptMark mark do expected mark

/-! ### Combining parsers -/

/-- Runs a parser; where it fails the tokens are as before, and there is no value.  A text that is
nested too deep fails all the same. -/
def attempt (p : Parser α) : Parser (Option α) := fun s =>
  match p s with
  | .ok (a, rest) => .ok (some a, rest)
  | .error ⟨.tooDeep, place⟩ => .error ⟨.tooDeep, place⟩
  | .error _ => .ok (none, s)

/-- Runs a parser; where it fails the tokens are as before, and its error is the value. -/
def caught (p : Parser α) : Parser (Except SyntaxError α) := fun s =>
  match p s with
  | .ok (a, rest) => .ok (.ok a, rest)
  | .error e => .ok (.error e, s)

/-- Repeats a step at most `n` times, until it gives nothing. -/
def iterateAtMost (step : α → Parser (Option α)) : Nat → α → Parser α
  | 0, a => pure a
  | n + 1, a => do
    match ← step a with
    | none => return a
    | some b => iterateAtMost step n b

/-- Repeats a step until it gives nothing, at most as often as there are tokens. -/
def iterate (step : α → Parser (Option α)) (a : α) : Parser α := fun s =>
  iterateAtMost step (s.length + 1) a s

/-- The values of a parser that is run until it gives nothing. -/
def many (p : Parser (Option α)) : Parser (List α) := do
  let found ← iterate (fun found => do
    match ← p with
    | some a => return some (a :: found)
    | none => return none) []
  return found.reverse

/-- One value or more, with commas between them. -/
def sepByComma (p : Parser α) : Parser (List α) := do
  let first ← p
  let more ← many do
    if ← acceptMark "," then
      let a ← p
      return some a
    else return none
  return first :: more

/-- No value before a closing mark, or values with commas between them. -/
def sepByCommaUntil (closing : String) (p : Parser α) : Parser (List α) := do
  if ← peekMark closing then return [] else sepByComma p

/-- A parser between parentheses. -/
def inParens (p : Parser α) : Parser α := do
  expectMark "("
  let a ← p
  expectMark ")"
  return a

/-- A parser after a keyword, if that is next. -/
def after? (word : String) (p : Parser α) : Parser (Option α) := do
  if ← acceptWord word then
    let a ← p
    return some a
  else return none

end Parser

end RowShape.Sql
