import RowShape.Sql.Literal
import RowShape.Text.Case

/-!
# Tokens

Tokens of SQL text with their positions.

## Main definitions

* `Token`: words, literals, punctuation, and whatever is none of these.
* `Position`: a line and a column, both counted from 1.
* `Lexeme`: a token, where it stands and the blank before it.
-/

namespace RowShape.Sql

/-- A token. -/
inductive Token where
  /-- A word or a quoted identifier.  `keyword` is the upper case of an unquoted word and empty
  for a quoted one, so that quoted words are never keywords. -/
  | word (ident : Ident) (keyword : String)
  /-- A literal. -/
  | literal (value : Literal)
  /-- Punctuation or an operator, in its usual spelling. -/
  | mark (text : String)
  /-- An operator made of any operator characters. -/
  | operator (text : String)
  /-- A character that begins no other token. -/
  | stray (char : Char)
  /-- The end of the text. -/
  | endOfText
  deriving DecidableEq

namespace Token

/-- The token of an unquoted word. -/
def ofWord (s : String) : Token := word (Ident.bare s) (Text.upperCase s)

/-- The token of a quoted identifier. -/
def ofQuoted (quote : Char) (s : String) : Token := word ⟨s, some quote⟩ ""

/-- The upper case of an unquoted word; empty for every other token. -/
def keyword : Token → String
  | word _ k => k
  | _ => ""

/-- The form in which messages quote a token. -/
def render : Token → String
  | word ⟨value, none⟩ _ => value
  | word ⟨value, some q⟩ _ => q.toString ++ value ++ (closingQuote q).toString
  | literal v => v.source
  | mark text => text
  | operator text => text
  | stray c => c.toString
  | endOfText => "EOF"

end Token

/-- A place in the text; lines and columns count from 1. -/
structure Position where
  /-- The line. -/
  line : Nat
  /-- The column, in characters. -/
  column : Nat
  deriving DecidableEq

namespace Position

/-- Where a text begins. -/
def first : Position := ⟨1, 1⟩

/-- The place after one more character. -/
def after (p : Position) (c : Char) : Position :=
  if c = '\n' then ⟨p.line + 1, 1⟩ else ⟨p.line, p.column + 1⟩

/-- The place after some more characters. -/
def afterAll (p : Position) (cs : List Char) : Position := cs.foldl after p

/-- The end of a message that points at a place. -/
def suffix (p : Position) : String :=
  " at Line: " ++ toString p.line ++ ", Column: " ++ toString p.column

end Position

/-- A token in its place. -/
structure Lexeme where
  /-- The token. -/
  token : Token
  /-- Where it begins; the end of the text has no place. -/
  position : Option Position
  /-- The first blank or comment between the token before and this one, with its place. -/
  gap : Option (String × Position)

namespace Lexeme

/-- The end of the text. -/
def eof : Lexeme := ⟨.endOfText, none, none⟩

/-- The end of a message that points at this token. -/
def suffix (l : Lexeme) : String :=
  match l.position with
  | some p => p.suffix
  | none => ""

end Lexeme

end RowShape.Sql
