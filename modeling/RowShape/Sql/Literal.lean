import RowShape.Sql.Ident

/-!
# Literals

Literal values and their written forms.

## Main definitions

* `Literal`: the kinds of literals.
* `Literal.render`: the form in which a value is printed.
* `Literal.source`: the form in which a token is quoted in messages, without escapes.
-/

namespace RowShape.Sql

/-- A literal value. -/
inductive Literal where
  /-- A number with its digits as written; `long` if it carries the suffix `L`. -/
  | number (digits : String) (long : Bool)
  /-- Text in single quotes. -/
  | text (value : String)
  /-- Text in double quotes, where those do not delimit identifiers. -/
  | doubleQuoted (value : String)
  /-- `N'..'`. -/
  | national (value : String)
  /-- `X'..'`, and numbers that begin with `0x`. -/
  | hex (digits : String)
  /-- `E'..'` with backslash escapes undone. -/
  | escaped (value : String)
  /-- `U&'..'` with its escapes undone. -/
  | unicode (value : String)
  /-- `B'..'` or `B".."`. -/
  | bytes (quote : Char) (value : String)
  /-- `R'..'` or `R".."`. -/
  | raw (quote : Char) (value : String)
  /-- Text between dollar signs, with an optional tag. -/
  | dollar (tag : Option String) (value : String)
  /-- `true` or `false`. -/
  | boolean (value : Bool)
  /-- `NULL`. -/
  | null
  /-- A parameter such as `?`, `$1` or `:name`. -/
  | placeholder (name : String)
  deriving DecidableEq

namespace Literal

/-- Upper-case hexadecimal digits, padded with zeros to a width. -/
def hexDigits (width n : Nat) : String :=
  let digits := (Nat.toDigits 16 n).map Char.toUpper
  String.ofList (List.replicate (width - digits.length) '0' ++ digits)

/-- One character inside `E'..'`. -/
def escapeBackslash (c : Char) : String :=
  match c with
  | '\'' => "\\'"
  | '\\' => "\\\\"
  | '\n' => "\\n"
  | '\t' => "\\t"
  | '\r' => "\\r"
  | c => c.toString

/-- One character inside `U&'..'`: everything outside ASCII is written by its code point. -/
def escapeUnicode (c : Char) : String :=
  if c = '\'' then "''"
  else if c = '\\' then "\\\\"
  else if c.toNat < 128 then c.toString
  else if c.toNat ≤ 0xFFFF then "\\" ++ hexDigits 4 c.toNat
  else "\\+" ++ hexDigits 6 c.toNat

/-- Text between dollar signs. -/
def renderDollar (tag : Option String) (value : String) : String :=
  let fence := "$" ++ tag.getD "" ++ "$"
  fence ++ value ++ fence

/-- The form in which a value is printed. -/
def render : Literal → String
  | number digits long => if long then digits ++ "L" else digits
  | text value => quoted '\'' value
  | doubleQuoted value => quoted '"' value
  | national value => "N'" ++ value ++ "'"
  | hex digits => "X'" ++ digits ++ "'"
  | escaped value => "E'" ++ String.join (value.toList.map escapeBackslash) ++ "'"
  | unicode value => "U&'" ++ String.join (value.toList.map escapeUnicode) ++ "'"
  | bytes quote value => "B" ++ quote.toString ++ value ++ quote.toString
  | raw quote value => "R" ++ quote.toString ++ value ++ quote.toString
  | dollar tag value => renderDollar tag value
  | boolean value => if value then "true" else "false"
  | null => "NULL"
  | placeholder name => name

/-- The form in which messages quote a literal: as `render`, but with nothing escaped. -/
def source : Literal → String
  | text value => "'" ++ value ++ "'"
  | doubleQuoted value => "\"" ++ value ++ "\""
  | escaped value => "E'" ++ value ++ "'"
  | unicode value => "U&'" ++ value ++ "'"
  | other => other.render

end Literal

end RowShape.Sql
