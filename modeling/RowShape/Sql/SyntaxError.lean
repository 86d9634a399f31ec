import RowShape.Sql.Token

/-!
# Syntax errors

Why a text is no SQL, and where.

## Main definitions

* `Fault`: the causes.
* `SyntaxError`: a cause and a place.
* `SyntaxError.message`: the wording.
-/

namespace RowShape.Sql

/-- A cause of a syntax error. -/
inductive Fault where
  /-- A string has no closing quote. -/
  | unterminatedString
  /-- A string with escapes has no closing quote or a bad escape. -/
  | unterminatedEscapedString
  /-- A string with Unicode escapes has no closing quote. -/
  | unterminatedUnicodeString
  /-- The text ends inside a Unicode escape. -/
  | unfinishedUnicodeEscape
  /-- A character of a Unicode escape is no hexadecimal digit. -/
  | badHexDigit (c : Char)
  /-- A Unicode escape names no character. -/
  | badCodePoint (n : Nat)
  /-- A quoted identifier has no closing quote. -/
  | unterminatedIdentifier (closing : Char)
  /-- A text between `$$` and `$$` does not end. -/
  | unterminatedDollarString
  /-- A text between tagged dollar signs does not end. -/
  | unterminatedTaggedString
  /-- A comment does not end. -/
  | unterminatedComment
  /-- An underscore follows a period that follows no word. -/
  | strayUnderscore
  /-- Characters that begin an operator are followed by nothing that completes it. -/
  | unfinishedOperator (start : String)
  /-- Something else than what stands there was due. -/
  | unexpected (wanted : String) (found : Token)
  /-- A reserved word stands where an expression was due. -/
  | reservedWord (word : String)
  /-- An operator cannot stand between operands in this dialect. -/
  | noInfix (operator : Token)
  /-- `ANY` or `ALL` follows an operator that compares nothing. -/
  | noComparison (operator : String)
  /-- A number is out of place. -/
  | badCount (digits : String)
  /-- Both `ALL` and `DISTINCT` are given. -/
  | allAndDistinct
  /-- A join side has no join. -/
  | noJoinAfter (side : String)
  /-- A table has two aliases. -/
  | duplicateAlias (aliased : String)
  /-- Wording of a clause that is misspelt in some other way. -/
  | malformed (explanation : String)
  /-- The nesting is deeper than the limit. -/
  | tooDeep

/-- A syntax error: a cause and, if one place shows it, that place. -/
structure SyntaxError where
  /-- The cause. -/
  fault : Fault
  /-- The place. -/
  position : Option Position

/-- The long form of a token, which names its kind. -/
def Token.describe : Token → String
  | .word i k =>
    let quote := match i.quote with
      | some q => "Some('" ++ q.toString ++ "')"
      | none => "None"
    "Word(Word \x7b value: \"" ++ i.value ++ "\", quote_style: " ++ quote ++ ", keyword: " ++
      (if k.isEmpty then "NoKeyword" else k) ++ " \x7d)"
  | .mark "&&" => "Overlap"
  | .mark "<<" => "ShiftLeft"
  | .mark ">>" => "ShiftRight"
  | .mark "#" => "Sharp"
  | .mark "^@" => "CaretAt"
  | .mark "!" => "ExclamationMark"
  | .mark "[" => "LBracket"
  | .mark ":" => "Colon"
  | .mark "//" => "DuckIntDiv"
  | .mark "@" => "AtSign"
  | .mark "." => "Period"
  | .mark text => text
  | .operator text => "CustomBinaryOperator(\"" ++ text ++ "\")"
  | other => other.render

namespace Fault

/-- The wording of a cause. -/
def message : Fault → String
  | unterminatedString => "Unterminated string literal"
  | unterminatedEscapedString => "Unterminated encoded string literal"
  | unterminatedUnicodeString => "Unterminated unicode encoded string literal"
  | unfinishedUnicodeEscape => "Unexpected EOF while parsing hex digit in escaped unicode string."
  | badHexDigit c => "Invalid hex digit in escaped unicode string: " ++ c.toString
  | badCodePoint n => "Invalid unicode character: " ++ String.ofList (Nat.toDigits 16 n)
  | unterminatedIdentifier closing =>
    "Expected close delimiter '" ++ closing.toString ++ "' before EOF."
  | unterminatedDollarString => "Unterminated dollar-quoted string"
  | unterminatedTaggedString => "Unterminated dollar-quoted, expected $"
  | unterminatedComment => "Unexpected EOF while in a multi-line comment"
  | strayUnderscore => "Unexpected character '_'"
  | unfinishedOperator start => "Expected a valid binary operator after '" ++ start ++ "'"
  | unexpected wanted found => "Expected: " ++ wanted ++ ", found: " ++ found.render
  | reservedWord word => "Expected an expression, found: " ++ word
  | noInfix operator => "No infix parser for token " ++ operator.describe
  | noComparison operator =>
    "Expected one of [=, >, <, =>, =<, !=, ~, ~*, !~, !~*, ~~, ~~*, !~~, !~~*] as comparison " ++
      "operator, found: " ++ operator
  | badCount digits =>
    "Could not parse '" ++ digits ++ "' as u64: " ++
      (if digits.toList.all Char.isDigit then "number too large to fit in target type"
       else "invalid digit found in string")
  | allAndDistinct => "Cannot specify both ALL and DISTINCT"
  | noJoinAfter side => "expected OUTER, SEMI, ANTI or JOIN after " ++ side
  | duplicateAlias aliased => "duplicate alias " ++ aliased
  | malformed explanation => explanation
  | tooDeep => "recursion limit exceeded"

end Fault

namespace SyntaxError

/-- A cause at the place of a token. -/
def atLexeme (l : Lexeme) (fault : Fault) : SyntaxError := ⟨fault, l.position⟩

/-- A cause without a place. -/
def nowhere (fault : Fault) : SyntaxError := ⟨fault, none⟩

/-- The wording: the cause, then the place if there is one. -/
def message (e : SyntaxError) : String :=
  "sql parser error: " ++ e.fault.message ++
    match e.position with
    | some p => p.suffix
    | none => ""

end SyntaxError

end RowShape.Sql
