import RowShape.Sql.SyntaxError

/-!
# Quoted tokens

Readers of strings, quoted identifiers and comments.  Each takes the characters after the opening
mark and gives what it read and the characters after the closing mark; a fault comes with the
characters that are left where it shows.

## Main definitions

* `Scan`: the result of a reader.
* `closeQuoted`: text up to a quote that is not doubled.
* `closeEscaped`: the same with backslash escapes.
* `closeUnicode`: the same with Unicode escapes.
* `closeDollar`, `closeTagged`: text between dollar signs.
* `closeComment`: a comment that may hold comments.
-/

namespace RowShape.Sql

/-- What a reader yields: a value and the rest, or a fault and the rest at its place. -/
abbrev Scan (α : Type) := Except (Fault × List Char) (α × List Char)

namespace Scan

/-- Text up to a closing quote that is not doubled; a doubled one stands for itself. -/
def closeQuoted (closing : Char) : List Char → Option (List Char × List Char)
  | [] => none
  | c :: rest =>
    if c = closing then
      match rest with
      | [] => some ([], [])
      | d :: rest' =>
        if d = closing then (closeQuoted closing rest').map fun (s, r) => (c :: s, r)
        else some ([], d :: rest')
    else (closeQuoted closing rest).map fun (s, r) => (c :: s, r)

/-- The character that a backslash and one more character stand for, where backslashes escape. -/
def plainEscape (c : Char) : Char :=
  match c with
  | '0' => '\x00'
  | 'a' => '\x07'
  | 'b' => '\x08'
  | 'f' => '\x0c'
  | 'n' => '\n'
  | 'r' => '\r'
  | 't' => '\t'
  | 'Z' => '\x1a'
  | c => c

/-- As `closeQuoted` for single quotes, with backslash escapes. -/
def closeBackslashed : List Char → Option (List Char × List Char)
  | [] => none
  | '\\' :: c :: rest => (closeBackslashed rest).map fun (s, r) => (plainEscape c :: s, r)
  | '\'' :: '\'' :: rest => (closeBackslashed rest).map fun (s, r) => ('\'' :: s, r)
  | '\'' :: rest => some ([], rest)
  | c :: rest => (closeBackslashed rest).map fun (s, r) => (if c = '\\' then s else c :: s, r)

/-! ### Numeric escapes -/

/-- The value of a hexadecimal digit. -/
def hexValue? (c : Char) : Option Nat :=
  if '0' ≤ c ∧ c ≤ '9' then some (c.toNat - 48)
  else if 'a' ≤ c ∧ c ≤ 'f' then some (c.toNat - 87)
  else if 'A' ≤ c ∧ c ≤ 'F' then some (c.toNat - 55)
  else none

/-- The value of an octal digit. -/
def octalValue? (c : Char) : Option Nat :=
  if '0' ≤ c ∧ c ≤ '7' then some (c.toNat - 48) else none

/-- The number that digits spell in a base. -/
def spelled (base : Nat) (digits : List Nat) : Nat :=
  digits.foldl (fun n d => n * base + d) 0

/-- The character of a code point, if it has one. -/
def charOf? (n : Nat) : Option Char :=
  if n.isValidChar then some (Char.ofNat n) else none

/-- At most `limit` digits from the front, with what follows them. -/
def takeDigits (digit? : Char → Option Nat) : Nat → List Char → List Nat × List Char
  | limit + 1, c :: rest =>
    match digit? c with
    | some d => let (ds, r) := takeDigits digit? limit rest; (d :: ds, r)
    | none => ([], c :: rest)
  | _, cs => ([], cs)

/-- Exactly `count` characters that spell a code point in base 16. -/
def codePoint? (count : Nat) (cs : List Char) : Option (Char × List Char) := do
  let (digits, rest) := takeDigits hexValue? count cs
  guard (digits.length = count)
  let c ← charOf? (spelled 16 digits)
  return (c, rest)

/-- What stands behind a backslash in `E'..'`, and the characters after it. -/
def escapeSequence? : List Char → Option (Char × List Char)
  | [] => none
  | c :: rest =>
    match c with
    | 'b' => some ('\x08', rest)
    | 'f' => some ('\x0c', rest)
    | 'n' => some ('\n', rest)
    | 'r' => some ('\r', rest)
    | 't' => some ('\t', rest)
    | 'u' => codePoint? 4 rest
    | 'U' => codePoint? 8 rest
    | 'x' =>
      match takeDigits hexValue? 2 rest with
      | ([], _) => some ('x', rest)
      | (digits, rest') =>
        if spelled 16 digits ≤ 127 then some (Char.ofNat (spelled 16 digits), rest') else none
    | c =>
      match octalValue? c with
      | none => some (c, rest)
      | some d =>
        let (digits, rest') := takeDigits octalValue? 2 rest
        let n := spelled 8 (d :: digits) % 256
        if n ≤ 127 then some (Char.ofNat n, rest') else none

/-- Text of `E'..'` up to its closing quote.  The first argument bounds the number of steps. -/
def closeEscapedAux : Nat → List Char → Option (List Char × List Char)
  | 0, _ => none
  | _, [] => none
  | n + 1, c :: rest =>
    if c = '\'' then
      match rest with
      | '\'' :: rest' => (closeEscapedAux n rest').map fun (s, r) => ('\'' :: s, r)
      | _ => some ([], rest)
    else if c = '\\' then
      match escapeSequence? rest with
      | none => none
      | some (e, rest') =>
        if e = '\x00' then none
        else (closeEscapedAux n rest').map fun (s, r) => (e :: s, r)
    else (closeEscapedAux n rest).map fun (s, r) => (c :: s, r)

/-- Text of `E'..'` up to its closing quote; bad escapes and NUL make it unreadable. -/
def closeEscaped (cs : List Char) : Option (List Char × List Char) :=
  closeEscapedAux (cs.length + 1) cs

/-- `count` hexadecimal digits of a Unicode escape. -/
def unicodeDigits : Nat → Nat → List Char → Scan Char
  | 0, value, cs =>
    match charOf? value with
    | some c => .ok (c, cs)
    | none => .error (.badCodePoint value, cs)
  | _ + 1, _, [] => .error (.unfinishedUnicodeEscape, [])
  | count + 1, value, c :: rest =>
    match hexValue? c with
    | some d => unicodeDigits count (value * 16 + d) rest
    | none => .error (.badHexDigit c, rest)

/-- Text of `U&'..'` up to its closing quote.  The first argument bounds the number of steps. -/
def closeUnicodeAux : Nat → List Char → Scan (List Char)
  | 0, cs => .error (.unterminatedUnicodeString, cs)
  | _, [] => .error (.unterminatedUnicodeString, [])
  | n + 1, c :: rest =>
    if c = '\'' then
      match rest with
      | '\'' :: rest' => (closeUnicodeAux n rest').map fun (s, r) => ('\'' :: s, r)
      | _ => .ok ([], rest)
    else if c = '\\' then
      match rest with
      | '\\' :: rest' => (closeUnicodeAux n rest').map fun (s, r) => ('\\' :: s, r)
      | '+' :: rest' =>
        match unicodeDigits 6 0 rest' with
        | .error fault => .error fault
        | .ok (e, rest'') => (closeUnicodeAux n rest'').map fun (s, r) => (e :: s, r)
      | _ =>
        match unicodeDigits 4 0 rest with
        | .error fault => .error fault
        | .ok (e, rest') => (closeUnicodeAux n rest').map fun (s, r) => (e :: s, r)
    else (closeUnicodeAux n rest).map fun (s, r) => (c :: s, r)

/-- Text of `U&'..'` up to its closing quote. -/
def closeUnicode (cs : List Char) : Scan (List Char) :=
  closeUnicodeAux (cs.length + 1) cs

/-! ### Dollar signs and comments -/

/-- Text up to `$$`; `afterDollar` tells that the character before was a dollar sign that is not
yet part of the text. -/
def closeDollar (afterDollar : Bool) : List Char → Option (List Char × List Char)
  | [] => none
  | c :: rest =>
    if afterDollar then
      if c = '$' then some ([], rest)
      else (closeDollar false rest).map fun (s, r) => ('$' :: c :: s, r)
    else if c = '$' then closeDollar true rest
    else (closeDollar false rest).map fun (s, r) => (c :: s, r)

/-- Text up to a closing fence. -/
def closeTagged (fence : List Char) : List Char → Option (List Char × List Char)
  | [] => none
  | c :: rest =>
    if fence.isPrefixOf (c :: rest) then some ([], (c :: rest).drop fence.length)
    else (closeTagged fence rest).map fun (s, r) => (c :: s, r)

/-- Text up to the end of a comment that is `depth + 1` comments deep. -/
def closeComment (depth : Nat) : List Char → Option (List Char × List Char)
  | [] => none
  | '/' :: '*' :: rest => (closeComment (depth + 1) rest).map fun (s, r) => ('/' :: '*' :: s, r)
  | '*' :: '/' :: rest =>
    match depth with
    | 0 => some ([], rest)
    | depth + 1 => (closeComment depth rest).map fun (s, r) => ('*' :: '/' :: s, r)
  | c :: rest => (closeComment depth rest).map fun (s, r) => (c :: s, r)

end Scan

end RowShape.Sql
