import RowShape.Json.Reader

/-!
# Reading strings and numbers

## Main definitions

* `Reader.textRest`: a string behind its opening quote.
* `Reader.numberToken`: a number.
* `Reader.mismatch`: the error for a value of the wrong type.
* `Reader.string`, `Reader.boolean`, `Reader.nullable`: values of simple types.
-/

namespace RowShape.Json.Reader

variable {α : Type}

/-! ### Strings -/

/-- The number that a hexadecimal digit stands for. -/
def hexValue? (c : Char) : Option Nat :=
  if c.isDigit then some (c.toNat - '0'.toNat)
  else if 'a' ≤ c ∧ c ≤ 'f' then some (c.toNat - 'a'.toNat + 10)
  else if 'A' ≤ c ∧ c ≤ 'F' then some (c.toNat - 'A'.toNat + 10)
  else none

/-- The four hexadecimal digits of an escape.  Less than four bytes are an unfinished string. -/
def hexEscape : List Char → Except ReadError (Nat × List Char)
  | a :: b :: c :: d :: rest =>
    match hexValue? a, hexValue? b, hexValue? c, hexValue? d with
    | some i, some j, some k, some l => .ok (((i * 16 + j) * 16 + k) * 16 + l, rest)
    | _, _, _, _ => .error .invalidEscape
  | short =>
    .error (if (String.ofList short).utf8ByteSize < 4 then .endInString else .invalidEscape)

/-- The first halves of the pairs that stand for one code point. -/
def isFirstHalf (n : Nat) : Bool := 0xD800 ≤ n && n ≤ 0xDBFF

/-- The second halves of the pairs that stand for one code point. -/
def isSecondHalf (n : Nat) : Bool := 0xDC00 ≤ n && n ≤ 0xDFFF

/-- The character of an escape by number, behind its `\u`.  A character outside the first 65536
takes a pair of escapes. -/
def numberedChar (s : List Char) : Except ReadError (Char × List Char) := do
  let (n, rest) ← hexEscape s
  if isSecondHalf n then throw .loneHalf
  else if isFirstHalf n then
    match rest with
    | [] | ['\\'] => throw .endInString
    | '\\' :: 'u' :: more =>
      let (m, rest) ← hexEscape more
      if isSecondHalf m then
        return (Char.ofNat (0x10000 + (n - 0xD800) * 0x400 + (m - 0xDC00)), rest)
      else throw .loneHalf
    | _ => throw .unfinishedPair
  else return (Char.ofNat n, rest)

/-- The character of an escape behind its backslash. -/
def escapedChar : List Char → Except ReadError (Char × List Char)
  | [] => .error .endInString
  | '"' :: rest => .ok ('"', rest)
  | '\\' :: rest => .ok ('\\', rest)
  | '/' :: rest => .ok ('/', rest)
  | 'b' :: rest => .ok ('\x08', rest)
  | 'f' :: rest => .ok ('\x0c', rest)
  | 'n' :: rest => .ok ('\n', rest)
  | 'r' :: rest => .ok ('\r', rest)
  | 't' :: rest => .ok ('\t', rest)
  | 'u' :: rest => numberedChar rest
  | _ => .error .invalidEscape

/-- Takes the next character of a string, or its closing quote. -/
def textChar? : Reader (Option Char) := fun _ s =>
  match s with
  | [] => .error .endInString
  | '"' :: rest => .ok (none, rest)
  | '\\' :: rest => (escapedChar rest).map fun (c, rest) => (some c, rest)
  | c :: rest => if c.toNat < 0x20 then .error .controlCharacter else .ok (some c, rest)

/-- Takes a string behind its opening quote. -/
def textRest : Reader String := do
  let found ← iterate (fun found => return (← textChar?).map (· :: found)) []
  return String.ofList found.reverse

/-! ### Numbers -/

/-- The largest whole number that is read exactly. -/
def largestWhole : Nat := Nat.pow 2 64 - 1

/-- The largest exponent that is read exactly. -/
def largestExponent : Nat := Nat.pow 2 31 - 1

/-- The value of a digit. -/
def digitValue (c : Char) : Nat := c.toNat - '0'.toNat

/-- Takes the digits that are next. -/
def digits : Reader (List Char) := fun _ s =>
  .ok (s.takeWhile Char.isDigit, s.dropWhile Char.isDigit)

/-- Adds digits to a number as long as it does not grow beyond a bound.  Gives the number and how
many digits are left. -/
def appendDigits (bound : Nat) : Nat → List Char → Nat × Nat
  | n, [] => (n, 0)
  | n, d :: rest =>
    let m := n * 10 + digitValue d
    if bound < m then (n, rest.length + 1) else appendDigits bound m rest

/-- A digit has to be next. -/
def requireDigit : Reader Unit := do
  match ← peek? with
  | none => throw .endInValue
  | some c => if c.isDigit then return () else throw .invalidNumber

/-- The double-precision number of a sign, a significand and an exponent. -/
def double (negative : Bool) (significand : Nat) (exponent : Int) : Reader Number :=
  match scaled significand exponent with
  | some x => pure (.double (if negative then -x else x))
  | none => throw .numberOutOfRange

/-- Takes the exponent behind its letter.  One that is too large makes the number zero, or too large
itself. -/
def exponentRest (negative : Bool) (significand : Nat) (start : Int) : Reader Number := do
  let sign ← peek?
  let down := sign == some '-'
  if down || sign == some '+' then skip
  requireDigit
  let (e, left) := appendDigits largestExponent 0 (← digits)
  if 0 < left then
    if significand ≠ 0 ∧ !down then throw .numberOutOfRange
    else return .double (if negative then -0.0 else 0.0)
  else double negative significand (if down then start - e else start + e)

/-- Takes an exponent if one is next, and gives the number. -/
def exponent? (negative : Bool) (significand : Nat) (start : Int) : Reader Number := do
  match ← peek? with
  | some 'e' | some 'E' =>
    skip
    exponentRest negative significand start
  | _ => double negative significand start

/-- Takes the fraction behind its point, and gives the number.  Digits that the significand has no
room for are left out. -/
def fractionRest (negative : Bool) (significand : Nat) (start : Int) : Reader Number := do
  let ds ← digits
  if ds.isEmpty then
    throw (if (← peek?).isSome then .invalidNumber else .endInValue)
  let (n, left) := appendDigits largestWhole significand ds
  exponent? negative n (start - (ds.length - left : Nat))

/-- A whole number, or the double-precision number if it has no room in 64 bits; a negative zero is
of double precision. -/
def whole (negative : Bool) (n : Nat) : Number :=
  if !negative then .integer n
  else if n = 0 ∨ Nat.pow 2 63 < n then .double (-(Float.ofNat n))
  else .integer (-(n : Int))

/-- Takes a number behind its sign. -/
def unsigned (negative : Bool) : Reader Number := do
  requireDigit
  let ds ← digits
  if ds.head? == some '0' && 1 < ds.length then throw .invalidNumber
  let (n, left) := appendDigits largestWhole 0 ds
  match ← peek? with
  | some '.' =>
    skip
    fractionRest negative n left
  | some 'e' | some 'E' =>
    skip
    exponentRest negative n left
  | _ => if left = 0 then return whole negative n else double negative n left

/-- Takes a number. -/
def numberToken : Reader Number := do
  if (← peek?) == some '-' then
    skip
    unsigned true
  else unsigned false

/-! ### Values of simple types -/

/-- Takes a word whose first letter is next. -/
def word (rest : List Char) : Reader Unit := do
  skip
  wordRest rest

/-- What is next where something else is due.  Arrays and objects are not looked into. -/
def found : Reader Found := do
  match ← peek? with
  | some 'n' =>
    word ['u', 'l', 'l']
    return .null
  | some 't' =>
    word ['r', 'u', 'e']
    return .boolean true
  | some 'f' =>
    word ['a', 'l', 's', 'e']
    return .boolean false
  | some '"' =>
    skip
    return .text (← textRest)
  | some '[' => return .sequence
  | some '{' => return .map
  | some c =>
    if c == '-' || c.isDigit then return .number (← numberToken) else throw .expectedValue
  | none => throw .expectedValue

/-- Fails because the value that is next is not of the type that is due. -/
def mismatch (expected : String) : Reader α := do
  throw (.invalidType (← found) expected)

/-- Reads a value that begins with a token. -/
def fromToken (p : Char → Reader α) : Reader α := do
  match ← token? with
  | none => throw .endInValue
  | some c => p c

/-- Reads a string that has to stand for something. -/
def stringFor (expected : String) : Reader String := fromToken fun c => do
  if c == '"' then
    skip
    textRest
  else mismatch expected

/-- Reads a string. -/
def string : Reader String := stringFor "a string"

/-- Reads `true` or `false`. -/
def boolean : Reader Bool := fromToken fun c => do
  match c with
  | 't' =>
    word ['r', 'u', 'e']
    return true
  | 'f' =>
    word ['a', 'l', 's', 'e']
    return false
  | _ => mismatch "a boolean"

/-- Reads `null` as nothing, and all else with a reader. -/
def nullable (p : Reader α) : Reader (Option α) := do
  match ← token? with
  | some 'n' =>
    word ['u', 'l', 'l']
    return none
  | _ => return some (← p)

/-- Reads an array, item by item. -/
def list (p : Reader α) : Reader (List α) := fromToken fun c => do
  if c == '[' then
    skip
    let found ← nested (foldItems (fun found => return (← p) :: found) [])
    return found.reverse
  else mismatch "a sequence"

/-- Reads a timestamp. -/
def timestamp : Reader Timestamp := do
  match Timestamp.parse (← stringFor "an RFC 3339 formatted date and time string") with
  | .ok t => return t
  | .error fault => throw (.timestamp fault)

end RowShape.Json.Reader
