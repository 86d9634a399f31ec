import RowShape.Sql.Token.Mark
import RowShape.Sql.Token.Quoted
import RowShape.Text.Search

/-!
# From text to tokens

## Main definitions

* `Scan.number`, `Scan.word`, `Scan.dollar`: readers of single tokens.
* `Scan.next`: the token or blank at the front of a text.
* `tokenize`: all tokens of a text with their places.
-/

namespace RowShape.Sql

/-- What stands at the front of a text. -/
inductive Scanned where
  /-- A token. -/
  | token (t : Token)
  /-- A blank or a comment, in the form in which messages quote it. -/
  | blank (text : String)

namespace Scan

/-- Characters of a class from the front, and the rest. -/
def spanWhile (p : Char → Bool) (cs : List Char) : List Char × List Char :=
  (cs.takeWhile p, cs.dropWhile p)

/-! ### Numbers -/

/-- Digits of a class from the front; where the dialect groups digits, an underscore before a
hexadecimal digit counts as one. -/
def groupedDigits (d : Dialect) (digit : Char → Bool) : List Char → List Char × List Char
  | [] => ([], [])
  | c :: rest =>
    if digit c || (d.digitGroups && c == '_' && rest.head?.any fun x => (hexValue? x).isSome) then
      let (s, r) := groupedDigits d digit rest
      (c :: s, r)
    else ([], c :: rest)

/-- The exponent at the front, if a digit follows its mark and sign. -/
def exponent (cs : List Char) : List Char × List Char :=
  match cs with
  | e :: rest =>
    if e = 'e' ∨ e = 'E' then
      let (sign, afterSign) := match rest with
        | '+' :: r => (['+'], r)
        | '-' :: r => (['-'], r)
        | r => ([], r)
      match spanWhile Char.isDigit afterSign with
      | ([], _) => ([], cs)
      | (digits, r) => (e :: sign ++ digits, r)
    else ([], cs)
  | [] => ([], [])

/-- The number or period at the front of a text that begins with a digit or a period. -/
def number (d : Dialect) (cs : List Char) : Token × List Char :=
  let (whole, afterWhole) := groupedDigits d Char.isDigit cs
  match whole, afterWhole with
  | ['0'], 'x' :: rest =>
    let (digits, r) := groupedDigits d (fun c => (hexValue? c).isSome) rest
    (.literal (.hex (String.ofList digits)), r)
  | _, _ =>
    let (point, afterPoint) := match afterWhole with
      | '.' :: r => (['.'], r)
      | r => ([], r)
    let (fraction, afterFraction) := groupedDigits d Char.isDigit afterPoint
    if whole.isEmpty && fraction.isEmpty then (.mark ".", afterFraction)
    else
      let (power, afterPower) := exponent afterFraction
      let digits := String.ofList (whole ++ point ++ fraction ++ power)
      match afterPower with
      | 'L' :: r => (.literal (.number digits true), r)
      | r => (.literal (.number digits false), r)

/-! ### Words and parameters -/

/-- A word that begins with characters that are already read. -/
def word (d : Dialect) (start : List Char) (rest : List Char) : Token × List Char :=
  let (more, r) := spanWhile d.identPart rest
  (.ofWord (String.ofList (start ++ more)), r)

/-- What a dollar sign begins: text between dollar signs, or a parameter. -/
def dollar (rest : List Char) : Scan Scanned :=
  match rest with
  | '$' :: body =>
    match closeDollar false body with
    | some (s, r) => .ok (.token (.literal (.dollar none (String.ofList s))), r)
    | none => .error (.unterminatedDollarString, [])
  | _ =>
    let (tag, afterTag) := spanWhile (fun c => Text.isLetterOrNumeral c || c == '_') rest
    match afterTag with
    | '$' :: body =>
      match closeTagged ('$' :: tag ++ ['$']) body with
      | some (s, r) =>
        let tag? := if tag.isEmpty then none else some (String.ofList tag)
        .ok (.token (.literal (.dollar tag? (String.ofList s))), r)
      | none => .error (.unterminatedTaggedString, [])
    | _ => .ok (.token (.literal (.placeholder ("$" ++ String.ofList tag))), afterTag)

/-! ### Strings -/

/-- A string whose opening quote stands at the front of `cs`; a missing closing quote shows
there. -/
def string (make : String → Literal) (close : List Char → Option (List Char × List Char))
    (cs : List Char) : Scan Scanned :=
  match close (cs.drop 1) with
  | some (s, r) => .ok (.token (.literal (make (String.ofList s))), r)
  | none => .error (.unterminatedString, cs)

/-- A string that is announced by a letter in front of its quote, if the dialect knows that
letter. -/
def announcedString? (d : Dialect) (cs : List Char) : Option (Scan Scanned) :=
  match cs with
  | c :: '\'' :: rest =>
    let body := '\'' :: rest
    match c.toUpper with
    | 'N' => some (string .national (closeQuoted '\'') body)
    | 'X' => some (string .hex closeBackslashed body)
    | 'B' => if d.byteStrings then some (string (.bytes '\'') (closeQuoted '\'') body) else none
    | 'R' => if d.rawStrings then some (string (.raw '\'') (closeQuoted '\'') body) else none
    | 'E' =>
      if d.backslashStrings then
        some <| match closeEscaped rest with
          | some (s, r) => .ok (.token (.literal (.escaped (String.ofList s))), r)
          | none => .error (.unterminatedEscapedString, cs)
      else none
    | _ => none
  | c :: '"' :: rest =>
    let body := '"' :: rest
    match c.toUpper with
    | 'B' => if d.byteStrings then some (string (.bytes '"') (closeQuoted '"') body) else none
    | 'R' => if d.rawStrings then some (string (.raw '"') (closeQuoted '"') body) else none
    | _ => none
  | c :: '&' :: '\'' :: rest =>
    if c.toUpper = 'U' && d.unicodeStrings then
      some ((closeUnicode rest).map fun (s, r) =>
        (.token (.literal (.unicode (String.ofList s))), r))
    else none
  | _ => none

/-- An identifier in quotes. -/
def quotedIdent (opening : Char) (rest : List Char) : Scan Scanned :=
  match closeQuoted (closingQuote opening) rest with
  | some (s, r) => .ok (.token (.ofQuoted opening (String.ofList s)), r)
  | none => .error (.unterminatedIdentifier (closingQuote opening), opening :: rest)

/-! ### Blanks -/

/-- The rest of a line comment with the line break that ends it. -/
def lineComment (d : Dialect) (rest : List Char) : List Char × List Char :=
  let (s, r) := spanWhile (fun c => c != '\n' && !(c == '\r' && d == .postgres)) rest
  (s ++ r.take 1, r.drop 1)

/-! ### One token -/

/-- What `#` or `@` begins where it begins a word. -/
def sigilWord? (d : Dialect) (cs : List Char) : Option (Token × List Char) :=
  match cs with
  | '#' :: c :: rest =>
    if d.identStart '#' && c != '-' && c != '>' && c != ' ' then some (word d ['#', c] rest)
    else none
  | '@' :: '@' :: c :: rest =>
    if d.identStart '@' && c != ' ' then some (word d ['@', '@', c] rest) else none
  | '@' :: c :: rest =>
    if d.identStart '@' && !("@>? '\"`".contains c) then some (word d ['@', c] rest) else none
  | _ => none

/-- The token or blank at the front of a text.  `afterWord` tells that a word stands directly
before it. -/
def next (d : Dialect) (afterWord : Bool) (c : Char) (rest : List Char) : Scan Scanned :=
  let cs := c :: rest
  let token : Token × List Char → Scan Scanned := fun (t, r) => .ok (.token t, r)
  if c = ' ' ∨ c = '\t' ∨ c = '\n' then .ok (.blank c.toString, rest)
  else if c = '\r' then .ok (.blank "\n", if rest.head? = some '\n' then rest.drop 1 else rest)
  else match announcedString? d cs with
  | some result => result
  | none =>
    if c = '\'' then string .text (closeQuoted '\'') cs
    else if d.identQuotes.contains c then quotedIdent c rest
    else if c = '.' && rest.head? == some '_' then
      if afterWord then token (.mark ".", rest) else .error (.strayUnderscore, cs)
    else if c.isDigit || c == '.' then token (number d cs)
    else if c = '-' && rest.head? == some '-' then
      let (s, r) := lineComment d (rest.drop 1)
      .ok (.blank ("--" ++ String.ofList s), r)
    else if c = '/' && rest.head? == some '*' then
      match closeComment 0 (rest.drop 1) with
      | some (s, r) => .ok (.blank ("/*" ++ String.ofList s ++ "*/"), r)
      | none => .error (.unterminatedComment, [])
    else if c = '/' then
      if d.integerDivision && rest.head? == some '/' then token (.mark "//", rest.drop 1)
      else token (.mark "/", rest)
    else if c = '?' && !d.shapeOperators then
      let (digits, r) := spanWhile Text.isNumeral rest
      token (.literal (.placeholder ("?" ++ String.ofList digits)), r)
    else match sigilWord? d cs with
    | some result => token result
    | none =>
      match mark? d cs with
      | some (.ok result) => token result
      | some (.error fault) => .error fault
      | none =>
        if d.identStart c then token (word d [c] rest)
        else if c = '$' then dollar rest
        else if Text.isBlank c then .ok (.blank " ", rest)
        else token (.stray c, rest)

end Scan

/-! ### All tokens -/

/-- The tokens of a text that begins at a place.  `gap` is the first blank since the last token.
The first argument bounds the number of steps. -/
def tokenizeFrom (d : Dialect) :
    Nat → Position → Bool → Option (String × Position) → List Char →
      Except SyntaxError (List Lexeme)
  | _, _, _, gap, [] => .ok [⟨.endOfText, none, gap⟩]
  | 0, _, _, gap, _ => .ok [⟨.endOfText, none, gap⟩]
  | n + 1, place, afterWord, gap, c :: rest =>
    let placeOf (r : List Char) := place.afterAll ((c :: rest).take (rest.length + 1 - r.length))
    match Scan.next d afterWord c rest with
    | .error (fault, r) => .error ⟨fault, some (placeOf r)⟩
    | .ok (.blank s, r) =>
      tokenizeFrom d n (placeOf r) false (gap <|> some (s, place)) r
    | .ok (.token t, r) => do
      let isWord := match t with
        | .word _ _ => true
        | _ => false
      let more ← tokenizeFrom d n (placeOf r) isWord none r
      return ⟨t, some place, gap⟩ :: more

/-- The tokens of a text, the end of the text last. -/
def tokenize (d : Dialect) (text : String) : Except SyntaxError (List Lexeme) :=
  let cs := text.toList
  tokenizeFrom d (cs.length + 1) Position.first false none cs

end RowShape.Sql
