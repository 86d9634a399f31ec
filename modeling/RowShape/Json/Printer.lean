import RowShape.Json.Value

/-!
# Writing JSON

## Main definitions

* `escapeChar`, `quote`: a text between double quotes.
* `Json.compact`: a value on one line without spaces.
* `Json.pretty`: a value with one member or item a line, indented by two spaces a level.
-/

namespace RowShape.Json

/-! ### Quoted text -/

/-- The digit of a number below 16, in lower case. -/
def hexDigit (n : Nat) : Char := Nat.digitChar n

/-- One character between quotes: the quote, the backslash and control characters are escaped, all
others stand for themselves. -/
def escapeChar (c : Char) : List Char :=
  match c with
  | '"' => ['\\', '"']
  | '\\' => ['\\', '\\']
  | '\n' => ['\\', 'n']
  | '\r' => ['\\', 'r']
  | '\t' => ['\\', 't']
  | '\x08' => ['\\', 'b']
  | '\x0c' => ['\\', 'f']
  | c =>
    if c.toNat < 0x20 then ['\\', 'u', '0', '0', hexDigit (c.toNat / 16), hexDigit (c.toNat % 16)]
    else [c]

/-- A text between double quotes. -/
def quoteChars (cs : List Char) : List Char :=
  '"' :: cs.flatMap escapeChar ++ ['"']

/-- A text between double quotes. -/
def quote (s : String) : String := String.ofList (quoteChars s.toList)

/-! ### Compact text -/

mutual

/-- The text of a value without spaces. -/
def compact : Json → String
  | null => "null"
  | bool b => if b then "true" else "false"
  | number n => n.render
  | string s => quote s
  | array [] => "[]"
  | array (v :: rest) => "[" ++ v.compact ++ compactItems rest ++ "]"
  | object [] => "\x7b\x7d"
  | object ((name, v) :: rest) =>
    "\x7b" ++ quote name ++ ":" ++ v.compact ++ compactMembers rest ++ "\x7d"

/-- Further items. -/
def compactItems : List Json → String
  | [] => ""
  | v :: rest => "," ++ v.compact ++ compactItems rest

/-- Further members. -/
def compactMembers : List (String × Json) → String
  | [] => ""
  | (name, v) :: rest => "," ++ quote name ++ ":" ++ v.compact ++ compactMembers rest

end

/-! ### Indented text -/

/-- A new line of a nesting level. -/
def newLine (level : Nat) : String := String.ofList ('\n' :: List.replicate (2 * level) ' ')

mutual

/-- The indented text of a value on a nesting level. -/
def prettyAt (level : Nat) : Json → String
  | null => "null"
  | bool b => if b then "true" else "false"
  | number n => n.render
  | string s => quote s
  | array [] => "[]"
  | array (v :: rest) =>
    "[" ++ newLine (level + 1) ++ v.prettyAt (level + 1) ++ prettyItems (level + 1) rest ++
      newLine level ++ "]"
  | object [] => "\x7b\x7d"
  | object ((name, v) :: rest) =>
    "\x7b" ++ newLine (level + 1) ++ quote name ++ ": " ++ v.prettyAt (level + 1) ++
      prettyMembers (level + 1) rest ++ newLine level ++ "\x7d"

/-- Further items, each on its line. -/
def prettyItems (level : Nat) : List Json → String
  | [] => ""
  | v :: rest => "," ++ newLine level ++ v.prettyAt level ++ prettyItems level rest

/-- Further members, each on its line. -/
def prettyMembers (level : Nat) : List (String × Json) → String
  | [] => ""
  | (name, v) :: rest =>
    "," ++ newLine level ++ quote name ++ ": " ++ v.prettyAt level ++ prettyMembers level rest

end

/-- The indented text of a value. -/
def pretty (v : Json) : String := v.prettyAt 0

end RowShape.Json
