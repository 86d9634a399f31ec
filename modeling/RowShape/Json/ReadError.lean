import RowShape.Json.Number
import RowShape.Metadata.Timestamp
import RowShape.Text.Printable

/-!
# Errors in JSON texts

Why a text cannot be read as a value of some kind.  Where in the text the reader stopped, its line
and its column, is left out.

## Main definitions

* `Found`: what stands where something else was due.
* `ReadError`: the causes.
* `ReadError.message`: their wording.
-/

namespace RowShape.Json

/-- What stands in a text where something else was due. -/
inductive Found where
  | null
  | boolean (b : Bool)
  | number (n : Number)
  | text (s : String)
  | sequence
  | map

/-- The wording of what was found. -/
def Found.describe : Found → String
  | null => "null"
  | boolean b => "boolean `" ++ (if b then "true" else "false") ++ "`"
  | number (.integer n) => "integer `" ++ toString n ++ "`"
  | number (.double x) => "floating point `" ++ renderDouble x ++ "`"
  | text s => "string " ++ Text.quoteVisibly s
  | sequence => "sequence"
  | map => "map"

/-- Why a text cannot be read. -/
inductive ReadError where
  /-- The text ends where a value is due or inside a word or number. -/
  | endInValue
  /-- The text ends inside an object. -/
  | endInObject
  /-- The text ends inside an array. -/
  | endInList
  /-- The text ends inside a string. -/
  | endInString
  /-- No value begins like this. -/
  | expectedValue
  /-- A word is not `null`, `true` or `false`. -/
  | expectedWord
  /-- A name has no colon behind it. -/
  | expectedColon
  /-- An item is followed neither by a comma nor by the end of the array. -/
  | expectedItemEnd
  /-- A member is followed neither by a comma nor by the end of the object. -/
  | expectedMemberEnd
  /-- The name of a member is not a string. -/
  | nameNotString
  /-- A comma stands before the end of an array or object. -/
  | trailingComma
  /-- Something follows the value. -/
  | trailingCharacters
  /-- A number is malformed. -/
  | invalidNumber
  /-- A number is too large. -/
  | numberOutOfRange
  /-- A backslash is followed by no escape. -/
  | invalidEscape
  /-- The first half of a pair of escapes stands alone. -/
  | unfinishedPair
  /-- The second half of a pair of escapes stands alone. -/
  | loneHalf
  /-- A control character stands in a string as itself. -/
  | controlCharacter
  /-- Arrays and objects are nested too deep. -/
  | tooDeep
  /-- A member that a record has to have is missing. -/
  | missingField (name : String)
  /-- A member of a record is there twice. -/
  | duplicateField (name : String)
  /-- A word is none of those that are known. -/
  | unknownVariant (word : String) (known : List String)
  /-- A value is of another type than it has to be. -/
  | invalidType (found : Found) (expected : String)
  /-- A value has the right type and does not fit. -/
  | invalidValue (found : Found) (expected : String)
  /-- An array is too short or too long. -/
  | invalidLength (length : Nat) (expected : String)
  /-- A text is no timestamp. -/
  | timestamp (fault : Timestamp.Fault)

namespace ReadError

/-- The words that are known, as an enumeration. -/
def describeKnown (words : List String) : String :=
  match words.map fun w => "`" ++ w ++ "`" with
  | [] => "there are no variants"
  | [w] => "expected " ++ w
  | [v, w] => "expected " ++ v ++ " or " ++ w
  | ws => "expected one of " ++ ", ".intercalate ws

/-- The wording of a cause, without the line and the column that a full message ends with. -/
def message : ReadError → String
  | endInValue => "EOF while parsing a value"
  | endInObject => "EOF while parsing an object"
  | endInList => "EOF while parsing a list"
  | endInString => "EOF while parsing a string"
  | expectedValue => "expected value"
  | expectedWord => "expected ident"
  | expectedColon => "expected `:`"
  | expectedItemEnd => "expected `,` or `]`"
  | expectedMemberEnd => "expected `,` or `\x7d`"
  | nameNotString => "key must be a string"
  | trailingComma => "trailing comma"
  | trailingCharacters => "trailing characters"
  | invalidNumber => "invalid number"
  | numberOutOfRange => "number out of range"
  | invalidEscape => "invalid escape"
  | unfinishedPair => "unexpected end of hex escape"
  | loneHalf => "lone leading surrogate in hex escape"
  | controlCharacter =>
    "control character (\\u0000-\\u001F) found while parsing a string"
  | tooDeep => "recursion limit exceeded"
  | missingField name => "missing field `" ++ name ++ "`"
  | duplicateField name => "duplicate field `" ++ name ++ "`"
  | unknownVariant word known => "unknown variant `" ++ word ++ "`, " ++ describeKnown known
  | invalidType found expected =>
    "invalid type: " ++ found.describe ++ ", expected " ++ expected
  | invalidValue found expected =>
    "invalid value: " ++ found.describe ++ ", expected " ++ expected
  | invalidLength length expected =>
    "invalid length " ++ toString length ++ ", expected " ++ expected
  | timestamp fault => fault.message

end ReadError

end RowShape.Json
