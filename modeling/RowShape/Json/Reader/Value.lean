import RowShape.Json.Reader.Scalar
import RowShape.Json.Value

/-!
# Reading values of any type, and passing over them

Values that nobody wants are passed over with less care: they may be nested to any depth, and of
their strings and numbers only the form is looked at.

## Main definitions

* `Reader.value`: reads a value of any type.
* `Reader.ignored`: passes over a value.
* `Json.parse`: the value of a text.
-/

namespace RowShape.Json.Reader

/-! ### Values of any type -/

/-- Reads the items of an array behind its bracket. -/
def itemsRest (p : Reader Json) : Reader Json := do
  let found ← foldItems (fun found => return (← p) :: found) []
  return .array found.reverse

/-- Reads the members of an object behind its brace; `p` reads what belongs to a name and adds it
to what is there before it. -/
def foldMembers {α : Type} (p : α → String → Reader α) (start : α) : Reader α := do
  let (_, a) ← iterate (fun (first, a) => do
    if ← nextMember first then
      skip
      let name ← textRest
      let b ← p a name
      return some (false, b)
    else return none) (true, start)
  skip
  return a

/-- Reads the members of an object behind its brace. -/
def membersRest (p : Reader Json) : Reader Json := do
  let found ← foldMembers (fun found name => do
    colon
    return (name, ← p) :: found) []
  return .object found.reverse

/-- Reads a value that is neither an array nor an object. -/
def scalar (c : Char) : Reader Json := do
  match c with
  | 'n' =>
    word ['u', 'l', 'l']
    return .null
  | 't' =>
    word ['r', 'u', 'e']
    return .bool true
  | 'f' =>
    word ['a', 'l', 's', 'e']
    return .bool false
  | '"' =>
    skip
    return .string (← textRest)
  | c => if c == '-' || c.isDigit then return .number (← numberToken) else throw .expectedValue

/-- Reads a value; `inner` reads the values inside it. -/
def valueWith (inner : Option (Reader Json)) : Reader Json := fromToken fun c => do
  let open? (p : Reader Json → Reader Json) : Reader Json := do
    skip
    match inner with
    | none => throw .tooDeep
    | some q => p q
  match c with
  | '[' => open? itemsRest
  | '{' => open? membersRest
  | c => scalar c

/-- Reads a value in which arrays and objects are nested at most `n` deep. -/
def valueAt : Nat → Reader Json
  | 0 => valueWith none
  | n + 1 => valueWith (some (valueAt n))

/-- Reads a value of any type. -/
def value : Reader Json := fun depth => valueAt depth depth

/-! ### Passing over values -/

/-- Passes over the number whose digits are next. -/
def ignoredDigits : Reader Unit := do
  let ds ← digits
  if ds.isEmpty || (ds.head? == some '0' && 1 < ds.length) then throw .invalidNumber

/-- Passes over an exponent if one is next. -/
def ignoredExponent : Reader Unit := do
  match ← peek? with
  | some 'e' | some 'E' =>
    skip
    let sign ← peek?
    if sign == some '-' || sign == some '+' then skip
    if (← digits).isEmpty then throw .invalidNumber
  | _ => return ()

/-- Passes over a number behind its sign. -/
def ignoredNumber : Reader Unit := do
  ignoredDigits
  if (← peek?) == some '.' then
    skip
    if (← digits).isEmpty then throw .invalidNumber
  ignoredExponent

/-- Passes over the next character of a string; false at its closing quote. -/
def ignoredChar : Reader Bool := fun _ s =>
  match s with
  | [] => .error .endInString
  | '"' :: rest => .ok (false, rest)
  | '\\' :: 'u' :: rest => (hexEscape rest).map fun (_, rest) => (true, rest)
  | '\\' :: rest => (escapedChar rest).map fun (_, rest) => (true, rest)
  | c :: rest => if c.toNat < 0x20 then .error .controlCharacter else .ok (true, rest)

/-- Passes over a string behind its opening quote. -/
def ignoredText : Reader Unit :=
  iterate (fun _ => return if ← ignoredChar then some () else none) ()

/-- An array or object that is open. -/
inductive Frame where
  | list
  | object
  deriving DecidableEq

namespace Frame

/-- The character at the end. -/
def closing : Frame → Char
  | list => ']'
  | object => '}'

/-- The error where the text ends inside. -/
def endInside : Frame → ReadError
  | list => .endInList
  | object => .endInObject

/-- The error where neither a comma nor the end follows. -/
def expectedEnd : Frame → ReadError
  | list => .expectedItemEnd
  | object => .expectedMemberEnd

end Frame

/-- Passes over what stands before a value inside an array or object: the name, if it has one. -/
def ignoredName : Frame → Reader Unit
  | .list => pure ()
  | .object => do
    match ← token? with
    | none => throw .endInObject
    | some '"' =>
      skip
      ignoredText
      colon
    | some _ => throw .nameNotString

/-- Passes over the ends of arrays and objects behind a value, up to the next value.  Gives what is
open there, or nothing if all is closed. -/
def closeFrames : List Frame → Reader (Option (List Frame))
  | [] => pure none
  | f :: rest => do
    match ← token? with
    | none => throw f.endInside
    | some c =>
      if c == ',' then
        skip
        ignoredName f
        return some (f :: rest)
      else if c == f.closing then
        skip
        closeFrames rest
      else throw f.expectedEnd

/-- Passes over the beginning of an array or object up to its first value, or over all of it if it
is empty. -/
def openFrame (f : Frame) (frames : List Frame) : Reader (Option (List Frame)) := do
  skip
  match ← token? with
  | none => throw f.endInside
  | some c =>
    if c == f.closing then
      skip
      closeFrames frames
    else
      ignoredName f
      return some (f :: frames)

/-- Passes over a value, or the beginning of one, up to the next value. -/
def ignoredStep (frames : List Frame) : Reader (Option (List Frame)) := fromToken fun c => do
  match c with
  | '[' => openFrame .list frames
  | '{' => openFrame .object frames
  | 'n' =>
    word ['u', 'l', 'l']
    closeFrames frames
  | 't' =>
    word ['r', 'u', 'e']
    closeFrames frames
  | 'f' =>
    word ['a', 'l', 's', 'e']
    closeFrames frames
  | '"' =>
    skip
    ignoredText
    closeFrames frames
  | c =>
    if c == '-' then
      skip
      ignoredNumber
      closeFrames frames
    else if c.isDigit then
      ignoredNumber
      closeFrames frames
    else throw .expectedValue

/-- Passes over a value. -/
def ignored : Reader Unit := do
  let _ ← iterate ignoredStep []
  return ()

end Reader

/-- The value of a text. -/
def parse (text : String) : Except ReadError Json := Reader.value.run text

end RowShape.Json
