import RowShape.Json.ReadError

/-!
# Readers

Readers take characters from the front of a text and fail with the first thing that is wrong with
it.  How deep arrays and objects may still be nested is known to every reader.

## Main definitions

* `Reader`: a reader of values of a type.
* `Reader.peek?`, `Reader.token?`: the next character, and the next one that is no blank.
* `Reader.nested`: a reader one level deeper.
* `Reader.nextItem`, `Reader.nextMember`: the way through arrays and objects.
* `Reader.run`: reads a whole text.
-/

namespace RowShape.Json

/-- A reader: it knows how many arrays and objects may still be opened inside one another, takes
characters, and gives a value or an error. -/
abbrev Reader (α : Type) := ReaderT Nat (StateT (List Char) (Except ReadError)) α

namespace Reader

variable {α β : Type}

/-! ### Characters -/

/-- A blank between tokens. -/
def isSpace (c : Char) : Bool := c == ' ' || c == '\n' || c == '\t' || c == '\r'

/-- The next character, which stays. -/
def peek? : Reader (Option Char) := fun _ s => .ok (s.head?, s)

/-- Takes the next character. -/
def skip : Reader Unit := fun _ s => .ok ((), s.drop 1)

/-- Takes the blanks that are next. -/
def skipSpaces : Reader Unit := fun _ s => .ok ((), s.dropWhile isSpace)

/-- The next character that is no blank, which stays; the blanks before it are taken. -/
def token? : Reader (Option Char) := do
  skipSpaces
  peek?

/-- Takes the rest of a word. -/
def wordRest (rest : List Char) : Reader Unit :=
  match rest with
  | [] => pure ()
  | c :: more => do
    match ← peek? with
    | none => throw .endInValue
    | some d =>
      skip
      if d = c then wordRest more else throw .expectedWord

/-! ### Nesting -/

/-- A reader inside an array or object.  It fails if that is nested too deep. -/
def nested (p : Reader α) : Reader α := fun depth =>
  match depth with
  | 0 => throw .tooDeep
  | n + 1 => p n

/-- How many arrays and objects may be open inside one another. -/
def depthLimit : Nat := 127

/-! ### Arrays and objects -/

/-- Another item of an array follows.  The comma before an item that is not the first is taken, the
end of the array stays. -/
def nextItem (first : Bool) : Reader Bool := do
  match ← token? with
  | none => throw .endInList
  | some ']' => return false
  | some c =>
    if first then return true
    else if c == ',' then
      skip
      match ← token? with
      | none => throw .endInValue
      | some ']' => throw .trailingComma
      | some _ => return true
    else throw .expectedItemEnd

/-- Takes the end of an array. -/
def endList : Reader Unit := do
  match ← token? with
  | none => throw .endInList
  | some ']' => skip
  | some ',' =>
    skip
    if (← token?) == some ']' then throw .trailingComma else throw .trailingCharacters
  | some _ => throw .trailingCharacters

/-- Another member of an object follows.  The comma before a member that is not the first is taken,
the end of the object stays. -/
def nextMember (first : Bool) : Reader Bool := do
  match ← token? with
  | none => throw .endInObject
  | some '}' => return false
  | some c =>
    if first then
      if c == '"' then return true else throw .nameNotString
    else if c == ',' then
      skip
      match ← token? with
      | none => throw .endInValue
      | some '"' => return true
      | some '}' => throw .trailingComma
      | some _ => throw .nameNotString
    else throw .expectedMemberEnd

/-- Takes the colon between a name and its value. -/
def colon : Reader Unit := do
  match ← token? with
  | none => throw .endInObject
  | some ':' => skip
  | some _ => throw .expectedColon

/-- Repeats a step at most `n` times, until it gives nothing. -/
def iterateAtMost (step : α → Reader (Option α)) : Nat → α → Reader α
  | 0, a => pure a
  | n + 1, a => do
    match ← step a with
    | none => return a
    | some b => iterateAtMost step n b

/-- Repeats a step until it gives nothing, at most as often as there are characters. -/
def iterate (step : α → Reader (Option α)) (a : α) : Reader α := fun depth s =>
  iterateAtMost step (s.length + 1) a depth s

/-- Reads the items of an array behind its bracket; `p` reads an item and adds it to what is there
before it. -/
def foldItems (p : α → Reader α) (start : α) : Reader α := do
  let (_, a) ← iterate (fun (first, a) => do
    if ← nextItem first then
      let b ← p a
      return some (false, b)
    else return none) (true, start)
  endList
  return a

/-! ### Whole texts -/

/-- Reads a value that makes up a whole text. -/
def run (p : Reader α) (text : String) : Except ReadError α := do
  let (a, rest) ← p depthLimit text.toList
  if (rest.dropWhile isSpace).isEmpty then return a else throw .trailingCharacters

end Reader

end RowShape.Json
