import RowShape.Json.Number

/-!
# JSON values

Values with the members of objects in the order of the text, and their canonical form.

## Main definitions

* `Json`: values.
* `Json.member?`: a member of an object; of several with one name the last one counts.
* `Json.canonical`: every object with its members in the order of their names, each once.
-/

namespace RowShape

open Json (Number)

/-- A JSON value. -/
inductive Json where
  /-- `null`. -/
  | null
  /-- `true` or `false`. -/
  | bool (b : Bool)
  /-- A number. -/
  | number (n : Number)
  /-- A text. -/
  | string (s : String)
  /-- A list of values. -/
  | array (items : List Json)
  /-- Named values, in the order in which they are written. -/
  | object (members : List (String × Json))
  deriving Inhabited

namespace Json

/-! ### Parts -/

/-- The text of a string. -/
def string? : Json → Option String
  | string s => some s
  | _ => none

/-- The items of an array. -/
def array? : Json → Option (List Json)
  | array items => some items
  | _ => none

/-- The members of an object. -/
def object? : Json → Option (List (String × Json))
  | object members => some members
  | _ => none

/-- The last value that has a name. -/
def lastValue? (name : String) : List (String × Json) → Option Json
  | [] => none
  | m :: rest => lastValue? name rest <|> if m.1 = name then some m.2 else none

/-- The value of a member of an object. -/
def member? (name : String) (v : Json) : Option Json :=
  v.object?.bind (lastValue? name)

/-! ### Canonical form -/

/-- Puts a member at its place in a list in the order of names, instead of one with the same
name. -/
def putMember (name : String) (value : Json) : List (String × Json) → List (String × Json)
  | [] => [(name, value)]
  | m :: rest =>
    if m.1 = name then (name, value) :: rest
    else if name < m.1 then (name, value) :: m :: rest
    else m :: putMember name value rest

/-- Members in the order of their names, each with the last value of its name. -/
def sortMembers (members : List (String × Json)) : List (String × Json) :=
  members.foldl (fun sorted m => putMember m.1 m.2 sorted) []

mutual

/-- The same value with the members of every object in the order of their names, each once with its
last value. -/
def canonical : Json → Json
  | null => null
  | bool b => bool b
  | number n => number n
  | string s => string s
  | array items => array (canonicalItems items)
  | object members => object (sortMembers (canonicalMembers members))

/-- The canonical forms of the items of an array. -/
def canonicalItems : List Json → List Json
  | [] => []
  | v :: rest => v.canonical :: canonicalItems rest

/-- Members with canonical values. -/
def canonicalMembers : List (String × Json) → List (String × Json)
  | [] => []
  | (name, v) :: rest => (name, v.canonical) :: canonicalMembers rest

end

end Json

end RowShape
