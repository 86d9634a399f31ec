import RowShape.Json.Reader.Value
import RowShape.OrderedMap

/-!
# Records and maps

Structures that are written as objects, or as arrays of their fields in order, and objects whose
names are free.

A record is read into a partial one, field by field.  In an object unknown members are passed over,
no field may come twice, and missing ones are noticed in the end; an array may leave out fields
that have a default.  In a map every member is an entry, and a name that comes again gives its entry
another value.

## Main definitions

* `Field`: a field of a partial record.
* `RecordFormat`: the fields, and how a partial record is finished.
* `RecordFormat.reader`: reading a record from a text.
* `RecordFormat.decode`: reading a record from a value.
* `Enumeration`: types whose values are words.
* `Reader.map`, `OrderedMap.toJson`: reading and writing a map.
-/

namespace RowShape.Json

variable {ρ : Type → Type} {σ α β : Type}

/-! ### Fields -/

/-- A field of a record that is read into `σ`; `ρ` is how a value is read. -/
structure Field (ρ : Type → Type) (σ : Type) where
  /-- The name of the member. -/
  name : String
  /-- An array may end before the field. -/
  hasDefault : Bool
  /-- The field has been read. -/
  isRead : σ → Bool
  /-- Reads the value. -/
  read : σ → ρ σ

/-- A field with a value of its own, which is read by `p`. -/
def Field.of [Functor ρ] (name : String) (hasDefault : Bool) (get : σ → Option β)
    (put : β → σ → σ) (p : ρ β) : Field ρ σ :=
  ⟨name, hasDefault, fun s => (get s).isSome, fun s => (fun b => put b s) <$> p⟩

/-- How a record of type `α` is read into a partial one of type `σ`. -/
structure RecordFormat (ρ : Type → Type) (σ α : Type) where
  /-- The name in messages. -/
  name : String
  /-- The fields in order. -/
  fields : List (Field ρ σ)
  /-- The partial record without fields. -/
  start : σ
  /-- The record, unless a field is missing. -/
  finish : σ → Except ReadError α

/-- A field that has to be there. -/
def required (name : String) (found : Option β) : Except ReadError β :=
  match found with
  | some b => .ok b
  | none => .error (.missingField name)

/-- A number of things. -/
def counted (n : Nat) (thing : String) : String :=
  toString n ++ " " ++ thing ++ if n = 1 then "" else "s"

namespace RecordFormat

/-- The error of an array that ends before a field, if that has no default.  The fields are those
from the `i`-th on. -/
def tooShort? (f : RecordFormat ρ σ α) (i : Nat) (rest : List (Field ρ σ)) : Option ReadError :=
  (rest.findIdx? (!·.hasDefault)).map fun j =>
    .invalidLength (i + j) (f.name ++ " with " ++ counted f.fields.length "element")

/-! ### Reading from a text -/

/-- Reads the items of an array as the fields from the `i`-th on. -/
def readItems (f : RecordFormat Reader σ α) : Nat → List (Field Reader σ) → σ → Reader σ
  | _, [], s => pure s
  | i, field :: rest, s => do
    if ← Reader.nextItem (i == 0) then
      let t ← field.read s
      f.readItems (i + 1) rest t
    else match f.tooShort? i (field :: rest) with
      | some e => throw e
      | none => return s

/-- Reads a member of an object behind its name. -/
def readMember (f : RecordFormat Reader σ α) (s : σ) (name : String) : Reader σ := do
  match f.fields.find? (·.name == name) with
  | some field =>
    if field.isRead s then throw (.duplicateField name)
    Reader.colon
    field.read s
  | none =>
    Reader.colon
    Reader.ignored
    return s

/-- Reads a record. -/
def reader (f : RecordFormat Reader σ α) : Reader α := Reader.fromToken fun c => do
  match c with
  | '[' =>
    Reader.skip
    let a ← Reader.nested do
      f.finish (← f.readItems 0 f.fields f.start)
    Reader.endList
    return a
  | '{' =>
    Reader.skip
    Reader.nested do
      f.finish (← Reader.foldMembers f.readMember f.start)
  | _ => Reader.mismatch f.name

end RecordFormat

/-! ### Reading from a value -/

/-- Reads a value that is there already. -/
abbrev Decoder (α : Type) := ReaderT Json (Except ReadError) α

/-- What a value is in messages. -/
def asFound : Json → Found
  | .null => .null
  | .bool b => .boolean b
  | .number n => .number n
  | .string s => .text s
  | .array _ => .sequence
  | .object _ => .map

namespace Decoder

/-- Fails because a value is not of the type that is due. -/
def mismatch (expected : String) : Decoder α := fun v =>
  .error (.invalidType (asFound v) expected)

/-- A string. -/
def string : Decoder String := fun v =>
  match v with
  | .string s => .ok s
  | v => mismatch "a string" v

/-- `null` as nothing, and all else with a decoder. -/
def nullable (p : Decoder α) : Decoder (Option α) := fun v =>
  match v with
  | .null => .ok none
  | v => (p v).map some

end Decoder

namespace RecordFormat

/-- The fields of an array, from the `i`-th on. -/
def decodeItems (f : RecordFormat Decoder σ α) :
    Nat → List (Field Decoder σ) → List Json → σ → Except ReadError σ
  | _, [], _, s => .ok s
  | i, fields, [], s =>
    match f.tooShort? i fields with
    | some e => .error e
    | none => .ok s
  | i, field :: rest, v :: vs, s => do
    let t ← field.read s v
    f.decodeItems (i + 1) rest vs t

/-- A member of an object. -/
def decodeMember (f : RecordFormat Decoder σ α) (s : σ) (m : String × Json) :
    Except ReadError σ :=
  match f.fields.find? (·.name == m.1) with
  | some field => if field.isRead s then .error (.duplicateField m.1) else field.read s m.2
  | none => .ok s

/-- Reads a record from a value. -/
def decode (f : RecordFormat Decoder σ α) : Decoder α := fun v =>
  match v with
  | .array items => do
    let a ← f.finish (← f.decodeItems 0 f.fields items f.start)
    if f.fields.length < items.length then
      throw (.invalidLength items.length (counted f.fields.length "element" ++ " in sequence"))
    return a
  | .object members => do
    f.finish (← members.foldlM f.decodeMember f.start)
  | v => Decoder.mismatch f.name v

end RecordFormat

/-! ### Enumerations -/

/-- The values of a type with the words they are written as. -/
abbrev Enumeration (α : Type) := List (String × α)

namespace Enumeration

/-- The value of a word. -/
def ofWord (e : Enumeration α) (word : String) : Except ReadError α :=
  match e.lookup word with
  | some a => .ok a
  | none => .error (.unknownVariant word (e.map (·.1)))

/-- Reads a word, or an object that has a word as its only name and `null` as its value. -/
def reader (e : Enumeration α) : Reader α := Reader.fromToken fun c => do
  match c with
  | '"' =>
    Reader.skip
    e.ofWord (← Reader.textRest)
  | '{' =>
    Reader.skip
    let a ← Reader.nested do
      let a ← e.ofWord (← Reader.stringFor "variant identifier")
      Reader.colon
      Reader.fromToken fun c =>
        if c == 'n' then Reader.word ['u', 'l', 'l'] else Reader.mismatch "unit"
      return a
    match ← Reader.token? with
    | some '}' =>
      Reader.skip
      return a
    | some _ => throw .expectedValue
    | none => throw .endInObject
  | _ => throw .expectedValue

/-- Reads a word from a value, or an object with a word as its only name and an empty value. -/
def decode (e : Enumeration α) : Decoder α := fun v =>
  match v with
  | .string s => e.ofWord s
  | .object [(name, v)] => do
    let a ← e.ofWord name
    match v with
    | .null | .object [] => return a
    | v => Decoder.mismatch "unit" v
  | .object _ => .error (.invalidValue .map "map with a single key")
  | v => Decoder.mismatch "string or map" v

end Enumeration

/-! ### Maps -/

/-- Reads a map; `p` reads the values. -/
def Reader.map (p : Reader α) : Reader (OrderedMap α) := fromToken fun c => do
  if c == '{' then
    skip
    nested do
      foldMembers (fun m name => do
        colon
        return m.insert name (← p)) .empty
  else mismatch "a map"

end RowShape.Json

namespace RowShape

/-- A map as an object; `f` writes the values. -/
def OrderedMap.toJson {α : Type} (f : α → Json) (m : OrderedMap α) : Json :=
  .object (m.entries.map fun e => (e.1, f e.2))

end RowShape
