import RowShape.Json.Printer
import RowShape.Schema.Document.Json

/-!
# Checking documents

Rules that the JSON value of a document has to keep.  The first rule that is broken counts, and
members of objects are looked at in the order of their names.

## Main definitions

* `Rule`: what accepts a value or fails, in whatever way.
* `Violation`: how the rules of documents can be broken.
* `checkRoot`, `checkProperties`, `checkRequiredColumns`: what is checked about a document.
* `rootRule`, `propertiesRule`, `requiredRule`: the rules of a document.
* `checkValue`, `checkDocument`: rules one after another.
-/

namespace RowShape

/-- A rule accepts a value, or it fails.  It need not fail as the rules of documents do. -/
abbrev Rule := Json → Except Error Unit

/-- How a value breaks a rule of documents. -/
inductive Violation where
  /-- Something is no object. -/
  | notObject (what : String)
  /-- A member of the document is no string. -/
  | notString (key : String)
  /-- A member of the document is missing. -/
  | missing (key : String)
  /-- The identifier is empty. -/
  | emptyId
  /-- The document describes no objects. -/
  | wrongRootType (found : String)
  /-- The document does not say what it describes. -/
  | missingRootType
  /-- A property has a type that does not exist. -/
  | invalidType (property : String) (found : Json)
  /-- A member of a property is no string. -/
  | keywordNotString (property key : String)
  /-- A property has a type of its own and is described elsewhere. -/
  | typeAndReference (property : String)
  /-- The required columns are no list. -/
  | requiredNotArray
  /-- A required column has no name. -/
  | requiredNotString
  /-- A column is required twice. -/
  | requiredTwice (name : String)
  /-- A required column has no property. -/
  | undeclared (name : String)

namespace Violation

/-- The wording of a violation. -/
def message : Violation → String
  | notObject what => what ++ " must be an object"
  | notString key => "'" ++ key ++ "' must be a string"
  | missing key => "missing '" ++ key ++ "'"
  | emptyId => "'$id' cannot be empty"
  | wrongRootType found => "root type must be 'object', got '" ++ found ++ "'"
  | missingRootType => "missing root 'type'"
  | invalidType property found =>
    "property '" ++ property ++ "' has invalid type " ++ found.compact
  | keywordNotString property key => "property '" ++ property ++ "': '" ++ key ++
      "' must be a string"
  | typeAndReference property => "property '" ++ property ++ "' has both 'type' and '$ref'"
  | requiredNotArray => "'required' must be an array"
  | requiredNotString => "'required' entries must be strings"
  | requiredTwice name => "'" ++ name ++ "' is listed twice in 'required'"
  | undeclared name => "required property '" ++ name ++ "' is not declared"

/-- A violation as a failure. -/
def error (v : Violation) : Error := .validation v.message

end Violation

/-- The failure of a rule that is none of those of documents, in words of its own. -/
def Error.other (text : String) : Error := .validation text

/-! ### The root -/

/-- The members of the root that have to be strings. -/
def rootKeys : List String := ["$schema", "$id", "title"]

/-- A member of the root is there and a string. -/
def checkRootKey (document : Json) (key : String) : Except Violation Unit :=
  match document.member? key with
  | some (.string _) => .ok ()
  | some _ => .error (.notString key)
  | none => .error (.missing key)

/-- The root is an object that names itself and describes objects. -/
def checkRoot (document : Json) : Except Violation Unit := do
  if document.object?.isNone then throw (.notObject "document")
  rootKeys.forM (checkRootKey document)
  if (document.member? "$id").bind Json.string? = some "" then throw .emptyId
  match (document.member? "type").bind Json.string? with
  | some type => if type = objectType then return () else throw (.wrongRootType type)
  | none => throw .missingRootType

/-! ### Properties -/

/-- The types of JSON Schema. -/
def primitiveTypes : List String :=
  ["array", "boolean", "integer", "null", "number", "object", "string"]

/-- The members of a property that have to be strings. -/
def propertyKeys : List String := ["format", "$ref", "description"]

/-- The type of a property is one of JSON Schema, if it has one. -/
def checkPropertyType (name : String) (property : Json) : Except Violation Unit :=
  match property.member? "type" with
  | some type =>
    if type.string?.any primitiveTypes.contains then .ok () else .error (.invalidType name type)
  | none => .ok ()

/-- A member of a property is a string, if it is there. -/
def checkPropertyKey (name : String) (property : Json) (key : String) :
    Except Violation Unit :=
  match property.member? key with
  | some v => if v.string?.isSome then .ok () else .error (.keywordNotString name key)
  | none => .ok ()

/-- A property is well formed. -/
def checkProperty (name : String) (property : Json) : Except Violation Unit := do
  if property.object?.isNone then throw (.notObject ("property '" ++ name ++ "'"))
  checkPropertyType name property
  propertyKeys.forM (checkPropertyKey name property)
  if (property.member? "type").isSome && (property.member? "$ref").isSome then
    throw (.typeAndReference name)

/-- The properties are an object of well-formed properties, if they are there. -/
def checkProperties (document : Json) : Except Violation Unit :=
  match document.member? "properties" with
  | none => .ok ()
  | some (.object properties) => properties.forM fun p => checkProperty p.1 p.2
  | some _ => .error (.notObject "properties")

/-! ### Required columns -/

/-- Entries are names of properties, each for the first time. -/
def checkRequired (declared : String → Bool) : List String → List Json → Except Violation Unit
  | _, [] => .ok ()
  | seen, entry :: rest =>
    match entry.string? with
    | none => .error .requiredNotString
    | some name =>
      if seen.contains name then .error (.requiredTwice name)
      else if !declared name then .error (.undeclared name)
      else checkRequired declared (name :: seen) rest

/-- The required columns are distinct properties, if they are there. -/
def checkRequiredColumns (document : Json) : Except Violation Unit :=
  match document.member? "required" with
  | none => .ok ()
  | some (.array entries) =>
    let declared (name : String) : Bool :=
      ((document.member? "properties").bind (Json.member? name)).isSome
    checkRequired declared [] entries
  | some _ => .error .requiredNotArray

/-! ### Documents -/

/-- A rule that fails with the violation that is found, if there is one. -/
def Rule.ofCheck (check : Json → Except Violation Unit) : Rule :=
  fun document => (check document).mapError Violation.error

/-- The rule of the root. -/
def rootRule : Rule := Rule.ofCheck checkRoot

/-- The rule of properties. -/
def propertiesRule : Rule := Rule.ofCheck checkProperties

/-- The rule of required columns. -/
def requiredRule : Rule := Rule.ofCheck checkRequiredColumns

/-- The rules of a document. -/
def documentRules : List Rule := [rootRule, propertiesRule, requiredRule]

/-- Fails as the first rule does that does not accept a value. -/
def checkValue (rules : List Rule) (value : Json) : Except Error Unit :=
  rules.forM fun rule => rule value.canonical

/-- Fails as the first rule does that does not accept a document. -/
def checkDocument (rules : List Rule) (d : SchemaDocument) : Except Error Unit :=
  checkValue rules d.toJson

end RowShape
