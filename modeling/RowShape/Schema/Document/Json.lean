import RowShape.Error
import RowShape.Json.Record
import RowShape.Json.Printer
import RowShape.Schema.Document

/-!
# Schema documents as JSON

An object with the members in a fixed order.  Members of a property that say nothing are left out,
and so is an empty list of required columns.

## Main definitions

* `SchemaDocument.toJson`, `SchemaDocument.pretty`: writing a document.
* `SchemaDocument.ofJson`: the document of a text.
-/

namespace RowShape

open Json

/-! ### Writing -/

/-- A member whose value is a string, if there is one. -/
def stringMember (name : String) (value : Option String) : List (String × Json) :=
  (value.map fun s => (name, Json.string s)).toList

/-- A property as an object. -/
def PropertySchema.toJson (p : PropertySchema) : Json :=
  .object (stringMember "type" (p.type.map JsonType.name) ++ stringMember "format" p.format ++
    stringMember "$ref" p.reference ++ stringMember "description" p.description)

namespace SchemaDocument

/-- A document as an object. -/
def toJson (d : SchemaDocument) : Json :=
  .object ([("$schema", .string d.schema), ("$id", .string d.id), ("title", .string d.title),
      ("type", .string d.type), ("properties", d.properties.toJson PropertySchema.toJson)] ++
    if d.required.isEmpty then [] else [("required", .array (d.required.map .string))])

/-- The text of a document for generators of code. -/
def pretty (d : SchemaDocument) : String := d.toJson.pretty

end SchemaDocument

/-! ### Reading -/

/-- The types and their names. -/
def JsonType.names : Enumeration JsonType :=
  [("string", .string), ("integer", .integer), ("number", .number), ("boolean", .boolean)]

/-- The fields of a property that have been read. -/
structure PartialProperty where
  type : Option (Option JsonType)
  format : Option (Option String)
  reference : Option (Option String)
  description : Option (Option String)

/-- How a property is read. -/
def PropertySchema.jsonFormat : RecordFormat Reader PartialProperty PropertySchema where
  name := "struct PropertySchema"
  fields :=
    [.of "type" true (·.type) (fun t p => { p with type := some t })
        (Reader.nullable JsonType.names.reader),
      .of "format" true (·.format) (fun s p => { p with format := some s })
        (Reader.nullable Reader.string),
      .of "$ref" true (·.reference) (fun s p => { p with reference := some s })
        (Reader.nullable Reader.string),
      .of "description" true (·.description) (fun s p => { p with description := some s })
        (Reader.nullable Reader.string)]
  start := ⟨none, none, none, none⟩
  finish p := .ok ⟨p.type.join, p.format.join, p.reference.join, p.description.join⟩

/-- The fields of a document that have been read. -/
structure PartialDocument where
  schema : Option String
  id : Option String
  title : Option String
  type : Option String
  properties : Option (OrderedMap PropertySchema)
  required : Option (List String)

namespace SchemaDocument

/-- How a document is read. -/
def format : RecordFormat Reader PartialDocument SchemaDocument where
  name := "struct SchemaDocument"
  fields :=
    [.of "$schema" false (·.schema) (fun s p => { p with schema := some s }) Reader.string,
      .of "$id" false (·.id) (fun s p => { p with id := some s }) Reader.string,
      .of "title" false (·.title) (fun s p => { p with title := some s }) Reader.string,
      .of "type" false (·.type) (fun s p => { p with type := some s }) Reader.string,
      .of "properties" false (·.properties) (fun m p => { p with properties := some m })
        (Reader.map PropertySchema.jsonFormat.reader),
      .of "required" true (·.required) (fun l p => { p with required := some l })
        (Reader.list Reader.string)]
  start := ⟨none, none, none, none, none, none⟩
  finish p := do
    let schema ← Json.required "$schema" p.schema
    let id ← Json.required "$id" p.id
    let title ← Json.required "title" p.title
    let type ← Json.required "type" p.type
    let properties ← Json.required "properties" p.properties
    return ⟨schema, id, title, type, properties, p.required.getD []⟩

/-- The document of a text. -/
def ofJson (text : String) : Except Error SchemaDocument :=
  (format.reader.run text).mapError fun e => .serialization e.message

end SchemaDocument

end RowShape
