import RowShape.OrderedMap

/-!
# Schema documents

Documents that describe the rows of a table or the result of a procedure.

## Main definitions

* `JsonType`: the types that a column can have.
* `PropertySchema`: what a document says about a column.
* `SchemaDocument`: the document.
* `SchemaDocument.propertyPointer`: the address of a property.
-/

namespace RowShape

/-- The type of the values of a column. -/
inductive JsonType where
  | string
  | integer
  | number
  | boolean
  deriving DecidableEq, Inhabited

/-- The name of a type. -/
def JsonType.name : JsonType → String
  | string => "string"
  | integer => "integer"
  | number => "number"
  | boolean => "boolean"

/-- What a document says about a column: a type and a format of its own, or where these are to be
found, with a description of that place. -/
structure PropertySchema where
  type : Option JsonType
  format : Option String
  reference : Option String
  description : Option String
  deriving DecidableEq, Inhabited

namespace PropertySchema

/-- A property with a type and a format of its own. -/
def inline (type : Option JsonType) (format : Option String) : PropertySchema :=
  ⟨type, format, none, none⟩

/-- A property that is described elsewhere. -/
def pointing (pointer description : String) : PropertySchema :=
  ⟨none, none, some pointer, some description⟩

/-- The property is described elsewhere. -/
def isReference (p : PropertySchema) : Bool := p.reference.isSome

end PropertySchema

/-- A document. -/
structure SchemaDocument where
  /-- The identifier of the schema of documents. -/
  schema : String
  /-- The identifier of the document. -/
  id : String
  /-- The name of the entity. -/
  title : String
  /-- The type of a row. -/
  type : String
  /-- The columns in order. -/
  properties : OrderedMap PropertySchema
  /-- The columns that have a value in every row. -/
  required : List String
  deriving DecidableEq, Inhabited

namespace SchemaDocument

/-- What the document says about a column. -/
def property? (d : SchemaDocument) (name : String) : Option PropertySchema := d.properties.get? name

/-- The column has a value in every row. -/
def isRequired (d : SchemaDocument) (name : String) : Bool := d.required.contains name

/-- The address of a property. -/
def propertyPointer (d : SchemaDocument) (name : String) : String :=
  d.id ++ "/properties/" ++ name

end SchemaDocument

/-- The type of a row. -/
def objectType : String := "object"

/-- The format of points in time. -/
def dateTimeFormat : String := "date-time"

end RowShape
