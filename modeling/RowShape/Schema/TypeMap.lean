import RowShape.Schema.Document
import RowShape.Text.Case
import RowShape.Text.Search

/-!
# Types of columns

From the types of a database to those of a document, in any letter case.

## Main definitions

* `typeOf?`: the type of a column, if its database type is known.
* `formatOf?`: the format of a column.
* `UnmappedType`, `inlineProperty`: what a document says about a column by itself.
-/

namespace RowShape

/-- The known types of databases, in lower case.  Points in time and binary data are written as
strings. -/
def typeTable : List (JsonType × List String) :=
  [(.string, ["varchar", "nvarchar", "char", "nchar", "text", "ntext"]),
    (.integer, ["int", "bigint", "smallint", "tinyint"]),
    (.number, ["decimal", "numeric", "float", "real", "money", "smallmoney"]),
    (.boolean, ["bit"]),
    (.string, ["datetime", "datetime2", "date", "time", "datetimeoffset", "smalldatetime"]),
    (.string, ["binary", "varbinary", "image"]),
    (.string, ["uniqueidentifier"])]

/-- The type of a column, if its database type is known. -/
def typeOf? (dbType : String) : Option JsonType :=
  let name := Text.lowerCase dbType
  (typeTable.find? fun row => row.2.contains name).map (·.1)

/-- A type has to do with points in time if its name contains `date` or `time`. -/
def formatOf? (dbType : String) : Option String :=
  let name := Text.lowerCase dbType
  if Text.contains "date" name || Text.contains "time" name then some dateTimeFormat else none

/-- What becomes of a type that is not known. -/
inductive UnmappedType where
  /-- The column is said to hold strings. -/
  | asString
  /-- Nothing is said about its type. -/
  | untyped
  deriving DecidableEq, Inhabited

/-- The type that stands in for one that is not known. -/
def UnmappedType.fallback? : UnmappedType → Option JsonType
  | asString => some .string
  | untyped => none

/-- What a document says about a column by itself. -/
def inlineProperty (unmapped : UnmappedType) (dbType : String) : PropertySchema :=
  .inline (typeOf? dbType <|> unmapped.fallback?) (formatOf? dbType)

end RowShape
