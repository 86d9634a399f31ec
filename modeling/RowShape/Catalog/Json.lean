import RowShape.Catalog
import RowShape.Error
import RowShape.Json.Record
import RowShape.Json.Printer

/-!
# Catalogs as JSON

An object of tables, each an object of columns.

## Main definitions

* `Catalog.reader`: reading a catalog.
* `Catalog.ofJson`: the catalog of a text.
* `Catalog.toJson`: writing one.
-/

namespace RowShape

open Json

/-- The fields of a column that have been read. -/
structure PartialColumnInfo where
  dbType : Option String
  nullable : Option Bool

namespace ColumnInfo

/-- The fields of a column. -/
def fields : List (Field Reader PartialColumnInfo) :=
  [.of "db_type" false (·.dbType) (fun s p => { p with dbType := some s }) Reader.string,
    .of "nullable" false (·.nullable) (fun b p => { p with nullable := some b }) Reader.boolean]

/-- How a column is read. -/
def format : RecordFormat Reader PartialColumnInfo ColumnInfo where
  name := "struct ColumnInfo"
  fields := fields
  start := ⟨none, none⟩
  finish p := do
    let dbType ← required "db_type" p.dbType
    let nullable ← required "nullable" p.nullable
    return ⟨dbType, nullable⟩

/-- A column as an object. -/
def toJson (i : ColumnInfo) : Json :=
  .object [("db_type", .string i.dbType), ("nullable", .bool i.nullable)]

end ColumnInfo

/-- The columns of a table as an object. -/
def columnsToJson (columns : TableColumns) : Json := columns.toJson ColumnInfo.toJson

namespace Catalog

/-- Reads a catalog. -/
def reader : Reader Catalog := do
  return ⟨← Reader.map (Reader.map ColumnInfo.format.reader)⟩

/-- The catalog of a text. -/
def ofJson (text : String) : Except Error Catalog :=
  (reader.run text).mapError fun e => .serialization e.message

/-- A catalog as an object. -/
def toJson (c : Catalog) : Json := c.tables.toJson columnsToJson

end Catalog

end RowShape
