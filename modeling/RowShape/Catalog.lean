import RowShape.OrderedMap

/-!
# Catalogs

The tables of a database with their columns, in the order in which they are declared.

## Main definitions

* `ColumnInfo`: the type of a column.
* `Catalog`: tables by name.
* `Catalog.ofRows`: the catalog of a listing with a row for every column.
* `Catalog.same`: equality up to the order of tables and columns.
-/

namespace RowShape

/-- What is known about a column. -/
structure ColumnInfo where
  /-- The type, in the words of the database. -/
  dbType : String
  /-- The column may hold no value. -/
  nullable : Bool
  deriving DecidableEq, Inhabited

/-- The columns of a table. -/
abbrev TableColumns := OrderedMap ColumnInfo

/-- The tables of a database. -/
structure Catalog where
  /-- The columns of every table. -/
  tables : OrderedMap TableColumns
  deriving DecidableEq, Inhabited

/-- A line of a listing of columns. -/
structure ColumnRow where
  table : String
  column : String
  info : ColumnInfo
  deriving DecidableEq, Inhabited

namespace Catalog

/-- The catalog without tables. -/
def empty : Catalog := ⟨.empty⟩

/-- The columns of a table. -/
def table? (c : Catalog) (name : String) : Option TableColumns := c.tables.get? name

/-- What is known about a column of a table. -/
def column? (c : Catalog) (table column : String) : Option ColumnInfo :=
  (c.table? table).bind (·.get? column)

/-- The table exists. -/
def hasTable (c : Catalog) (name : String) : Bool := c.tables.contains name

/-- The names of the tables in order. -/
def names (c : Catalog) : List String := c.tables.keys

/-- The number of tables. -/
def size (c : Catalog) : Nat := c.tables.size

/-- There are no tables. -/
def isEmpty (c : Catalog) : Bool := c.tables.isEmpty

/-- The catalog with a table of this name, instead of one that has it. -/
def withTable (c : Catalog) (name : String) (columns : TableColumns) : Catalog :=
  ⟨c.tables.insert name columns⟩

/-- Adds a line of a listing. -/
def addRow (c : Catalog) (row : ColumnRow) : Catalog :=
  c.withTable row.table (((c.table? row.table).getD .empty).insert row.column row.info)

/-- The catalog of a listing.  Tables and columns stand where they first occur, and the last line
for a column counts. -/
def ofRows (rows : List ColumnRow) : Catalog := rows.foldl addRow empty

/-- The same tables with the same columns, in whatever order. -/
def same (c d : Catalog) : Bool :=
  c.tables.sameEntries (OrderedMap.sameEntries (· == ·)) d.tables

end Catalog

end RowShape
