import RowShape.Catalog
import RowShape.Error
import RowShape.Metadata.Timestamp

/-!
# Metadata sources

Where the tables and procedures of a database are listed.

## Main definitions

* `ProcedureDefinition`: a procedure as it is stored.
* `StaticMetadata`: tables and procedures that are known beforehand.
* `MetadataSource`: two listings, each of which can fail.
-/

namespace RowShape

/-- A stored procedure. -/
structure ProcedureDefinition where
  name : String
  /-- The statement that creates it. -/
  definition : String
  createdAt : Option Timestamp
  modifiedAt : Option Timestamp
  deriving DecidableEq, Inhabited

namespace ProcedureDefinition

/-- A procedure of unknown age. -/
def undated (name definition : String) : ProcedureDefinition := ⟨name, definition, none, none⟩

/-- The procedure with other times. -/
def withTimestamps (p : ProcedureDefinition) (created modified : Timestamp) :
    ProcedureDefinition :=
  { p with createdAt := some created, modifiedAt := some modified }

end ProcedureDefinition

/-- Tables and procedures that are known beforehand. -/
structure StaticMetadata where
  tables : Catalog
  procedures : List ProcedureDefinition
  deriving DecidableEq, Inhabited

/-- The listings of a database. -/
structure MetadataSource where
  tables : Except Error Catalog
  procedures : Except Error (List ProcedureDefinition)

/-- Listings that do not fail. -/
def StaticMetadata.source (m : StaticMetadata) : MetadataSource := ⟨.ok m.tables, .ok m.procedures⟩

end RowShape
