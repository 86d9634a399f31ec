import RowShape.Catalog.Json
import RowShape.Metadata.Source

/-!
# Metadata as JSON

An object with the tables and the procedures, both of which may be left out.

## Main definitions

* `StaticMetadata.ofJson`: the tables and procedures of a text.
-/

namespace RowShape

open Json

/-- The fields of a procedure that have been read. -/
structure PartialProcedure where
  name : Option String
  definition : Option String
  createdAt : Option (Option Timestamp)
  modifiedAt : Option (Option Timestamp)

/-- How a procedure is read. -/
def ProcedureDefinition.format : RecordFormat Reader PartialProcedure ProcedureDefinition where
  name := "struct ProcedureDefinition"
  fields :=
    [.of "name" false (·.name) (fun s p => { p with name := some s }) Reader.string,
      .of "definition" false (·.definition) (fun s p => { p with definition := some s })
        Reader.string,
      .of "created_at" true (·.createdAt) (fun t p => { p with createdAt := some t })
        (Reader.nullable Reader.timestamp),
      .of "modified_at" true (·.modifiedAt) (fun t p => { p with modifiedAt := some t })
        (Reader.nullable Reader.timestamp)]
  start := ⟨none, none, none, none⟩
  finish p := do
    let name ← required "name" p.name
    let definition ← required "definition" p.definition
    return ⟨name, definition, p.createdAt.join, p.modifiedAt.join⟩

/-- The fields of metadata that have been read. -/
structure PartialMetadata where
  tables : Option Catalog
  procedures : Option (List ProcedureDefinition)

namespace StaticMetadata

/-- How metadata is read. -/
def format : RecordFormat Reader PartialMetadata StaticMetadata where
  name := "struct StaticMetadataSource"
  fields :=
    [.of "tables" true (·.tables) (fun c p => { p with tables := some c }) Catalog.reader,
      .of "procedures" true (·.procedures) (fun l p => { p with procedures := some l })
        (Reader.list ProcedureDefinition.format.reader)]
  start := ⟨none, none⟩
  finish p := .ok ⟨p.tables.getD .empty, p.procedures.getD []⟩

/-- The tables and procedures of a text. -/
def ofJson (text : String) : Except Error StaticMetadata :=
  (format.reader.run text).mapError fun e => .metadata e.message

end StaticMetadata

end RowShape
