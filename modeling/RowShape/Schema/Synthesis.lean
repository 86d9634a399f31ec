import RowShape.Column.Resolve
import RowShape.Schema.Registry
import RowShape.Schema.TypeMap
import RowShape.Schema.Validator

/-!
# Building documents

Documents for tables and for the results of procedures.

A column of a procedure is described by a reference to the document of its table, if that is
registered and has the column; otherwise by its own type.  A name that comes again keeps its place
and takes the latest description.

## Main definitions

* `Synthesizer`: a configuration and the rules for checking.
* `PropertyList`: the properties of a document that is being built.
* `Synthesizer.tableDocument`, `Synthesizer.procedureDocument`: the documents.
* `Synthesizer.synthesizeTable`, `Synthesizer.synthesizeProcedure`: building, checking and storing.
-/

namespace RowShape

/-- A document and what was found when it was built. -/
structure Synthesis where
  document : SchemaDocument
  diagnostics : List Diagnostic
  deriving DecidableEq, Inhabited

/-- What documents are built with. -/
structure Synthesizer where
  config : Config
  /-- The rules that documents are checked against. -/
  rules : List Rule

/-! ### Properties -/

/-- The properties of a document that is being built. -/
structure PropertyList where
  properties : OrderedMap PropertySchema
  required : List String
  deriving DecidableEq, Inhabited

namespace PropertyList

/-- No properties. -/
def empty : PropertyList := ⟨.empty, []⟩

/-- Adds the description of a column.  A column is required once it has not been nullable. -/
def add (b : PropertyList) (name : String) (property : PropertySchema) (nullable : Bool) :
    PropertyList where
  properties := b.properties.insert name property
  required := if nullable || b.required.contains name then b.required else b.required ++ [name]

end PropertyList

namespace Synthesizer

/-- A synthesizer with the rules of documents. -/
def standard (config : Config) : Synthesizer := ⟨config, documentRules⟩

/-- The properties of a table. -/
def tableProperties (columns : TableColumns) : PropertyList :=
  columns.entries.foldl (fun b e => b.add e.1 (inlineProperty .asString e.2.dbType) e.2.nullable)
    .empty

/-- The reference to the property of a column in the document of its table. -/
def tableReference? (config : Config) (registry : Registry) (c : ResolvedColumn) :
    Option PropertySchema := do
  let d ← registry.get? (config.schemaId c.table)
  let _ ← d.property? c.column
  return .pointing (d.propertyPointer c.column) (c.column ++ " from table " ++ c.table)

/-- The description of a column of a procedure. -/
def columnProperty (config : Config) (registry : Registry) (c : ResolvedColumn) :
    PropertySchema :=
  (tableReference? config registry c).getD (inlineProperty .untyped c.info.dbType)

/-- The properties of a procedure. -/
def procedureProperties (config : Config) (registry : Registry) (columns : List ResolvedColumn) :
    PropertyList :=
  columns.foldl
    (fun b c => b.add c.column (columnProperty config registry c) c.info.nullable) .empty

/-! ### Documents -/

/-- The document of an entity with some properties. -/
def document (config : Config) (name : String) (b : PropertyList) : SchemaDocument where
  schema := config.schemaUri
  id := config.schemaId name
  title := name
  type := objectType
  properties := b.properties
  required := b.required

/-- The document of a table. -/
def tableDocument (config : Config) (name : String) (columns : TableColumns) : SchemaDocument :=
  document config name (tableProperties columns)

/-- The document of a procedure, as it is built beside the documents of a registry. -/
def procedureDocument (config : Config) (registry : Registry) (name : String)
    (columns : List ResolvedColumn) : SchemaDocument :=
  document config name (procedureProperties config registry columns)

/-- What is wrong with a document, if it is to be checked. -/
def selfCheck (s : Synthesizer) (d : SchemaDocument) : List Diagnostic :=
  if s.config.selfCheck then
    match checkDocument s.rules d with
    | .ok _ => []
    | .error e => [.schemaSelfCheckFailure d.id e.message]
  else []

/-- Checks a document and stores it. -/
def finish (s : Synthesizer) (registry : Registry) (d : SchemaDocument) : Synthesis × Registry :=
  (⟨d, s.selfCheck d⟩, registry.insert d)

/-- Builds the document of a table. -/
def synthesizeTable (s : Synthesizer) (name : String) (columns : TableColumns)
    (registry : Registry) : Synthesis × Registry :=
  s.finish registry (tableDocument s.config name columns)

/-- Builds the document of a procedure. -/
def synthesizeProcedure (s : Synthesizer) (name : String) (columns : List ResolvedColumn)
    (registry : Registry) : Synthesis × Registry :=
  s.finish registry (procedureDocument s.config registry name columns)

end Synthesizer

end RowShape
