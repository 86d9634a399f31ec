import RowShape.Metadata.Source
import RowShape.Procedure.Statement
import RowShape.Schema.Synthesis

/-!
# The pipeline

From the listings of a database to a document for every table and every procedure.  Tables come
first, so that procedures can refer to them.

## Main definitions

* `Pipeline`: configuration, column parser and synthesizer.
* `Pipeline.inferProcedure`: the columns of a procedure.
* `Pipeline.synthesizeProcedure`: its document.
* `Pipeline.run`: all documents of a database.
* `RunOutput.coverage`: how much of it was covered.
-/

namespace RowShape

/-- What a run is done with. -/
structure Pipeline where
  config : Config
  parser : ColumnParser
  synthesizer : Synthesizer

namespace Pipeline

/-- A pipeline that reads the SQL of the dialect and checks documents against their rules. -/
def standard (config : Config) : Pipeline :=
  ⟨config, sqlColumns config.dialect config.marks, .standard config⟩

/-- The pipeline with another column parser. -/
def withParser (p : Pipeline) (parser : ColumnParser) : Pipeline := { p with parser := parser }

/-! ### One procedure -/

/-- The columns of a procedure, and what was found on the way: first the statements that could not
be read, then the references that gave no column. -/
def inferProcedure (p : Pipeline) (procedure : ProcedureDefinition) (catalog : Catalog) :
    Resolution :=
  let collection := collect procedure.name p.parser (procedureBody procedure.definition)
  let resolution := resolve procedure.name p.config catalog collection.columns
  ⟨resolution.columns, collection.diagnostics ++ resolution.diagnostics⟩

/-- Builds the document of a procedure. -/
def synthesizeProcedure (p : Pipeline) (procedure : ProcedureDefinition) (catalog : Catalog)
    (registry : Registry) : Synthesis × Registry :=
  let inference := p.inferProcedure procedure catalog
  let (synthesis, registry) :=
    p.synthesizer.synthesizeProcedure procedure.name inference.columns registry
  (⟨synthesis.document, inference.diagnostics ++ synthesis.diagnostics⟩, registry)

/-! ### All tables and procedures -/

/-- Builds the documents of tables one after another. -/
def synthesizeTables (p : Pipeline) :
    List (String × TableColumns) → Registry → List Synthesis × Registry
  | [], registry => ([], registry)
  | (name, columns) :: rest, registry =>
    let (first, registry) := p.synthesizer.synthesizeTable name columns registry
    let (others, registry) := p.synthesizeTables rest registry
    (first :: others, registry)

/-- Builds the documents of procedures one after another. -/
def synthesizeProcedures (p : Pipeline) (catalog : Catalog) :
    List ProcedureDefinition → Registry → List Synthesis × Registry
  | [], registry => ([], registry)
  | procedure :: rest, registry =>
    let (first, registry) := p.synthesizeProcedure procedure catalog registry
    let (others, registry) := p.synthesizeProcedures catalog rest registry
    (first :: others, registry)

end Pipeline

/-- What a run gives: all documents, those of tables first. -/
structure RunOutput where
  documents : List SchemaDocument
  diagnostics : List Diagnostic
  /-- The number of documents of tables. -/
  tables : Nat
  deriving DecidableEq, Inhabited

/-- How much of a database was covered. -/
structure Coverage where
  tables : Nat
  procedures : Nat
  parseFailures : Nat
  droppedColumns : Nat
  selfCheckFailures : Nat
  deriving DecidableEq, Inhabited

namespace RunOutput

/-- The documents of tables. -/
def tableDocuments (o : RunOutput) : List SchemaDocument := o.documents.take o.tables

/-- The documents of procedures. -/
def procedureDocuments (o : RunOutput) : List SchemaDocument := o.documents.drop o.tables

/-- How much was covered.  References to constants and variables do not count. -/
def coverage (o : RunOutput) : Coverage where
  tables := o.tables
  procedures := o.documents.length - o.tables
  parseFailures := o.diagnostics.countP Diagnostic.isParseFailure
  droppedColumns := o.diagnostics.countP Diagnostic.isDroppedColumn
  selfCheckFailures := o.diagnostics.countP Diagnostic.isSelfCheckFailure

end RunOutput

namespace Pipeline

/-- Builds the documents of all tables and procedures.  Only a listing can fail. -/
def run (p : Pipeline) (source : MetadataSource) (registry : Registry) :
    Except Error (RunOutput × Registry) := do
  let catalog ← source.tables
  let procedures ← source.procedures
  let (tables, registry) := p.synthesizeTables catalog.tables.entries registry
  let (others, registry) := p.synthesizeProcedures catalog procedures registry
  let all := tables ++ others
  return (⟨all.map (·.document), all.flatMap (·.diagnostics), catalog.size⟩, registry)

end Pipeline

end RowShape
