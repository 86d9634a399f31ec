import RowShape.Pipeline

/-!
# Sessions

A registry that a pipeline and a synthesizer share, and what can be done with it.

## Main definitions

* `Operation`: what can be asked for.
* `Outcome`: what is answered.
* `Session.perform`: one operation.
* `Session.performAll`: operations one after another.
-/

namespace RowShape

/-- What a session works with. -/
structure Session where
  pipeline : Pipeline
  synthesizer : Synthesizer

/-- What can be asked for. -/
inductive Operation where
  /-- The documents of a database. -/
  | run (source : MetadataSource)
  /-- The columns of a procedure. -/
  | infer (procedure : ProcedureDefinition) (catalog : Catalog)
  /-- The document of a procedure. -/
  | synthesize (procedure : ProcedureDefinition) (catalog : Catalog)
  /-- A document for columns of a table. -/
  | tableDocument (name : String) (columns : TableColumns)
  /-- A document for columns that were found in tables. -/
  | procedureDocument (name : String) (columns : List ResolvedColumn)
  /-- To store a document. -/
  | insert (document : SchemaDocument)
  /-- To forget all documents. -/
  | reset
  /-- A document, if it is there. -/
  | get (id : String)
  /-- A document that has to be there. -/
  | require (id : String)
  /-- A property, if it is there. -/
  | property (id name : String)
  /-- Whether a document is there. -/
  | contains (id : String)
  /-- Whether no document is there. -/
  | isEmpty

/-- What is answered. -/
inductive Outcome where
  /-- A run is over, or a listing has failed. -/
  | ran (output : Except Error RunOutput)
  /-- Columns were found. -/
  | inferred (inference : Resolution)
  /-- A document was built. -/
  | synthesized (synthesis : Synthesis)
  /-- A document was found, or has been replaced. -/
  | document (found : Option SchemaDocument)
  /-- A document was found, or has to be there and is not. -/
  | demanded (found : Except Error SchemaDocument)
  /-- A property was found. -/
  | property (found : Option PropertySchema)
  /-- Yes or no. -/
  | truth (b : Bool)
  /-- There is nothing to say. -/
  | done

namespace Session

/-- A pipeline and a synthesizer for a configuration. -/
def standard (config : Config) : Session := ⟨.standard config, .standard config⟩

/-- Does what is asked for. -/
def perform (s : Session) (registry : Registry) : Operation → Outcome × Registry
  | .run source =>
    match s.pipeline.run source registry with
    | .ok (output, registry) => (.ran (.ok output), registry)
    | .error e => (.ran (.error e), registry)
  | .infer procedure catalog => (.inferred (s.pipeline.inferProcedure procedure catalog), registry)
  | .synthesize procedure catalog =>
    let (synthesis, registry) := s.pipeline.synthesizeProcedure procedure catalog registry
    (.synthesized synthesis, registry)
  | .tableDocument name columns =>
    let (synthesis, registry) := s.synthesizer.synthesizeTable name columns registry
    (.synthesized synthesis, registry)
  | .procedureDocument name columns =>
    let (synthesis, registry) := s.synthesizer.synthesizeProcedure name columns registry
    (.synthesized synthesis, registry)
  | .insert document => (.document (registry.get? document.id), registry.insert document)
  | .reset => (.done, .empty)
  | .get id => (.document (registry.get? id), registry)
  | .require id => (.demanded (registry.require id), registry)
  | .property id name => (.property (registry.property? id name), registry)
  | .contains id => (.truth (registry.contains id), registry)
  | .isEmpty => (.truth registry.isEmpty, registry)

/-- Does all that is asked for, one after another. -/
def performAll (s : Session) : Registry → List Operation → List Outcome × Registry
  | registry, [] => ([], registry)
  | registry, op :: rest =>
    let (first, registry) := s.perform registry op
    let (others, registry) := s.performAll registry rest
    (first :: others, registry)

end Session

end RowShape
