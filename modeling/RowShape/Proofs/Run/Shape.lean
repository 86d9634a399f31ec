import RowShape.Proofs.Run

/-!
# The shape of a run

A run emits a document for every table, in the order of the catalog, and then one for every
procedure, in the order of the listing, whether or not names come again.  Its diagnostics are those
of the entities in the same order, and all it does to the registry is to store the documents in the
order in which it emits them.

Every procedure is built beside what is stored by then: what the registry held when the run began,
the tables, and the procedures before it.  One procedure does this in a step
(`Pipeline.synthesizeProcedure_document`, `Pipeline.synthesizeProcedure_snd`), and an induction over
the procedures says it of each place of the output.

## Main definitions

* `Pipeline.HasShape`: the output of a run, place by place, and what it leaves behind

## Main results

* `Pipeline.getElem?_synthesizeProcedures`: what the procedure at a place gives
* `Pipeline.getElem?_procedureDocuments_output`, `Pipeline.diagnostics_output_eq`: the documents of
  procedures and the diagnostics in the output of a run
* `Pipeline.run_hasShape`: a run whose listings succeed has this shape
-/

namespace RowShape

/-- A document has one finding of its check at most. -/
theorem Synthesizer.length_selfCheck_le (s : Synthesizer) (d : SchemaDocument) :
    (s.selfCheck d).length ≤ 1 := by
  rw [selfCheck]
  split
  · cases checkDocument s.rules d <;> simp
  · simp

namespace Pipeline

open Synthesizer (tableDocument procedureDocument)

variable {p : Pipeline} {catalog : Catalog}

/-! ### Procedures place by place -/

/-- **What the procedure at a place gives**: it is built beside the documents of those before it. -/
theorem getElem?_synthesizeProcedures (ps : List ProcedureDefinition) (r : Registry) (i : Nat) :
    (p.synthesizeProcedures catalog ps r).1[i]? = ps[i]?.map fun q =>
      (p.synthesizeProcedure q catalog (r.insertAll
        (((p.synthesizeProcedures catalog ps r).1.map (·.document)).take i))).1 := by
  induction ps generalizing r i with
  | nil => rfl
  | cons q ps ih =>
    rw [synthesizeProcedures_cons]
    cases i with
    | zero => rfl
    | succ i =>
      -- the later ones find the document of this procedure stored
      rw [List.getElem?_cons_succ, List.getElem?_cons_succ, ih, List.map_cons, List.take_succ_cons,
        Registry.insertAll_cons, synthesizeProcedure_snd]

/-- **The diagnostics of procedures**: those of each inference and those of the check of its
document. -/
theorem diagnostics_synthesizeProcedures (ps : List ProcedureDefinition) (r : Registry) :
    (p.synthesizeProcedures catalog ps r).1.flatMap (·.diagnostics) =
      (List.zipWith (fun q d => (p.inferProcedure q catalog).diagnostics ++
          p.synthesizer.selfCheck d) ps
        ((p.synthesizeProcedures catalog ps r).1.map (·.document))).flatten := by
  induction ps generalizing r with
  | nil => rfl
  | cons q ps ih =>
    rw [synthesizeProcedures_cons, List.flatMap_cons, ih, List.map_cons, List.zipWith_cons_cons,
      List.flatten_cons]
    rfl

/-- Documents of procedures carry the names of their procedures. -/
theorem titles_synthesizeProcedures (ps : List ProcedureDefinition) (r : Registry) :
    (p.synthesizeProcedures catalog ps r).1.map (·.document.title) = ps.map (·.name) := by
  refine List.ext_getElem? fun i => ?_
  rw [List.getElem?_map, getElem?_synthesizeProcedures, Option.map_map, List.getElem?_map]
  rfl

/-! ### The parts of the output -/

section Output

variable {procedures : List ProcedureDefinition}

theorem length_tableDocuments : (p.tableDocuments catalog).length = catalog.size :=
  List.length_map _

theorem titles_output :
    (p.output catalog procedures).documents.map (·.title) =
      catalog.names ++ procedures.map (·.name) := by
  have names : (p.tableDocuments catalog).map (·.title) = catalog.names := by
    rw [tableDocuments, List.map_map]
    rfl
  rw [documents_output, List.map_append, names, List.map_map]
  exact congrArg _ (titles_synthesizeProcedures _ _)

/-- The documents of a run up to the procedure at a place: those of all tables, and those of the
procedures before it. -/
theorem take_documents_output (i : Nat) :
    (p.output catalog procedures).documents.take ((p.output catalog procedures).tables + i) =
      p.tableDocuments catalog ++
        ((p.procedureSyntheses catalog procedures).map (·.document)).take i := by
  rw [documents_output, show (p.output catalog procedures).tables =
    (p.tableDocuments catalog).length from length_tableDocuments.symm, List.take_length_add_append]

/-- **The document of the procedure at a place**, beside what is stored by then. -/
theorem getElem?_procedureDocuments_output (r : Registry) (i : Nat) :
    (p.output catalog procedures).procedureDocuments[i]? = procedures[i]?.map fun q =>
      procedureDocument p.synthesizer.config
        (r.insertAll ((p.output catalog procedures).documents.take
          ((p.output catalog procedures).tables + i))) q.name
        (p.inferProcedure q catalog).columns := by
  -- the procedures may be built from this registry as well as from an empty one
  have built : p.procedureSyntheses catalog procedures =
      (p.synthesizeProcedures catalog procedures (r.insertAll (p.tableDocuments catalog))).1 :=
    (synthesizeProcedures_tableDocuments r).symm
  rw [take_documents_output, procedureDocuments_output, List.getElem?_map, built,
    getElem?_synthesizeProcedures, Option.map_map, Registry.insertAll_append]
  rfl

/-- **The diagnostics of a run**, entity by entity. -/
theorem diagnostics_output_eq :
    (p.output catalog procedures).diagnostics =
      (p.output catalog procedures).tableDocuments.flatMap p.synthesizer.selfCheck ++
        (List.zipWith (fun q d => (p.inferProcedure q catalog).diagnostics ++
          p.synthesizer.selfCheck d) procedures
            (p.output catalog procedures).procedureDocuments).flatten := by
  have own : (catalog.tables.entries.map p.tableSynthesis).flatMap (·.diagnostics) =
      (p.tableDocuments catalog).flatMap p.synthesizer.selfCheck := by
    rw [tableDocuments, List.flatMap_map, List.flatMap_map]
    rfl
  rw [diagnostics_output, syntheses, List.flatMap_append, own, tableDocuments_output,
    procedureDocuments_output]
  exact congrArg _ (diagnostics_synthesizeProcedures _ _)

end Output

/-! ### Runs -/

/-- A run over the tables of a catalog and over procedures, which finds `r` in place, emits `out`
and leaves `f` behind. -/
structure HasShape (p : Pipeline) (catalog : Catalog) (procedures : List ProcedureDefinition)
    (r : Registry) (out : RunOutput) (f : Registry) : Prop where
  /-- The documents of tables end where the catalog does. -/
  tables : out.tables = catalog.size
  /-- There is one document for each table and one for each procedure. -/
  length : out.documents.length = catalog.size + procedures.length
  /-- The documents are those of the tables and those of the procedures, in the order of the
  listings. -/
  titles : out.documents.map (·.title) = catalog.names ++ procedures.map (·.name)
  /-- The document of a table is that of its columns. -/
  tableDocuments : out.tableDocuments =
    catalog.tables.entries.map fun t => tableDocument p.synthesizer.config t.1 t.2
  /-- The document of a procedure is that of its columns, beside what is stored by then. -/
  procedureDocuments : ∀ i, out.procedureDocuments[i]? = procedures[i]?.map fun q =>
    procedureDocument p.synthesizer.config
      (r.insertAll (out.documents.take (out.tables + i))) q.name
      (p.inferProcedure q catalog).columns
  /-- The diagnostics are those of the tables and those of the procedures.  A procedure has those
  of its inference before that of its document. -/
  diagnostics : out.diagnostics = out.tableDocuments.flatMap p.synthesizer.selfCheck ++
    (List.zipWith (fun q d => (p.inferProcedure q catalog).diagnostics ++ p.synthesizer.selfCheck d)
      procedures out.procedureDocuments).flatten
  /-- Every document has one finding of its check at most. -/
  checks : ∀ d ∈ out.documents, (p.synthesizer.selfCheck d).length ≤ 1
  /-- Under an identifier the last document that was emitted with it is found, or what was there
  before if there is none. -/
  registry : ∀ id, f.get? id = (out.documents.findRev? (·.id == id)).or (r.get? id)

/-- **A run has its shape**: from any registry, a run whose listings succeed emits a document for
every table and every procedure, and stores these documents. -/
theorem run_hasShape (p : Pipeline) {source : MetadataSource} {catalog : Catalog}
    {procedures : List ProcedureDefinition} (ht : source.tables = .ok catalog)
    (hp : source.procedures = .ok procedures) (r : Registry) :
    ∃ out f, p.run source r = .ok (out, f) ∧ p.HasShape catalog procedures r out f := by
  refine ⟨_, _, run_eq ht hp r, ?_⟩
  exact {
    tables := rfl
    length := by
      rw [documents_output, List.length_append, length_tableDocuments, List.length_map,
        procedureSyntheses, length_synthesizeProcedures]
    titles := titles_output
    tableDocuments := tableDocuments_output
    procedureDocuments := getElem?_procedureDocuments_output r
    diagnostics := diagnostics_output_eq
    checks := fun d _ => p.synthesizer.length_selfCheck_le d
    registry := fun id => Registry.get?_insertAll r _ id }

/-- A run has its shape although a procedure takes the name of the table that it reads. -/
theorem run_hasShape_shadowed :
    shadowed.source.tables = .ok shadowed.tables ∧
      shadowed.source.procedures = .ok shadowed.procedures ∧
      ∃ out f, (standard .default).run shadowed.source .empty = .ok (out, f) ∧
        (standard .default).HasShape shadowed.tables shadowed.procedures .empty out f :=
  ⟨rfl, rfl, run_hasShape (standard .default) rfl rfl .empty⟩

end Pipeline

end RowShape
