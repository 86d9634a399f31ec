import RowShape.Proofs.Document

/-!
# Runs

A run builds the documents of the tables, which depend on no registry, and then those of the
procedures one after another, each beside what is stored by then.  All it does to the registry is to
store the documents it emits, in their order.

A procedure looks up nothing but the tables of its columns, and these are tables of the catalog
(`Pipeline.mem_inferProcedure`).  Registries that agree on the tables are therefore alike for all
procedures of a run: this is the invariant of `Pipeline.synthesizeProcedures_congr`, and with it the
output of a run is one value for every registry it may start from.

## Main definitions

* `Pipeline.tableIds`: the identifiers that the tables of a catalog are stored under
* `Pipeline.output`: the output of a run

## Main results

* `Pipeline.synthesizeProcedures_snd`: procedures only store what they emit
* `Pipeline.synthesizeProcedures_congr`: registries that agree on the tables give equal documents
* `Pipeline.run_eq`: a run emits its output and stores the documents of it
* `Pipeline.get?_output_of_not_taken`, `Pipeline.get?_output_of_taken`: what is found under the name
  of a table when the run is over
-/

namespace RowShape

namespace Pipeline

open Synthesizer (tableDocument procedureDocument)

variable (p : Pipeline)

/-- The identifier of the document of an entity. -/
def schemaId (name : String) : String := p.synthesizer.config.schemaId name

theorem schemaId_injective {name other : String} (h : p.schemaId name = p.schemaId other) :
    name = other :=
  p.synthesizer.config.schemaId_injective h

/-! ### Tables -/

/-- The document of a table, and what was found when it was built. -/
def tableSynthesis (t : String × TableColumns) : Synthesis :=
  ⟨tableDocument p.synthesizer.config t.1 t.2,
    p.synthesizer.selfCheck (tableDocument p.synthesizer.config t.1 t.2)⟩

/-- The documents of the tables of a catalog. -/
def tableDocuments (catalog : Catalog) : List SchemaDocument :=
  catalog.tables.entries.map fun t => tableDocument p.synthesizer.config t.1 t.2

/-- The identifiers that the tables of a catalog are stored under. -/
def tableIds (catalog : Catalog) : Set String := {id | ∃ name ∈ catalog.names, p.schemaId name = id}

theorem synthesizeTables_eq (ts : List (String × TableColumns)) (r : Registry) :
    p.synthesizeTables ts r = (ts.map p.tableSynthesis,
      r.insertAll (ts.map fun t => tableDocument p.synthesizer.config t.1 t.2)) := by
  induction ts generalizing r with
  | nil => rfl
  | cons t ts ih => simp [synthesizeTables, ih, Synthesizer.synthesizeTable, Synthesizer.finish,
      tableSynthesis]

theorem tableIds_eq (catalog : Catalog) :
    p.tableIds catalog = {id | ∃ d ∈ p.tableDocuments catalog, d.id = id} := by
  ext id
  constructor
  · rintro ⟨name, hn, rfl⟩
    obtain ⟨t, ht, rfl⟩ := List.mem_map.mp hn
    exact ⟨_, List.mem_map_of_mem ht, rfl⟩
  · rintro ⟨d, hd, rfl⟩
    obtain ⟨t, ht, rfl⟩ := List.mem_map.mp hd
    exact ⟨t.1, List.mem_map_of_mem ht, rfl⟩

/-- A name that no table has is not stored under the identifier of a table. -/
theorem schemaId_notMem_tableIds {catalog : Catalog} {name : String} (h : name ∉ catalog.names) :
    p.schemaId name ∉ p.tableIds catalog := by
  rintro ⟨table, ht, hid⟩
  obtain rfl := p.schemaId_injective hid
  exact h ht

/-- Once the tables are stored, every table is found under its identifier. -/
theorem get?_insertAll_tableDocuments {catalog : Catalog} {table : String} {columns : TableColumns}
    (h : catalog.table? table = some columns) (r : Registry) :
    (r.insertAll (p.tableDocuments catalog)).get? (p.schemaId table) =
      some (tableDocument p.synthesizer.config table columns) := by
  have entry : (table, columns) ∈ catalog.tables.entries := OrderedMap.mem_entries_iff.mpr h
  have some : ∃ d ∈ p.tableDocuments catalog, d.id = p.schemaId table :=
    ⟨_, List.mem_map_of_mem (f := fun t => tableDocument p.synthesizer.config t.1 t.2) entry, rfl⟩
  obtain ⟨d, hd, hid, found⟩ := Registry.exists_get?_insertAll some
  rw [found r]
  -- names are distinct, so the document that is found is that of this table
  obtain ⟨⟨name, other⟩, he, rfl⟩ := List.mem_map.mp hd
  obtain rfl : name = table := p.schemaId_injective hid
  obtain rfl : other = columns := Option.some.inj ((OrderedMap.mem_entries_iff.mp he).symm.trans h)
  rfl

/-! ### Procedures -/

section Procedures

variable {p} {catalog : Catalog}

/-- The document of a procedure, as it is built beside the documents of a registry. -/
theorem synthesizeProcedure_document (procedure : ProcedureDefinition) (r : Registry) :
    (p.synthesizeProcedure procedure catalog r).1.document =
      procedureDocument p.synthesizer.config r procedure.name
        (p.inferProcedure procedure catalog).columns := rfl

theorem synthesizeProcedure_snd (procedure : ProcedureDefinition) (r : Registry) :
    (p.synthesizeProcedure procedure catalog r).2 =
      r.insert (p.synthesizeProcedure procedure catalog r).1.document := rfl

theorem synthesizeProcedures_cons (procedure : ProcedureDefinition) (ps : List ProcedureDefinition)
    (r : Registry) :
    p.synthesizeProcedures catalog (procedure :: ps) r =
      ((p.synthesizeProcedure procedure catalog r).1 ::
          (p.synthesizeProcedures catalog ps (p.synthesizeProcedure procedure catalog r).2).1,
        (p.synthesizeProcedures catalog ps (p.synthesizeProcedure procedure catalog r).2).2) := rfl

theorem synthesizeProcedures_append (ps qs : List ProcedureDefinition) (r : Registry) :
    p.synthesizeProcedures catalog (ps ++ qs) r =
      ((p.synthesizeProcedures catalog ps r).1 ++
          (p.synthesizeProcedures catalog qs (p.synthesizeProcedures catalog ps r).2).1,
        (p.synthesizeProcedures catalog qs (p.synthesizeProcedures catalog ps r).2).2) := by
  induction ps generalizing r with
  | nil => rfl
  | cons q ps ih =>
    rw [List.cons_append, synthesizeProcedures_cons, ih]
    rfl

theorem length_synthesizeProcedures (ps : List ProcedureDefinition) (r : Registry) :
    (p.synthesizeProcedures catalog ps r).1.length = ps.length := by
  induction ps generalizing r with
  | nil => rfl
  | cons q ps ih =>
    rw [synthesizeProcedures_cons, List.length_cons, ih, List.length_cons]

/-- **Procedures only store what they emit**, in the order in which they emit it. -/
theorem synthesizeProcedures_snd (ps : List ProcedureDefinition) (r : Registry) :
    (p.synthesizeProcedures catalog ps r).2 =
      r.insertAll ((p.synthesizeProcedures catalog ps r).1.map (·.document)) := by
  induction ps generalizing r with
  | nil => rfl
  | cons q ps ih =>
    rw [synthesizeProcedures_cons, List.map_cons, Registry.insertAll_cons]
    exact ih _

/-- Every document of a procedure is built beside what was stored before, the documents of earlier
procedures included. -/
theorem exists_of_mem_synthesizeProcedures {ps : List ProcedureDefinition} {r : Registry}
    {s : Synthesis} (h : s ∈ (p.synthesizeProcedures catalog ps r).1) :
    ∃ earlier later procedure, ps = earlier ++ procedure :: later ∧
      s = (p.synthesizeProcedure procedure catalog
        (p.synthesizeProcedures catalog earlier r).2).1 := by
  induction ps generalizing r with
  | nil => cases h
  | cons q ps ih =>
    rw [synthesizeProcedures_cons, List.mem_cons] at h
    rcases h with rfl | h
    · exact ⟨[], ps, q, rfl, rfl⟩
    · obtain ⟨earlier, later, procedure, rfl, rfl⟩ := ih h
      exact ⟨q :: earlier, later, procedure, rfl, rfl⟩

/-- Documents of procedures carry the identifiers of their procedures. -/
theorem ids_synthesizeProcedures (ps : List ProcedureDefinition) (r : Registry) :
    (p.synthesizeProcedures catalog ps r).1.map (·.document.id) =
      ps.map fun q => p.schemaId q.name := by
  induction ps generalizing r with
  | nil => rfl
  | cons q ps ih =>
    rw [synthesizeProcedures_cons, List.map_cons, List.map_cons, ih]
    rfl

/-- The step: a procedure builds the same document beside registries that agree on the tables. -/
theorem synthesizeProcedure_congr {r s : Registry}
    (h : Registry.AgreeOn (p.tableIds catalog) r s) (procedure : ProcedureDefinition) :
    (p.synthesizeProcedure procedure catalog r).1 =
      (p.synthesizeProcedure procedure catalog s).1 := by
  have document : procedureDocument p.synthesizer.config r procedure.name
        (p.inferProcedure procedure catalog).columns =
      procedureDocument p.synthesizer.config s procedure.name
        (p.inferProcedure procedure catalog).columns := by
    refine Synthesizer.procedureDocument_congr fun c hc => ?_
    exact h _ ⟨c.table, (p.mem_inferProcedure procedure c hc).table_mem, rfl⟩
  simp only [synthesizeProcedure, Synthesizer.synthesizeProcedure, Synthesizer.finish, document]

/-- **Registries that agree on the tables give equal documents**, for any procedures one after
another.  Agreement survives a procedure, even one that takes the name of a table, because both
registries store the same document. -/
theorem synthesizeProcedures_congr (ps : List ProcedureDefinition) {r s : Registry}
    (h : Registry.AgreeOn (p.tableIds catalog) r s) :
    (p.synthesizeProcedures catalog ps r).1 = (p.synthesizeProcedures catalog ps s).1 := by
  induction ps generalizing r s with
  | nil => rfl
  | cons q ps ih =>
    have first := synthesizeProcedure_congr h q
    have next : Registry.AgreeOn (p.tableIds catalog) (p.synthesizeProcedure q catalog r).2
        (p.synthesizeProcedure q catalog s).2 := by
      rw [synthesizeProcedure_snd, synthesizeProcedure_snd, first]
      exact h.insert _
    rw [synthesizeProcedures_cons, synthesizeProcedures_cons, first, ih next]

end Procedures

/-! ### All of a run -/

/-- The procedures of a run, built once its tables are stored. -/
def procedureSyntheses (catalog : Catalog) (procedures : List ProcedureDefinition) :
    List Synthesis :=
  (p.synthesizeProcedures catalog procedures
    (Registry.empty.insertAll (p.tableDocuments catalog))).1

/-- The output of a run. -/
def output (catalog : Catalog) (procedures : List ProcedureDefinition) : RunOutput :=
  let all := catalog.tables.entries.map p.tableSynthesis ++ p.procedureSyntheses catalog procedures
  ⟨all.map (·.document), all.flatMap (·.diagnostics), catalog.size⟩

/-- What the tables and the procedures of a run give, one after another. -/
def syntheses (catalog : Catalog) (procedures : List ProcedureDefinition) : List Synthesis :=
  catalog.tables.entries.map p.tableSynthesis ++ p.procedureSyntheses catalog procedures

variable {p} {source : MetadataSource} {catalog : Catalog} {procedures : List ProcedureDefinition}

theorem documents_output_eq_map (procedures : List ProcedureDefinition) :
    (p.output catalog procedures).documents =
      (p.syntheses catalog procedures).map (·.document) := rfl

theorem diagnostics_output (procedures : List ProcedureDefinition) :
    (p.output catalog procedures).diagnostics =
      (p.syntheses catalog procedures).flatMap (·.diagnostics) := rfl

/-- Whatever was stored before the tables, procedures give the same. -/
theorem synthesizeProcedures_tableDocuments (r : Registry) :
    (p.synthesizeProcedures catalog procedures (r.insertAll (p.tableDocuments catalog))).1 =
      p.procedureSyntheses catalog procedures := by
  refine synthesizeProcedures_congr procedures ?_
  rw [tableIds_eq]
  exact Registry.agreeOn_insertAll _ _ _

theorem documents_output :
    (p.output catalog procedures).documents =
      p.tableDocuments catalog ++ (p.procedureSyntheses catalog procedures).map (·.document) := by
  simp only [output, List.map_append, List.map_map, tableDocuments]
  rfl

theorem tableDocuments_output :
    (p.output catalog procedures).tableDocuments = p.tableDocuments catalog := by
  rw [RunOutput.tableDocuments, documents_output]
  exact List.take_left' (by simp [tableDocuments, output, Catalog.size, OrderedMap.size])

theorem procedureDocuments_output :
    (p.output catalog procedures).procedureDocuments =
      (p.procedureSyntheses catalog procedures).map (·.document) := by
  rw [RunOutput.procedureDocuments, documents_output]
  exact List.drop_left' (by simp [tableDocuments, output, Catalog.size, OrderedMap.size])

/-- **A run emits its output and stores the documents of it**, whatever the registry holds. -/
theorem run_eq (ht : source.tables = .ok catalog) (hp : source.procedures = .ok procedures)
    (r : Registry) :
    p.run source r =
      .ok (p.output catalog procedures, r.insertAll (p.output catalog procedures).documents) := by
  have stored : p.synthesizeTables catalog.tables.entries r =
      (catalog.tables.entries.map p.tableSynthesis, r.insertAll (p.tableDocuments catalog)) :=
    p.synthesizeTables_eq _ _
  have last : (p.synthesizeProcedures catalog procedures
        (r.insertAll (p.tableDocuments catalog))).2 =
      r.insertAll (p.output catalog procedures).documents := by
    rw [synthesizeProcedures_snd, synthesizeProcedures_tableDocuments, documents_output,
      Registry.insertAll_append]
  simp only [run, ht, hp, stored, bind, Except.bind, pure, Except.pure, last,
    synthesizeProcedures_tableDocuments]
  rfl

/-- A run that succeeds has read both listings. -/
theorem exists_listings_of_run {r : Registry} {result : RunOutput × Registry}
    (hrun : p.run source r = .ok result) :
    ∃ catalog procedures, source.tables = .ok catalog ∧ source.procedures = .ok procedures := by
  rcases ht : source.tables with e | catalog
  · simp [run, ht, bind, Except.bind] at hrun
  rcases hp : source.procedures with e | procedures
  · simp [run, ht, hp, bind, Except.bind] at hrun
  exact ⟨catalog, procedures, rfl, rfl⟩

/-- What a run gave is its output, and what it left behind holds the documents of it. -/
theorem eq_of_run (ht : source.tables = .ok catalog) (hp : source.procedures = .ok procedures)
    {r f : Registry} {out : RunOutput} (hrun : p.run source r = .ok (out, f)) :
    p.output catalog procedures = out ∧
      r.insertAll (p.output catalog procedures).documents = f := by
  rw [run_eq ht hp] at hrun
  exact Prod.mk.inj (Except.ok.inj hrun)

/-- **Every document of a procedure is built beside the documents of the tables and of the
procedures before it**, as if these had been a run of their own. -/
theorem exists_of_mem_procedureDocuments {d : SchemaDocument}
    (h : d ∈ (p.output catalog procedures).procedureDocuments) :
    ∃ earlier procedure later, procedures = earlier ++ procedure :: later ∧
      d = procedureDocument p.synthesizer.config
        (Registry.empty.insertAll (p.output catalog earlier).documents) procedure.name
        (p.inferProcedure procedure catalog).columns := by
  rw [procedureDocuments_output] at h
  obtain ⟨s, hs, rfl⟩ := List.mem_map.mp h
  obtain ⟨earlier, later, procedure, rfl, rfl⟩ := exists_of_mem_synthesizeProcedures hs
  refine ⟨earlier, procedure, later, rfl, ?_⟩
  rw [synthesizeProcedure_document, synthesizeProcedures_snd, documents_output,
    Registry.insertAll_append]
  rfl

/-- Documents of procedures are stored under the names of procedures. -/
theorem exists_id_eq_of_mem_procedureDocuments {d : SchemaDocument}
    (h : d ∈ (p.output catalog procedures).procedureDocuments) :
    ∃ q ∈ procedures, d.id = p.schemaId q.name := by
  obtain ⟨earlier, procedure, later, rfl, rfl⟩ := exists_of_mem_procedureDocuments h
  exact ⟨procedure, by simp, rfl⟩

/-- **A table whose name no procedure takes** is found when the run is over. -/
theorem get?_output_of_not_taken {table : String} {columns : TableColumns}
    (h : catalog.table? table = some columns) (free : ∀ q ∈ procedures, q.name ≠ table)
    (r : Registry) :
    (r.insertAll (p.output catalog procedures).documents).get? (p.schemaId table) =
      some (tableDocument p.synthesizer.config table columns) := by
  rw [documents_output, ← procedureDocuments_output, Registry.insertAll_append,
    Registry.get?_insertAll_of_ne, get?_insertAll_tableDocuments p h]
  intro d hd heq
  obtain ⟨q, hq, hid⟩ := exists_id_eq_of_mem_procedureDocuments hd
  exact free q hq (p.schemaId_injective (hid.symm.trans heq))

/-- **Under a name that a procedure takes**, the document of the last such procedure is found when
the run is over. -/
theorem get?_output_of_taken {name : String} (taken : ∃ q ∈ procedures, q.name = name)
    (r : Registry) :
    (r.insertAll (p.output catalog procedures).documents).get? (p.schemaId name) =
      (p.output catalog procedures).procedureDocuments.findRev? (·.id == p.schemaId name) := by
  have ids : (p.procedureSyntheses catalog procedures).map (·.document.id) =
      procedures.map fun q => p.schemaId q.name := ids_synthesizeProcedures _ _
  obtain ⟨q, hq, rfl⟩ := taken
  have listed : p.schemaId q.name ∈ (p.procedureSyntheses catalog procedures).map (·.document.id) :=
    ids ▸ List.mem_map_of_mem (f := fun q => p.schemaId q.name) hq
  obtain ⟨s, hs, hid⟩ := List.mem_map.mp listed
  have emitted : s.document ∈ (p.output catalog procedures).procedureDocuments := by
    rw [procedureDocuments_output]
    exact List.mem_map_of_mem hs
  obtain ⟨d, last⟩ : ∃ d, (p.output catalog procedures).procedureDocuments.findRev?
      (·.id == p.schemaId q.name) = some d := by
    rw [← hid]
    exact exists_findRev?_key emitted
  rw [documents_output, ← procedureDocuments_output, Registry.insertAll_append,
    Registry.get?_insertAll, last, Option.some_or]

/-! ### A database -/

/-- A database with two tables, and a procedure that reads one of them. -/
def plain : StaticMetadata where
  tables := .ofRows [⟨"orders", "id", ⟨"int", false⟩⟩, ⟨"customers", "name", ⟨"nvarchar", true⟩⟩]
  procedures := [.undated "report" "SELECT name FROM customers"]

/-- The same database with another procedure, which takes the name of the table that it reads. -/
def shadowed : StaticMetadata where
  tables := plain.tables
  procedures := .undated "orders" "SELECT id FROM orders" :: plain.procedures

end Pipeline

end RowShape
