import RowShape.Proofs.Run

/-!
# References of a run

A property of a procedure that refers to a table refers to a column that the catalog declares for
that table, and the document of the table is emitted by the same run.  Whether the reference can be
followed in the registry that the run leaves behind is a question of names, because tables and
procedures share their identifiers and the last document stays: as long as no procedure takes the
name of the table, the table is found and the reference leads to its column.

If no procedure at all takes the name of a table, then every property of every procedure is such a
reference: the table is stored before the first procedure and no procedure overwrites it.

## Main definitions

* `Pipeline.RefersTo`: a property that refers to a column of an emitted table
* `Registry.Leads`: where a property leads if its references are followed

## Main results

* `Pipeline.references_closed`: procedures consist of references, and none of them dangles
* `Pipeline.reference_comes_back`: a procedure with the name of its table refers to itself
* `Pipeline.references_lead`: references to tables whose name is not taken lead to their columns
-/

namespace RowShape

/-! ### Following references -/

/-- **Where a property leads**: a property that has no reference leads to itself, and a reference to
the property of that name in another document leads to where that property does.  A reference to
what the registry does not hold leads nowhere. -/
inductive Registry.Leads (r : Registry) (name : String) : String → PropertySchema → Prop
  | here {id : String} {property : PropertySchema} (found : r.property? id name = some property)
      (own : property.reference = none) : Leads r name id property
  | there {id next : String} {property target : PropertySchema}
      (found : r.property? id name = some property)
      (reference : property.reference = some (pointerTo next name))
      (rest : Leads r name next target) : Leads r name id target

namespace Registry

variable {r : Registry} {name id : String} {property : PropertySchema}

theorem leads_iff_of_own (found : r.property? id name = some property)
    (own : property.reference = none) {target : PropertySchema} :
    r.Leads name id target ↔ property = target := by
  constructor
  · intro h
    cases h with
    | here found' own' => exact Option.some.inj (found.symm.trans found')
    | there found' reference rest =>
      obtain rfl := Option.some.inj (found.symm.trans found')
      rw [own] at reference
      cases reference
  · rintro rfl
    exact .here found own

/-- A property that refers to itself leads nowhere. -/
theorem not_leads_of_self_reference (found : r.property? id name = some property)
    (self : property.reference = some (pointerTo id name)) (target : PropertySchema) :
    ¬ r.Leads name id target := by
  intro h
  induction h with
  | here found' own =>
    obtain rfl := Option.some.inj (found.symm.trans found')
    rw [own] at self
    cases self
  | there found' reference rest ih =>
    -- the only way on is back to where the property stands
    obtain rfl := Option.some.inj (found.symm.trans found')
    obtain rfl := pointerTo_inj_left (Option.some.inj (self.symm.trans reference))
    exact ih found self

end Registry

namespace Pipeline

open Synthesizer (tableDocument columnProperty)

/-! ### Properties of procedures -/

/-- The property of a column refers to the column of this name in a table, whose document `t` the
run has emitted. -/
structure RefersTo (p : Pipeline) (catalog : Catalog) (out : RunOutput) (column : String)
    (property : PropertySchema) (table : String) (t : SchemaDocument) : Prop where
  /-- The catalog declares the column for the table. -/
  declared : (catalog.column? table column).isSome
  /-- The property has a reference and a description, and neither type nor format. -/
  pointing : ∃ description,
    property = .pointing (pointerTo (p.schemaId table) column) description
  /-- The document of the table stands among those of the run. -/
  emitted : t ∈ out.tableDocuments ∧ t.id = p.schemaId table
  /-- It describes the column by itself, with a type. -/
  own : ∃ type format, t.property? column = some (.inline (some type) format)

section Properties

variable {p : Pipeline} {catalog : Catalog} {procedures : List ProcedureDefinition}

/-- A property of a procedure describes a declared column, beside what was stored when its document
was built. -/
theorem exists_column_of_property {d : SchemaDocument}
    (hd : d ∈ (p.output catalog procedures).procedureDocuments) {column : String}
    {property : PropertySchema} (hp : d.property? column = some property) :
    ∃ earlier, (∀ q ∈ earlier, q ∈ procedures) ∧ ∃ c : ResolvedColumn, c.DeclaredIn catalog ∧
      c.column = column ∧ columnProperty p.synthesizer.config
        (Registry.empty.insertAll (p.output catalog earlier).documents) c = property := by
  obtain ⟨earlier, procedure, later, rfl, rfl⟩ := exists_of_mem_procedureDocuments hd
  obtain ⟨c, hc, hn, rfl⟩ := Synthesizer.property?_procedureDocument hp
  exact ⟨earlier, fun q hq => List.mem_append_left _ hq, c, p.mem_inferProcedure procedure c hc, hn,
    rfl⟩

/-- The table of a declared column is emitted, and describes the column by itself. -/
theorem refersTo_of_declared {c : ResolvedColumn} (hc : c.DeclaredIn catalog)
    {columns : TableColumns} (ht : catalog.table? c.table = some columns) :
    p.RefersTo catalog (p.output catalog procedures) c.column
      (.pointing (pointerTo (p.schemaId c.table) c.column) (c.column ++ " from table " ++ c.table))
      c.table (tableDocument p.synthesizer.config c.table columns) := by
  refine ⟨Option.isSome_of_eq_some hc, ⟨_, rfl⟩, ⟨?_, rfl⟩, ?_⟩
  · rw [tableDocuments_output]
    exact List.mem_map_of_mem (f := fun t => tableDocument p.synthesizer.config t.1 t.2)
      (OrderedMap.mem_entries_iff.mpr ht)
  · obtain ⟨columns', ht', hg⟩ := Catalog.column?_eq_some_iff.mp hc
    obtain rfl := Option.some.inj (ht.symm.trans ht')
    obtain ⟨type, hi⟩ := exists_inlineProperty_asString c.info.dbType
    exact ⟨type, _, by rw [Synthesizer.property?_tableDocument, hg, Option.map_some, hi]⟩

/-- A property of a procedure refers to an emitted table, if it has a reference at all. -/
theorem refersTo_of_reference {d : SchemaDocument}
    (hd : d ∈ (p.output catalog procedures).procedureDocuments) {column : String}
    {property : PropertySchema} (hp : d.property? column = some property)
    (href : property.reference.isSome) :
    ∃ table columns, catalog.table? table = some columns ∧
      p.RefersTo catalog (p.output catalog procedures) column property table
        (tableDocument p.synthesizer.config table columns) := by
  obtain ⟨earlier, -, c, hc, rfl, rfl⟩ := exists_column_of_property hd hp
  obtain ⟨columns, ht, -⟩ := Catalog.column?_eq_some_iff.mp hc
  refine ⟨c.table, columns, ht, ?_⟩
  rcases Synthesizer.columnProperty_cases
    (Registry.empty.insertAll (p.output catalog earlier).documents) c with h | h
  · rw [h]
    exact refersTo_of_declared hc ht
  · rw [h] at href
    cases href

end Properties

/-! ### Names apart -/

/-- **Procedures consist of references, and none of them dangles**: if no procedure takes the name
of a table, then every property of a procedure refers to a column of a table that the run emits and
that the registry still holds when the run is over. -/
theorem references_closed (p : Pipeline) {source : MetadataSource} {catalog : Catalog}
    {procedures : List ProcedureDefinition} (ht : source.tables = .ok catalog)
    (hp : source.procedures = .ok procedures) (apart : ∀ q ∈ procedures, q.name ∉ catalog.names)
    {r f : Registry} {out : RunOutput} (hrun : p.run source r = .ok (out, f)) :
    ∀ d ∈ out.procedureDocuments, ∀ column property, d.property? column = some property →
      ∃ table t, p.RefersTo catalog out column property table t ∧
        f.get? (p.schemaId table) = some t := by
  obtain ⟨rfl, rfl⟩ := eq_of_run ht hp hrun
  intro d hd column property hprop
  obtain ⟨earlier, sub, c, hc, rfl, rfl⟩ := exists_column_of_property hd hprop
  obtain ⟨columns, htable, hg⟩ := Catalog.column?_eq_some_iff.mp hc
  have free : ∀ q ∈ procedures, q.name ≠ c.table := by
    intro q hq heq
    exact apart q hq (heq ▸ hc.table_mem)
  -- the procedures before this one have not overwritten the table either
  have stored := get?_output_of_not_taken (p := p) htable (fun q hq => free q (sub q hq)) .empty
  have said : ((tableDocument p.synthesizer.config c.table columns).property? c.column).isSome := by
    rw [Synthesizer.property?_tableDocument, hg]
    rfl
  rw [Synthesizer.columnProperty_of_stored stored said]
  exact ⟨c.table, _, refersTo_of_declared hc htable, get?_output_of_not_taken htable free r⟩

/-- The column of the procedure of `plain` refers to a table that is still there. -/
theorem references_closed_plain :
    (∀ q ∈ plain.procedures, q.name ∉ plain.tables.names) ∧
      ∃ out f, (standard .default).run plain.source .empty = .ok (out, f) ∧
        ∃ d ∈ out.procedureDocuments, ∃ property, d.property? "name" = some property ∧
          ∃ table t, (standard .default).RefersTo plain.tables out "name" property table t ∧
            f.get? ((standard .default).schemaId table) = some t := by
  have apart : ∀ q ∈ plain.procedures, q.name ∉ plain.tables.names := by decide
  have run : (standard .default).run plain.source .empty = _ := run_eq rfl rfl _
  have said : (((standard .default).output plain.tables
      plain.procedures).procedureDocuments[0]?.bind (·.property? "name")).isSome := by
    decide +kernel
  obtain ⟨property, hb⟩ := Option.isSome_iff_exists.mp said
  obtain ⟨d, hd, hprop⟩ := Option.bind_eq_some_iff.mp hb
  have mem := List.mem_of_getElem? hd
  exact ⟨apart, _, _, run, d, mem, property, hprop,
    references_closed (standard .default) rfl rfl apart run d mem "name" property hprop⟩

/-! ### Names that are taken -/

/-- **A procedure with the name of its table refers to itself**: the table is overwritten, and the
reference that stands in the document of the procedure leads nowhere. -/
theorem reference_comes_back :
    ∃ out f, (standard .default).run shadowed.source .empty = .ok (out, f) ∧
      ∃ d ∈ out.procedureDocuments, ∃ property, d.property? "id" = some property ∧
        property.reference = some (pointerTo ((standard .default).schemaId "orders") "id") ∧
        ∀ target, ¬ f.Leads "id" ((standard .default).schemaId "orders") target := by
  have run : (standard .default).run shadowed.source .empty = _ := run_eq rfl rfl _
  have said : ((standard .default).output shadowed.tables
      shadowed.procedures).procedureDocuments[0]?.bind (·.property? "id") =
        some (.pointing "#/definitions/orders/properties/id" "id from table orders") := by
    decide +kernel
  have left : (Registry.empty.insertAll ((standard .default).output shadowed.tables
      shadowed.procedures).documents).property? "#/definitions/orders" "id" =
        some (.pointing "#/definitions/orders/properties/id" "id from table orders") := by
    decide +kernel
  obtain ⟨d, hd, hprop⟩ := Option.bind_eq_some_iff.mp said
  exact ⟨_, _, run, d, List.mem_of_getElem? hd, _, hprop, rfl,
    Registry.not_leads_of_self_reference left rfl⟩

/-- **References to tables whose name is not taken lead to their columns**, in every run: whatever
the names of procedures are, a reference of a procedure refers to a column of a table that the run
emits.  If no procedure takes the name of the table, the reference leads to exactly the property
that the document of the table has for the column.  Otherwise its first step finds the document of
the last procedure of that name. -/
theorem references_lead (p : Pipeline) {source : MetadataSource} {catalog : Catalog}
    {procedures : List ProcedureDefinition} (ht : source.tables = .ok catalog)
    (hp : source.procedures = .ok procedures) {r f : Registry} {out : RunOutput}
    (hrun : p.run source r = .ok (out, f)) :
    ∀ d ∈ out.procedureDocuments, ∀ column property, d.property? column = some property →
      property.reference.isSome →
      ∃ table t, p.RefersTo catalog out column property table t ∧
        ((∀ q ∈ procedures, q.name ≠ table) → ∀ target,
          f.Leads column (p.schemaId table) target ↔ t.property? column = some target) ∧
        ((∃ q ∈ procedures, q.name = table) → f.get? (p.schemaId table) =
          out.procedureDocuments.findRev? (·.id == p.schemaId table)) := by
  obtain ⟨rfl, rfl⟩ := eq_of_run ht hp hrun
  intro d hd column property hprop href
  obtain ⟨table, columns, htable, refers⟩ := refersTo_of_reference hd hprop href
  refine ⟨table, _, refers, fun free target => ?_, fun taken => get?_output_of_taken taken r⟩
  obtain ⟨type, format, own⟩ := refers.own
  have found : (r.insertAll (p.output catalog procedures).documents).property? (p.schemaId table)
      column = some (.inline (some type) format) := by
    rw [Registry.property?, get?_output_of_not_taken htable free r]
    exact own
  rw [Registry.leads_iff_of_own found rfl, own, Option.some.injEq]

/-- In `shadowed`, the column of the second procedure leads to its table, although the other table
has been overwritten. -/
theorem references_lead_shadowed :
    ∃ out f, (standard .default).run shadowed.source .empty = .ok (out, f) ∧
      ∃ d ∈ out.procedureDocuments, ∃ property, d.property? "name" = some property ∧
        property.reference.isSome ∧
        ∃ table t, (standard .default).RefersTo shadowed.tables out "name" property table t ∧
          ((∀ q ∈ shadowed.procedures, q.name ≠ table) → ∀ target,
            f.Leads "name" ((standard .default).schemaId table) target ↔
              t.property? "name" = some target) ∧
          ((∃ q ∈ shadowed.procedures, q.name = table) →
            f.get? ((standard .default).schemaId table) =
              out.procedureDocuments.findRev? (·.id == (standard .default).schemaId table)) := by
  have run : (standard .default).run shadowed.source .empty = _ := run_eq rfl rfl _
  have said : ((standard .default).output shadowed.tables
      shadowed.procedures).procedureDocuments[1]?.bind (·.property? "name") =
        some (.pointing "#/definitions/customers/properties/name" "name from table customers") := by
    decide +kernel
  obtain ⟨d, hd, hprop⟩ := Option.bind_eq_some_iff.mp said
  have mem := List.mem_of_getElem? hd
  exact ⟨_, _, run, d, mem, _, hprop, rfl,
    references_lead (standard .default) rfl rfl run d mem "name" _ hprop rfl⟩

end Pipeline

end RowShape
