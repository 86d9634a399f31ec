import RowShape.Proofs.Document.Required

/-!
# Documents of procedures, built and stored

Building the document of a procedure reads the registry and writes it.  All reading comes first:
whether a column is described by a reference depends on the documents that are there before, also
where one of them stands under the identifier of the procedure itself and is about to be replaced.
The only trace in the registry is the document, under its own identifier.

Of several columns with one name the property describes the last one, at the place of the first.

## Main definitions

* `IsLastOfName`: a column that no later one of its name replaces
* `BuildsProcedure`: a document that is built for a procedure, and the registries before and after

## Main results

* `Synthesizer.property?_procedureDocument_eq`: a property describes the kept column of its name
* `Synthesizer.synthesizeProcedure_builds`: what building the document of a procedure does
-/

namespace RowShape

/-- A column is the last one of its name: no later one replaces it. -/
def IsLastOfName (columns : List ResolvedColumn) (c : ResolvedColumn) : Prop :=
  ∃ earlier later, columns = earlier ++ c :: later ∧ ∀ other ∈ later, other.column ≠ c.column

/-- The kept column of a name is the last one. -/
theorem IsLastOfName.keptColumn?_eq {columns : List ResolvedColumn} {c : ResolvedColumn}
    (h : IsLastOfName columns c) : keptColumn? columns c.column = some c := by
  obtain ⟨earlier, later, rfl, replaced⟩ := h
  rw [keptColumn?, List.findRev?_eq_find?_reverse, List.find?_eq_some_iff_append]
  refine ⟨by simp, later.reverse, earlier.reverse, by simp, ?_⟩
  intro other ho
  simpa using replaced other (List.mem_reverse.mp ho)

/-- A document that is built for a procedure: what it says, and what becomes of the registry. -/
structure BuildsProcedure (config : Config) (name : String) (columns : List ResolvedColumn)
    (before : Registry) (d : SchemaDocument) (after : Registry) : Prop where
  /-- The properties stand where columns of their names first come. -/
  ordered : d.properties.keys = (columns.map (·.column)).eraseDups
  /-- The last column of a name is described by a reference, if its table had declared it before. -/
  refers : ∀ c, IsLastOfName columns c → before.Declares (config.schemaId c.table) c.column →
    d.property? c.column = some (.pointing (pointerTo (config.schemaId c.table) c.column)
      (c.column ++ " from table " ++ c.table))
  /-- Otherwise it is described by itself. -/
  describes : ∀ c, IsLastOfName columns c → ¬ before.Declares (config.schemaId c.table) c.column →
    d.property? c.column = some (inlineProperty .untyped c.info.dbType)
  /-- The document is stored under the identifier of the procedure. -/
  stored : after.get? (config.schemaId name) = some d
  /-- Nothing changes under any other identifier. -/
  framed : ∀ id, id ≠ config.schemaId name → after.get? id = before.get? id

namespace Synthesizer

variable {config : Config} {registry : Registry} {name : String}

/-- **A property describes the kept column of its name**, and nothing else has a property. -/
theorem property?_procedureDocument_eq (columns : List ResolvedColumn) (column : String) :
    (procedureDocument config registry name columns).property? column =
      (keptColumn? columns column).map (columnProperty config registry) := by
  change (procedureProperties config registry columns).properties.get? column = _
  rw [procedureProperties, properties_foldl_add, OrderedMap.get?_foldl_insert]
  exact Option.or_none

/-- **Building the document of a procedure** describes the last column of every name beside the
registry as it is before, and stores the document. -/
theorem synthesizeProcedure_builds (s : Synthesizer) (name : String)
    (columns : List ResolvedColumn) (registry : Registry) :
    BuildsProcedure s.config name columns registry
      (s.synthesizeProcedure name columns registry).1.document
      (s.synthesizeProcedure name columns registry).2 where
  ordered := keys_procedureDocument columns
  refers c last declared := by
    change (procedureDocument s.config registry name columns).property? c.column = _
    rw [property?_procedureDocument_eq, last.keptColumn?_eq, Option.map_some,
      columnProperty_of_declares declared]
  describes c last undeclared := by
    change (procedureDocument s.config registry name columns).property? c.column = _
    rw [property?_procedureDocument_eq, last.keptColumn?_eq, Option.map_some,
      columnProperty_of_not_declares undeclared]
  stored := by
    change (registry.insert (procedureDocument s.config registry name columns)).get? _ = _
    rw [Registry.get?_insert]
    exact if_pos rfl
  framed id other := by
    change (registry.insert (procedureDocument s.config registry name columns)).get? id = _
    rw [Registry.get?_insert]
    exact if_neg other

/-- A procedure that is named like its table refers to the document that it replaces, and does not
see the properties of its own. -/
example :
    let before := Registry.empty.insert
      (tableDocument .default "orders" ((.empty : TableColumns).insert "id" ⟨"int", false⟩))
    let d := procedureDocument .default before "orders"
      [⟨"orders", "id", ⟨"int", false⟩⟩, ⟨"orders", "total", ⟨"money", true⟩⟩,
        ⟨"orders", "total", ⟨"money", true⟩⟩]
    d.properties.entries.map (fun e => (e.1, e.2.isReference)) =
      [("id", true), ("total", false)] := by
  decide

end Synthesizer

end RowShape
