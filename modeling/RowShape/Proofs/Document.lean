import RowShape.Proofs.Resolution
import RowShape.Proofs.Registry

/-!
# What built documents say

The properties of a document are those of its columns, and of several columns with one name the last
one counts.  The document of a table describes every column by itself.  The document of a procedure
reads the registry only under the identifiers of the tables of its columns, and a reference in it
leads to the column that it was built for.

## Main definitions

* `pointerTo`: the address of a property in the document of an identifier
* `Registry.Declares`: a registry has a document with a property

## Main results

* `Synthesizer.property?_tableDocument`: the properties of a table
* `Synthesizer.property?_procedureDocument`: the properties of a procedure
* `Synthesizer.procedureDocument_congr`: which part of the registry a procedure reads
* `Synthesizer.columnProperty_of_declares`, `Synthesizer.columnProperty_of_not_declares`: when a
  column is described by a reference
* `Synthesizer.columnProperty_cases`: where the reference leads
-/

namespace RowShape

/-- The address of a property in the document of an identifier. -/
def pointerTo (id name : String) : String := id ++ "/properties/" ++ name

/-- Two addresses of properties of one name are equal only if they lead to one document. -/
theorem pointerTo_inj_left {id id' name : String} (h : pointerTo id name = pointerTo id' name) :
    id = id' := by
  simpa [pointerTo, String.append_left_inj] using h

theorem Config.schemaId_injective (config : Config) {name other : String}
    (h : config.schemaId name = config.schemaId other) : name = other := by
  simpa [Config.schemaId, String.append_right_inj] using h

/-- There is a document under an identifier that has a property of a name. -/
def Registry.Declares (r : Registry) (id name : String) : Prop :=
  ∃ d, r.get? id = some d ∧ name ∈ d.properties.keys

/-- A column of a table always has a type. -/
theorem exists_inlineProperty_asString (dbType : String) :
    ∃ type, inlineProperty .asString dbType = .inline (some type) (formatOf? dbType) := by
  rw [inlineProperty]
  cases typeOf? dbType with
  | some type => exact ⟨type, rfl⟩
  | none => exact ⟨.string, rfl⟩

namespace Synthesizer

variable {config : Config} {registry : Registry} {name : String}

/-! ### Property lists -/

/-- The properties that are added one after another are written one after another. -/
theorem properties_foldl_add {β : Type} (key : β → String) (property : β → PropertySchema)
    (nullable : β → Bool) (xs : List β) (b : PropertyList) :
    (xs.foldl (fun b x => b.add (key x) (property x) (nullable x)) b).properties =
      xs.foldl (fun m x => m.insert (key x) (property x)) b.properties := by
  induction xs generalizing b with
  | nil => rfl
  | cons x xs ih => exact ih (b.add (key x) (property x) (nullable x))

/-! ### Tables -/

/-- **The properties of a table** are its columns, each described by itself. -/
theorem property?_tableDocument (columns : TableColumns) (column : String) :
    (tableDocument config name columns).property? column =
      (columns.get? column).map fun info => inlineProperty .asString info.dbType := by
  change (tableProperties columns).properties.get? column = _
  rw [tableProperties, properties_foldl_add]
  cases hg : columns.get? column with
  | none =>
    -- no entry is written under the name of the column
    rw [Option.map_none, Option.eq_none_iff_forall_ne_some]
    intro property hp
    obtain ⟨⟨key, info⟩, he, hk, -⟩ := OrderedMap.exists_of_get?_foldl_insert hp
    obtain rfl : key = column := hk
    rw [OrderedMap.mem_entries_iff.mp he] at hg
    cases hg
  | some info =>
    have entry : (column, info) ∈ columns.entries := OrderedMap.mem_entries_iff.mpr hg
    have written : ((columns.entries.foldl
        (fun m e => m.insert e.1 (inlineProperty .asString e.2.dbType))
        PropertyList.empty.properties).get? column).isSome :=
      OrderedMap.isSome_get?_foldl_insert entry _
    obtain ⟨property, hp⟩ := Option.isSome_iff_exists.mp written
    rw [hp]
    -- whichever entry was written last under this name, it is the entry of the column
    obtain ⟨⟨key, other⟩, he, hk, rfl⟩ := OrderedMap.exists_of_get?_foldl_insert hp
    obtain rfl : key = column := hk
    obtain rfl : other = info :=
      Option.some.inj ((OrderedMap.mem_entries_iff.mp he).symm.trans hg)
    rfl

/-! ### Procedures -/

/-- **The properties of a procedure** describe its columns. -/
theorem property?_procedureDocument {columns : List ResolvedColumn} {column : String}
    {property : PropertySchema}
    (h : (procedureDocument config registry name columns).property? column = some property) :
    ∃ c ∈ columns, c.column = column ∧ columnProperty config registry c = property := by
  change (procedureProperties config registry columns).properties.get? column = _ at h
  rw [procedureProperties, properties_foldl_add] at h
  exact OrderedMap.exists_of_get?_foldl_insert h

theorem columnProperty_congr {r s : Registry} {c : ResolvedColumn}
    (h : r.get? (config.schemaId c.table) = s.get? (config.schemaId c.table)) :
    columnProperty config r c = columnProperty config s c := by
  rw [columnProperty, columnProperty, tableReference?, tableReference?, h]

/-- **Which part of the registry a procedure reads**: what is stored under the identifiers of the
tables of its columns. -/
theorem procedureDocument_congr {r s : Registry} {columns : List ResolvedColumn}
    (h : ∀ c ∈ columns, r.get? (config.schemaId c.table) = s.get? (config.schemaId c.table)) :
    procedureDocument config r name columns = procedureDocument config s name columns := by
  have same : procedureProperties config r columns = procedureProperties config s columns := by
    refine List.foldl_ext _ _ _ fun b c hc => ?_
    rw [columnProperty_congr (h c hc)]
  rw [procedureDocument, procedureDocument, same]

/-- The document of the table says something about the column, so that the column is described by a
reference. -/
theorem columnProperty_of_stored {c : ResolvedColumn} {d : SchemaDocument}
    (hd : registry.get? (config.schemaId c.table) = some d) (hp : (d.property? c.column).isSome) :
    columnProperty config registry c =
      .pointing (pointerTo (config.schemaId c.table) c.column)
        (c.column ++ " from table " ++ c.table) := by
  obtain ⟨property, hp⟩ := Option.isSome_iff_exists.mp hp
  have hid : d.id = config.schemaId c.table := Registry.id_of_get? hd
  simp [columnProperty, tableReference?, hd, hp, SchemaDocument.propertyPointer, pointerTo, hid]

/-- A column that its table declares is described by a reference. -/
theorem columnProperty_of_declares {c : ResolvedColumn}
    (h : registry.Declares (config.schemaId c.table) c.column) :
    columnProperty config registry c =
      .pointing (pointerTo (config.schemaId c.table) c.column)
        (c.column ++ " from table " ++ c.table) := by
  obtain ⟨d, hd, key⟩ := h
  refine columnProperty_of_stored hd ?_
  rw [Option.isSome_iff_ne_none]
  intro none
  exact OrderedMap.get?_eq_none_iff.mp none key

/-- A column that its table does not declare is described by itself. -/
theorem columnProperty_of_not_declares {c : ResolvedColumn}
    (h : ¬ registry.Declares (config.schemaId c.table) c.column) :
    columnProperty config registry c = inlineProperty .untyped c.info.dbType := by
  cases hd : registry.get? (config.schemaId c.table) with
  | none => simp [columnProperty, tableReference?, hd]
  | some d =>
    have absent : d.property? c.column = none :=
      OrderedMap.get?_eq_none_iff.mpr fun key => h ⟨d, hd, key⟩
    simp [columnProperty, tableReference?, hd, absent]

/-- **A reference leads to the column that it was built for**: a column of a procedure is described
by a reference to its own table, or by itself. -/
theorem columnProperty_cases (registry : Registry) (c : ResolvedColumn) :
    columnProperty config registry c =
        .pointing (pointerTo (config.schemaId c.table) c.column)
          (c.column ++ " from table " ++ c.table) ∨
      columnProperty config registry c = inlineProperty .untyped c.info.dbType := by
  by_cases declared : registry.Declares (config.schemaId c.table) c.column
  · exact Or.inl (columnProperty_of_declares declared)
  · exact Or.inr (columnProperty_of_not_declares declared)

end Synthesizer

end RowShape
