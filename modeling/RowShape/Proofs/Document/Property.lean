import RowShape.Proofs.Document

/-!
# Well-formed properties

Whatever a column is called and whatever its type is called in the database, the property that
describes it makes sense: it has a type of its own or says where one is to be found, never both, and
only strings are said to be points in time.

The last point is one about two tests that know nothing of each other.  A type is looked up by its
whole name, and a format is given to every name that holds `date` or `time` anywhere.  All the names
of the table for which both happen are in rows for strings (`type_of_formatOf?`), and any name that
is not in the table has no type or is said to be one of strings.

## Main definitions

* `typeNames`: the names of known types
* `PropertySchema.IsInline`, `PropertySchema.IsPointing`, `PropertySchema.FormatsStrings`: what a
  property may look like
* `Synthesizer.DescribesWell`: the properties that a synthesizer emits are well-formed

## Main results

* `typeOf?_eq_none_iff`: which types are unknown
* `formatsStrings_inlineProperty`: a format is one of strings
* `inlineProperty_untyped`: how the properties of tables and of procedures differ
* `Synthesizer.describesWell`: every synthesizer emits well-formed properties
-/

namespace RowShape

/-! ### Types and formats -/

/-- The names of known types, in lower case. -/
def typeNames : List String := typeTable.flatMap (·.2)

/-- A type that is found stands in a row of the table together with its name. -/
theorem exists_row_of_typeOf? {dbType : String} {type : JsonType} (h : typeOf? dbType = some type) :
    ∃ row ∈ typeTable, Text.lowerCase dbType ∈ row.2 ∧ row.1 = type := by
  obtain ⟨row, found, rfl⟩ := Option.map_eq_some_iff.mp h
  have named : row.2.contains (Text.lowerCase dbType) = true :=
    List.find?_some (p := fun row : JsonType × List String =>
      row.2.contains (Text.lowerCase dbType)) found
  exact ⟨row, List.mem_of_find?_eq_some found, List.contains_iff_mem.mp named, rfl⟩

/-- **Which types are unknown**: those whose names are in no row of the table. -/
theorem typeOf?_eq_none_iff {dbType : String} :
    typeOf? dbType = none ↔ Text.lowerCase dbType ∉ typeNames := by
  rw [typeOf?, Option.map_eq_none_iff, List.find?_eq_none, typeNames, List.mem_flatMap]
  simp only [List.contains_iff_mem, not_exists, not_and]

/-- There is only one format. -/
theorem formatOf?_eq_some_iff {dbType format : String} :
    formatOf? dbType = some format ↔
      (Text.contains "date" (Text.lowerCase dbType) ∨
        Text.contains "time" (Text.lowerCase dbType)) ∧ format = "date-time" := by
  simp only [formatOf?, dateTimeFormat, Option.ite_none_right_eq_some, Bool.or_eq_true,
    Option.some.injEq]
  exact and_congr_right fun _ => eq_comm

/-- In the table, names that hold `date` or `time` are names of strings. -/
theorem typeTable_of_contains : ∀ row ∈ typeTable, ∀ name ∈ row.2,
    Text.contains "date" name ∨ Text.contains "time" name → row.1 = .string := by
  decide

/-- **A known type that has a format is that of strings.** -/
theorem type_of_formatOf? {dbType format : String} {type : JsonType}
    (known : typeOf? dbType = some type) (formatted : formatOf? dbType = some format) :
    type = .string := by
  obtain ⟨row, hr, named, rfl⟩ := exists_row_of_typeOf? known
  obtain ⟨contains, -⟩ := formatOf?_eq_some_iff.mp formatted
  exact typeTable_of_contains row hr _ named contains

/-! ### What a property may look like -/

namespace PropertySchema

/-- The property does not say that it is described elsewhere. -/
def IsInline (q : PropertySchema) : Prop := q.reference = none ∧ q.description = none

/-- The property says where it is described, and nothing else. -/
def IsPointing (q : PropertySchema) : Prop :=
  ∃ pointer description, q = .pointing pointer description

/-- A format is that of points in time, and no values other than strings have it. -/
def FormatsStrings (q : PropertySchema) : Prop :=
  ∀ format, q.format = some format →
    format = "date-time" ∧ (q.type = some .string ∨ q.type = none)

theorem formatsStrings_pointing (pointer description : String) :
    (pointing pointer description).FormatsStrings := by
  intro format h
  cases h

end PropertySchema

theorem isInline_inlineProperty (unmapped : UnmappedType) (dbType : String) :
    (inlineProperty unmapped dbType).IsInline := ⟨rfl, rfl⟩

theorem format_inlineProperty (unmapped : UnmappedType) (dbType : String) :
    (inlineProperty unmapped dbType).format = formatOf? dbType := by
  rw [inlineProperty, PropertySchema.inline]

theorem type_inlineProperty_of_known {dbType : String} {type : JsonType}
    (known : typeOf? dbType = some type) (unmapped : UnmappedType) :
    (inlineProperty unmapped dbType).type = some type := by
  rw [inlineProperty, known]
  rfl

theorem type_inlineProperty_of_unknown {dbType : String} (unknown : typeOf? dbType = none)
    (unmapped : UnmappedType) : (inlineProperty unmapped dbType).type = unmapped.fallback? := by
  rw [inlineProperty, unknown]
  rfl

/-- **A format is one of strings**, whatever becomes of types that are not known. -/
theorem formatsStrings_inlineProperty (unmapped : UnmappedType) (dbType : String) :
    (inlineProperty unmapped dbType).FormatsStrings := by
  intro format formatted
  rw [format_inlineProperty] at formatted
  have name : format = "date-time" := (formatOf?_eq_some_iff.mp formatted).2
  refine ⟨name, ?_⟩
  cases known : typeOf? dbType with
  | some type =>
    left
    rw [type_inlineProperty_of_known known, type_of_formatOf? known formatted]
  | none =>
    -- a type that is not known is left out, or it is said to be that of strings
    rw [type_inlineProperty_of_unknown known]
    cases unmapped with
    | asString => exact .inl rfl
    | untyped => exact .inr rfl

/-- A procedure says nothing about the type of a column if that is not known. -/
theorem type_inlineProperty_untyped_eq_none_iff (dbType : String) :
    (inlineProperty .untyped dbType).type = none ↔ Text.lowerCase dbType ∉ typeNames := by
  rw [← typeOf?_eq_none_iff]
  cases known : typeOf? dbType with
  | some type => simp [type_inlineProperty_of_known known]
  | none => simp [type_inlineProperty_of_unknown known, UnmappedType.fallback?]

/-- **How the properties of tables and of procedures differ**: a procedure leaves out a type that is
not known. -/
theorem inlineProperty_untyped (dbType : String) :
    inlineProperty .untyped dbType = { inlineProperty .asString dbType with
      type := if Text.lowerCase dbType ∈ typeNames then (inlineProperty .asString dbType).type
        else none } := by
  have same : inlineProperty .untyped dbType = { inlineProperty .asString dbType with
      type := (inlineProperty .untyped dbType).type } := by
    simp only [inlineProperty, PropertySchema.inline]
  rw [same]
  by_cases listed : Text.lowerCase dbType ∈ typeNames
  · have found : typeOf? dbType ≠ none := fun unknown => typeOf?_eq_none_iff.mp unknown listed
    obtain ⟨type, known⟩ := Option.ne_none_iff_exists'.mp found
    rw [if_pos listed, type_inlineProperty_of_known known, type_inlineProperty_of_known known]
  · rw [if_neg listed, (type_inlineProperty_untyped_eq_none_iff dbType).mpr listed]

/-- The name of a type is looked up as a whole, and its format is not. -/
example : inlineProperty .untyped "Validate" = .inline none (some "date-time") ∧
    inlineProperty .asString "BIT" = .inline (some .boolean) none := by
  decide

/-! ### What a synthesizer emits -/

namespace Synthesizer

/-- The properties that a synthesizer emits are well-formed. -/
structure DescribesWell (s : Synthesizer) : Prop where
  /-- A property of a table describes a column by itself, and it has a type. -/
  table : ∀ name columns registry,
    ∀ e ∈ (s.synthesizeTable name columns registry).1.document.properties.entries,
      e.2.type.isSome ∧ e.2.IsInline ∧
        ∃ info, columns.get? e.1 = some info ∧ e.2 = inlineProperty .asString info.dbType
  /-- A property of a procedure says where its column is described and nothing else, or it describes
  the column by itself. -/
  procedure : ∀ name columns registry,
    ∀ e ∈ (s.synthesizeProcedure name columns registry).1.document.properties.entries,
      e.2.IsPointing ∨ e.2.IsInline ∧
        ∃ c ∈ columns, c.column = e.1 ∧ e.2 = inlineProperty .untyped c.info.dbType
  /-- Only strings are points in time, be it in the document of a table or in that of a
  procedure. -/
  formats :
    (∀ name columns registry,
      ∀ e ∈ (s.synthesizeTable name columns registry).1.document.properties.entries,
        e.2.FormatsStrings) ∧
      ∀ name columns registry,
        ∀ e ∈ (s.synthesizeProcedure name columns registry).1.document.properties.entries,
          e.2.FormatsStrings
  /-- A column is described by itself in the same way in both, except that a procedure leaves out a
  type that is not known. -/
  alike : ∀ dbType, inlineProperty .untyped dbType = { inlineProperty .asString dbType with
    type := if Text.lowerCase dbType ∈ typeNames then (inlineProperty .asString dbType).type
      else none }
  /-- In no other case is a type left out. -/
  untyped : ∀ dbType,
    (inlineProperty .untyped dbType).type = none ↔ Text.lowerCase dbType ∉ typeNames

/-- A property of a table is that of its column. -/
theorem exists_of_mem_tableDocument {config : Config} {name : String} {columns : TableColumns}
    {e : String × PropertySchema}
    (h : e ∈ (tableDocument config name columns).properties.entries) :
    ∃ info, columns.get? e.1 = some info ∧ e.2 = inlineProperty .asString info.dbType := by
  have described : (tableDocument config name columns).property? e.1 = some e.2 :=
    OrderedMap.mem_entries_iff.mp h
  rw [property?_tableDocument] at described
  obtain ⟨info, hi, same⟩ := Option.map_eq_some_iff.mp described
  exact ⟨info, hi, same.symm⟩

/-- A property of a procedure is that of a column of its name. -/
theorem exists_of_mem_procedureDocument {config : Config} {registry : Registry} {name : String}
    {columns : List ResolvedColumn} {e : String × PropertySchema}
    (h : e ∈ (procedureDocument config registry name columns).properties.entries) :
    e.2.IsPointing ∨
      ∃ c ∈ columns, c.column = e.1 ∧ e.2 = inlineProperty .untyped c.info.dbType := by
  have described : (procedureDocument config registry name columns).property? e.1 = some e.2 :=
    OrderedMap.mem_entries_iff.mp h
  obtain ⟨c, hc, named, same⟩ := property?_procedureDocument described
  rcases @columnProperty_cases config registry c with pointing | own
  · exact .inl ⟨_, _, same.symm.trans pointing⟩
  · exact .inr ⟨c, hc, named, same.symm.trans own⟩

/-- **Every synthesizer emits well-formed properties**, whatever its configuration is, and whatever
columns it describes beside whatever registry. -/
theorem describesWell (s : Synthesizer) : s.DescribesWell where
  table name columns registry e he := by
    obtain ⟨info, hi, own⟩ := exists_of_mem_tableDocument he
    obtain ⟨type, typed⟩ := exists_inlineProperty_asString info.dbType
    refine ⟨?_, ?_, info, hi, own⟩
    · rw [own, typed]
      rfl
    · rw [own]
      exact isInline_inlineProperty _ _
  procedure name columns registry e he := by
    rcases exists_of_mem_procedureDocument he with pointing | ⟨c, hc, named, own⟩
    · exact .inl pointing
    · refine .inr ⟨?_, c, hc, named, own⟩
      rw [own]
      exact isInline_inlineProperty _ _
  formats := by
    constructor
    · intro name columns registry e he
      obtain ⟨info, -, own⟩ := exists_of_mem_tableDocument he
      rw [own]
      exact formatsStrings_inlineProperty _ _
    · intro name columns registry e he
      rcases exists_of_mem_procedureDocument he with ⟨_, _, pointing⟩ | ⟨c, -, -, own⟩
      · rw [pointing]
        exact PropertySchema.formatsStrings_pointing _ _
      · rw [own]
        exact formatsStrings_inlineProperty _ _
  alike := inlineProperty_untyped
  untyped := type_inlineProperty_untyped_eq_none_iff

end Synthesizer

end RowShape
