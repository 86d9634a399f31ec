import RowShape.Proofs.Run
import RowShape.Proofs.Validation

/-!
# Generated documents pass their own check

However a document is built, its parts fit together: required columns are listed once and have a
property, since both are added at once and properties are never taken away, and a property has
either a reference or a type of its own, since it is written as one or as the other.  Such a
document breaks no rule but that of the identifier, and it has an empty identifier only if both its
name and what stands before names are empty.

## Main definitions

* `PropertyList.IsSound`: what holds of the properties of a document while it is being built
* `GeneratesValid`: the checks of all documents that are built with a configuration

## Main results

* `PropertyList.IsSound.add`: adding a column keeps properties sound
* `Synthesizer.isConsistent_tableDocument`, `Synthesizer.isConsistent_procedureDocument`: built
  documents are consistent
* `generatesValid`: every configuration generates valid documents
-/

namespace RowShape

/-! ### Properties that are being built -/

theorem isApart_inline (type : Option JsonType) (format : Option String) :
    (PropertySchema.inline type format).IsApart := fun h => Bool.noConfusion h.2

theorem isApart_pointing (pointer description : String) :
    (PropertySchema.pointing pointer description).IsApart := fun h => Bool.noConfusion h.1

namespace PropertyList

variable {b : PropertyList}

/-- The properties of a document while it is being built: whatever columns have been added, in
whatever order. -/
structure IsSound (b : PropertyList) : Prop where
  /-- No column is required twice. -/
  distinct : b.required.Nodup
  /-- Required columns have a property. -/
  declared : ∀ name ∈ b.required, (b.properties.get? name).isSome
  /-- No property has both a type of its own and a reference. -/
  apart : ∀ name property, b.properties.get? name = some property → property.IsApart

theorem isSound_empty : empty.IsSound where
  distinct := List.nodup_nil
  declared := List.forall_mem_nil _
  apart _ _ h := by cases h

theorem mem_required_add {name other : String} {property : PropertySchema} {nullable : Bool} :
    other ∈ (b.add name property nullable).required → other ∈ b.required ∨ other = name := by
  intro h
  rw [add] at h
  split at h
  · exact .inl h
  · exact (List.mem_append.mp h).imp_right List.mem_singleton.mp

/-- **Step**: adding a column keeps properties sound, also if the column comes again. -/
theorem IsSound.add (h : b.IsSound) {property : PropertySchema} (hp : property.IsApart)
    (name : String) (nullable : Bool) : (b.add name property nullable).IsSound where
  distinct := by
    rw [PropertyList.add]
    split
    · exact h.distinct
    · -- a name is added only if it is not among those that are required
      next absent =>
      have new : name ∉ b.required := by
        intro hm
        simp [hm] at absent
      exact List.nodup_append.mpr ⟨h.distinct, List.nodup_singleton _, by grind⟩
  declared other ho := by
    change ((b.properties.insert name property).get? other).isSome
    rw [OrderedMap.get?_insert]
    rcases mem_required_add ho with ho | rfl
    · -- a property may be replaced, but it does not go away
      have before := h.declared other ho
      split <;> simp [before]
    · simp
  apart other property' ho := by
    change (b.properties.insert name property).get? other = some property' at ho
    rw [OrderedMap.get?_insert] at ho
    split at ho
    · obtain rfl := Option.some.inj ho
      exact hp
    · exact h.apart other property' ho

/-- **Run**: columns that are added one after another keep properties sound. -/
theorem IsSound.foldl_add {β : Type} {key : β → String} {property : β → PropertySchema}
    {nullable : β → Bool} (xs : List β) (hp : ∀ x ∈ xs, (property x).IsApart) (h : b.IsSound) :
    (xs.foldl (fun b x => b.add (key x) (property x) (nullable x)) b).IsSound := by
  induction xs generalizing b with
  | nil => exact h
  | cons x xs ih =>
    obtain ⟨hx, hxs⟩ := List.forall_mem_cons.mp hp
    exact ih hxs (h.add hx (key x) (nullable x))

end PropertyList

/-! ### Built documents -/

namespace Synthesizer

variable {config : Config} {registry : Registry} {name : String}

theorem isConsistent_document {b : PropertyList} (h : b.IsSound) :
    (document config name b).IsConsistent where
  describesObjects := rfl
  apart := h.apart
  distinct := h.distinct
  declared := h.declared

theorem isApart_columnProperty (c : ResolvedColumn) :
    (columnProperty config registry c).IsApart := by
  rcases @columnProperty_cases config registry c with h | h
  · rw [h]
    exact isApart_pointing _ _
  · rw [h]
    exact isApart_inline _ _

/-- **The document of a table is consistent.** -/
theorem isConsistent_tableDocument (columns : TableColumns) :
    (tableDocument config name columns).IsConsistent :=
  isConsistent_document
    (PropertyList.isSound_empty.foldl_add _ fun _ _ => isApart_inline _ _)

/-- **The document of a procedure is consistent**, whatever is registered. -/
theorem isConsistent_procedureDocument (columns : List ResolvedColumn) :
    (procedureDocument config registry name columns).IsConsistent :=
  isConsistent_document
    (PropertyList.isSound_empty.foldl_add _ fun c _ => isApart_columnProperty c)

/-- With the rules of documents, nothing is found about a consistent document but that its
identifier is empty. -/
theorem selfCheck_of_isConsistent {s : Synthesizer} (hs : s.rules = documentRules)
    {d : SchemaDocument} (h : d.IsConsistent) :
    s.selfCheck d = if s.config.selfCheck ∧ d.id = "" then
      [.schemaSelfCheckFailure d.id Violation.emptyId.error.message] else [] := by
  rw [selfCheck, hs, checkDocument_of_isConsistent h]
  by_cases hc : s.config.selfCheck <;> by_cases hid : d.id = "" <;> simp [hc, hid]

end Synthesizer

/-! ### Runs -/

namespace Pipeline

variable {p : Pipeline} {catalog : Catalog} {procedures : List ProcedureDefinition}

/-- What a run gives for an entity: a consistent document, and after all other diagnostics those of
its check. -/
theorem exists_of_mem_syntheses {s : Synthesis} (h : s ∈ p.syntheses catalog procedures) :
    s.document.IsConsistent ∧ ∃ others, (∀ x ∈ others, x.isSelfCheckFailure = false) ∧
      s.diagnostics = others ++ p.synthesizer.selfCheck s.document := by
  rcases List.mem_append.mp h with h | h
  · obtain ⟨t, -, rfl⟩ := List.mem_map.mp h
    exact ⟨Synthesizer.isConsistent_tableDocument _, [], List.forall_mem_nil _, rfl⟩
  · obtain ⟨earlier, later, q, -, rfl⟩ := exists_of_mem_synthesizeProcedures h
    exact ⟨Synthesizer.isConsistent_procedureDocument _,
      (p.inferProcedure q catalog).diagnostics, fun _ => p.isSelfCheckFailure_inferProcedure, rfl⟩

theorem countP_diagnostics (hs : p.synthesizer.rules = documentRules)
    (hc : p.synthesizer.config.selfCheck) {s : Synthesis}
    (h : s ∈ p.syntheses catalog procedures) :
    s.diagnostics.countP Diagnostic.isSelfCheckFailure = if s.document.id = "" then 1 else 0 := by
  obtain ⟨consistent, others, none, hd⟩ := exists_of_mem_syntheses h
  -- what is found while the columns are inferred is no failure of a check
  have others : others.countP Diagnostic.isSelfCheckFailure = 0 := by
    rw [List.countP_eq_zero]
    intro x hx
    simp [none x hx]
  rw [hd, List.countP_append, others, Nat.zero_add,
    Synthesizer.selfCheck_of_isConsistent hs consistent]
  by_cases hid : s.document.id = ""
  · simp [hc, hid, Diagnostic.isSelfCheckFailure]
  · simp [hid]

/-- **A run finds as many failures of checks as it emits documents with an empty identifier.** -/
theorem selfCheckFailures_output (hs : p.synthesizer.rules = documentRules)
    (hc : p.synthesizer.config.selfCheck) :
    (p.output catalog procedures).coverage.selfCheckFailures =
      (p.output catalog procedures).documents.countP (·.id == "") := by
  have each : ∀ s ∈ p.syntheses catalog procedures,
      s.diagnostics.countP Diagnostic.isSelfCheckFailure = if s.document.id = "" then 1 else 0 :=
    fun _ hm => countP_diagnostics hs hc hm
  change List.countP _ (p.output catalog procedures).diagnostics = _
  rw [diagnostics_output, documents_output_eq_map]
  -- entity by entity, a failure goes with an empty identifier
  generalize p.syntheses catalog procedures = ss at each
  induction ss with
  | nil => rfl
  | cons s ss ih =>
    obtain ⟨first, rest⟩ := List.forall_mem_cons.mp each
    rw [List.flatMap_cons, List.countP_append, first, ih rest, List.map_cons, List.countP_cons,
      Nat.add_comm]
    simp

end Pipeline

/-! ### Configurations -/

/-- **Documents that are generated with a configuration pass their check**, but for an empty
identifier. -/
structure GeneratesValid (config : Config) : Prop where
  /-- The document of a table breaks a rule only if its identifier is empty. -/
  tables : ∀ name columns,
    checkDocument documentRules (Synthesizer.tableDocument config name columns) =
      if config.definitionsPrefix ++ name = "" then
        .error (.validation Violation.emptyId.message) else .ok ()
  /-- So does that of a procedure, for any columns and beside whatever documents. -/
  procedures : ∀ registry name columns,
    checkDocument documentRules (Synthesizer.procedureDocument config registry name columns) =
      if config.definitionsPrefix ++ name = "" then
        .error (.validation Violation.emptyId.message) else .ok ()
  /-- Nothing else is wrong: under any other identifier the document of a table breaks no rule. -/
  tablesElse : ∀ name columns id, id ≠ "" →
    checkDocument documentRules { Synthesizer.tableDocument config name columns with id := id } =
      .ok ()
  /-- Nor does that of a procedure. -/
  proceduresElse : ∀ registry name columns id, id ≠ "" →
    checkDocument documentRules
      { Synthesizer.procedureDocument config registry name columns with id := id } = .ok ()
  /-- If documents are checked, a run finds as many failures as it emits documents with an empty
  identifier. -/
  runs : config.selfCheck → ∀ parser source r out f,
    ((Pipeline.standard config).withParser parser).run source r = .ok (out, f) →
      out.coverage.selfCheckFailures = out.documents.countP (·.id == "")

/-- A consistent document is so under any identifier. -/
theorem SchemaDocument.IsConsistent.withId {d : SchemaDocument} (h : d.IsConsistent) (id : String) :
    { d with id := id }.IsConsistent :=
  ⟨h.describesObjects, h.apart, h.distinct, h.declared⟩

/-- Every configuration generates valid documents. -/
theorem generatesValid (config : Config) : GeneratesValid config where
  tables _ columns := checkDocument_of_isConsistent (Synthesizer.isConsistent_tableDocument columns)
  procedures _ _ columns :=
    checkDocument_of_isConsistent (Synthesizer.isConsistent_procedureDocument columns)
  tablesElse _ columns id hid := by
    rw [checkDocument_of_isConsistent ((Synthesizer.isConsistent_tableDocument columns).withId id)]
    exact if_neg hid
  proceduresElse _ _ columns id hid := by
    rw [checkDocument_of_isConsistent
      ((Synthesizer.isConsistent_procedureDocument columns).withId id)]
    exact if_neg hid
  runs hc parser source r out f hrun := by
    obtain ⟨catalog, procedures, ht, hp⟩ := Pipeline.exists_listings_of_run hrun
    obtain ⟨rfl, -⟩ := Pipeline.eq_of_run ht hp hrun
    exact Pipeline.selfCheckFailures_output rfl hc

end RowShape
