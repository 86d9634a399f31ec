import RowShape.Pipeline
import RowShape.Proofs.OrderedMap

/-!
# What resolution can find

A reference gives columns of the catalog or none at all: whatever a parser has read, and whether a
column was named or came with a wildcard, the table of a resolved column is in the catalog, declares
the column, and declares it the way it was resolved.

## Main results

* `mem_resolveOutcome`: what a single reference gives is declared
* `mem_resolve`: what references give one after another is declared
* `Pipeline.mem_inferProcedure`: the columns of a procedure are declared
* `mem_diagnostics_collect`, `mem_diagnostics_resolve`: the diagnostics of the two steps
-/

namespace RowShape

/-- A column of a result is declared by the catalog, with the type it was found with. -/
def ResolvedColumn.DeclaredIn (c : ResolvedColumn) (catalog : Catalog) : Prop :=
  catalog.column? c.table c.column = some c.info

theorem Catalog.column?_eq_some_iff {catalog : Catalog} {table column : String}
    {info : ColumnInfo} :
    catalog.column? table column = some info ↔
      ∃ columns, catalog.table? table = some columns ∧ columns.get? column = some info :=
  Option.bind_eq_some_iff

variable {config : Config} {catalog : Catalog}

/-- **What a single reference gives is declared.**  A wildcard goes through the columns of its
table, any other reference looks its column up there. -/
theorem mem_resolveOutcome {r : ColumnRef} {columns : List ResolvedColumn}
    (h : resolveOutcome config catalog r = .ok columns) : ∀ c ∈ columns, c.DeclaredIn catalog := by
  unfold resolveOutcome at h
  split at h
  · cases h
  split at h
  · cases h
  cases ht : catalog.table? r.source with
  | none =>
    simp only [ht] at h
    cases h
  | some table =>
    simp only [ht] at h
    split at h
    · -- the wildcard: every column is an entry of the table
      cases h
      intro c hc
      obtain ⟨⟨name, info⟩, he, rfl⟩ := List.mem_map.mp hc
      exact Catalog.column?_eq_some_iff.mpr ⟨table, ht, OrderedMap.mem_entries_iff.mp he⟩
    · cases hg : table.get? r.column with
      | none =>
        simp only [hg] at h
        cases h
      | some info =>
        simp only [hg] at h
        cases h
        intro c hc
        obtain rfl := List.mem_singleton.mp hc
        exact Catalog.column?_eq_some_iff.mpr ⟨table, ht, hg⟩

variable {entity : String}

theorem mem_resolveOne {r : ColumnRef} :
    ∀ c ∈ (resolveOne entity config catalog r).columns, c.DeclaredIn catalog := by
  intro c hc
  unfold resolveOne at hc
  cases ho : resolveOutcome config catalog r with
  | ok columns =>
    simp only [ho] at hc
    exact mem_resolveOutcome ho c hc
  | error reason =>
    simp only [ho] at hc
    cases hc

/-- **What references give one after another is declared.** -/
theorem mem_resolve {refs : List ColumnRef} :
    ∀ c ∈ (resolve entity config catalog refs).columns, c.DeclaredIn catalog := by
  induction refs with
  | nil => intro c hc; cases hc
  | cons r refs ih =>
    intro c hc
    rw [resolve, Resolution.columns_append, List.mem_append] at hc
    rcases hc with hc | hc
    · exact mem_resolveOne c hc
    · exact ih c hc

/-- **The columns of a procedure are declared**, whatever its parser reads. -/
theorem Pipeline.mem_inferProcedure (p : Pipeline) (procedure : ProcedureDefinition) :
    ∀ c ∈ (p.inferProcedure procedure catalog).columns, c.DeclaredIn catalog := by
  simp only [inferProcedure]
  exact mem_resolve

/-! ### What is found on the way -/

/-- Reading statements finds nothing but statements that cannot be read. -/
theorem mem_diagnostics_collect {parser : ColumnParser} {body : String} {x : Diagnostic}
    (h : x ∈ (collect entity parser body).diagnostics) :
    ∃ statement reason, x = .statementParseFailure entity statement reason := by
  rw [collect] at h
  generalize selectStatements body = statements at h
  induction statements with
  | nil => cases h
  | cons s rest ih =>
    rw [collectAll, Collection.diagnostics_append, List.mem_append] at h
    rcases h with h | h
    · rw [collectOne] at h
      cases hs : parser s with
      | ok columns =>
        rw [hs] at h
        cases h
      | error e =>
        rw [hs] at h
        exact ⟨_, _, List.mem_singleton.mp h⟩
    · exact ih h

/-- Resolving references finds nothing but references that give no column. -/
theorem mem_diagnostics_resolve {refs : List ColumnRef} {x : Diagnostic}
    (h : x ∈ (resolve entity config catalog refs).diagnostics) :
    ∃ r reason, x = .unresolvedColumn entity r reason := by
  induction refs with
  | nil => cases h
  | cons r refs ih =>
    rw [resolve, Resolution.diagnostics_append, List.mem_append] at h
    rcases h with h | h
    · rw [resolveOne] at h
      cases ho : resolveOutcome config catalog r with
      | ok columns =>
        rw [ho] at h
        cases h
      | error reason =>
        rw [ho] at h
        exact ⟨_, _, List.mem_singleton.mp h⟩
    · exact ih h

/-- Inferring columns checks no document. -/
theorem Pipeline.isSelfCheckFailure_inferProcedure (p : Pipeline)
    {procedure : ProcedureDefinition} {x : Diagnostic}
    (h : x ∈ (p.inferProcedure procedure catalog).diagnostics) : x.isSelfCheckFailure = false := by
  simp only [inferProcedure, List.mem_append] at h
  rcases h with h | h
  · obtain ⟨statement, reason, rfl⟩ := mem_diagnostics_collect h
    rfl
  · obtain ⟨r, reason, rfl⟩ := mem_diagnostics_resolve h
    rfl

/-- The table of a declared column is in the catalog. -/
theorem ResolvedColumn.DeclaredIn.table_mem {c : ResolvedColumn} (h : c.DeclaredIn catalog) :
    c.table ∈ catalog.names := by
  obtain ⟨_, ht, _⟩ := Catalog.column?_eq_some_iff.mp h
  exact OrderedMap.mem_keys_of_get? ht

end RowShape
