import RowShape.Proofs.Catalog
import RowShape.Proofs.Resolution.Exact

/-!
# Larger catalogs

A table that is added to a catalog takes no column away.  Only references to the new table can give
anything else than before, and of these only the ones that were dropped because there was no such
table: each gives columns of the table now, or it is dropped because the table has no such column.
A reference that was dropped for what its source is called, as the mark for columns without a table
or as a variable, is dropped for the same reason, even if the table has this name.

## Main definitions

* `Diagnostic.concerns`: diagnostics about columns that are missing from a table
* `Diagnostic.Narrows`: a diagnostic, and what it may become
* `Resolution.Gains`: what a resolution gains from a table

## Main results

* `skipReason?_withTable_self`: why references to the new table are dropped, before and after
* `gains_resolveOne`, `gains_resolve`: what references gain, one and many
* `Pipeline.gains_inferProcedure`: what is inferred for a procedure gains from a larger catalog
-/

namespace RowShape

/-! ### Diagnostics -/

namespace Diagnostic

/-- The diagnostic is about a reference to a table: the catalog lacks the table or the column. -/
def concerns (table : String) : Diagnostic → Bool
  | unresolvedColumn _ r reason => reason.isCoverageLoss && r.source == table
  | _ => false

/-- **A diagnostic, and what it may become** when there is another table: it stays as it is, or it
says that the table lacks the column where it said that there is no such table. -/
inductive Narrows (table : String) : Diagnostic → Diagnostic → Prop
  | same (d : Diagnostic) : Narrows table d d
  | column {entity : String} {r : ColumnRef} (h : r.source = table) :
      Narrows table (.unresolvedColumn entity r .unknownTable)
        (.unresolvedColumn entity r .unknownColumn)

end Diagnostic

/-! ### Resolutions -/

namespace Resolution

variable {table : String} {r r' s s' : Resolution}

/-- **What a resolution gains from a table.** -/
structure Gains (table : String) (before after : Resolution) : Prop where
  /-- No column is lost. -/
  columns : before.columns.Sublist after.columns
  /-- What stands between the columns that were there are columns of the table. -/
  gained : (after.columns.filter fun c => c.table ≠ table) = before.columns
  /-- No diagnostic is new, except that a column may be missing where the table was. -/
  diagnostics : ∃ kept, kept.Sublist before.diagnostics ∧
    List.Forall₂ (Diagnostic.Narrows table) kept after.diagnostics
  /-- Diagnostics about anything else are the same. -/
  others : (after.diagnostics.filter fun d => !d.concerns table) =
    before.diagnostics.filter fun d => !d.concerns table

/-- A resolution without columns of the table may stay as it is. -/
theorem Gains.refl (h : ∀ c ∈ r.columns, c.table ≠ table) : Gains table r r where
  columns := .refl _
  gained := List.filter_eq_self.mpr fun c hc => decide_eq_true (h c hc)
  diagnostics := ⟨_, .refl _, List.forall₂_same.mpr fun d _ => .same d⟩
  others := rfl

theorem Gains.append (h : Gains table r r') (h' : Gains table s s') :
    Gains table (r ++ s) (r' ++ s') where
  columns := h.columns.append h'.columns
  gained := by
    rw [columns_append, List.filter_append, h.gained, h'.gained, columns_append]
  diagnostics := by
    obtain ⟨kept, part, each⟩ := h.diagnostics
    obtain ⟨kept', part', each'⟩ := h'.diagnostics
    exact ⟨kept ++ kept', part.append part', List.rel_append each each'⟩
  others := by
    rw [diagnostics_append, List.filter_append, h.others, h'.others, diagnostics_append,
      List.filter_append]

/-- Diagnostics that stand before all others change nothing. -/
theorem Gains.prepend (h : Gains table r r') (ds : List Diagnostic) :
    Gains table ⟨r.columns, ds ++ r.diagnostics⟩ ⟨r'.columns, ds ++ r'.diagnostics⟩ :=
  (Gains.refl (r := ⟨[], ds⟩) (List.forall_mem_nil _)).append h

end Resolution

/-! ### One reference -/

section References

variable {config : Config} {catalog : Catalog} {entity table : String} {r : ColumnRef}

theorem Catalog.mem_names_withTable (catalog : Catalog) (table : String) (columns : TableColumns) :
    table ∈ (catalog.withTable table columns).names := by
  have found : (catalog.withTable table columns).table? table = some columns := by
    rw [table?_withTable, if_pos rfl]
  exact OrderedMap.mem_keys_of_get? found

/-- A reference to another table gives what it gave. -/
theorem resolveOne_withTable_of_ne (columns : TableColumns) (other : r.source ≠ table) :
    resolveOne entity config (catalog.withTable table columns) r =
      resolveOne entity config catalog r := by
  simp only [resolveOne, resolveOutcome, Catalog.table?_withTable, if_neg other]

/-- **Why references to the new table are dropped.**  Its name is the reason both times, or there
was no such table; then there is no such column, or no reason any more. -/
theorem skipReason?_withTable_self (config : Config) (columns : TableColumns)
    (absent : r.source ∉ catalog.names) :
    (∃ reason, (reason = .nullSource ∨ reason = .variableSource) ∧
        skipReason? config catalog r = some reason ∧
        skipReason? config (catalog.withTable r.source columns) r = some reason) ∨
      skipReason? config catalog r = some .unknownTable ∧
        (skipReason? config (catalog.withTable r.source columns) r = some .unknownColumn ∨
          skipReason? config (catalog.withTable r.source columns) r = none) := by
  have there := catalog.mem_names_withTable r.source columns
  rw [skipReason?_eq, skipReason?_eq]
  -- the conditions on the name are asked for first, and they are the same
  by_cases hnull : r.source = config.nullMarker
  · rw [if_pos hnull, if_pos hnull]
    exact .inl ⟨_, .inl rfl, rfl, rfl⟩
  rw [if_neg hnull, if_neg hnull]
  by_cases hvar : config.IsVariable r.source
  · rw [if_pos hvar, if_pos hvar]
    exact .inl ⟨_, .inr rfl, rfl, rfl⟩
  rw [if_neg hvar, if_neg hvar, if_pos absent, if_neg (not_not_intro there)]
  refine .inr ⟨rfl, ?_⟩
  split
  · exact .inl rfl
  · exact .inr rfl

/-- **Step**: what a reference gains from a table that is added. -/
theorem gains_resolveOne (columns : TableColumns) (absent : table ∉ catalog.names)
    (entity : String) (r : ColumnRef) :
    (resolveOne entity config catalog r).Gains table
      (resolveOne entity config (catalog.withTable table columns) r) := by
  by_cases own : r.source = table
  · subst own
    obtain ⟨reason, -, before, after⟩ | ⟨before, after | after⟩ :=
      skipReason?_withTable_self config columns absent
    · rw [resolveOne_of_dropped before, resolveOne_of_dropped after]
      exact .refl (List.forall_mem_nil _)
    · -- the table is there and the column is not
      rw [resolveOne_of_dropped before, resolveOne_of_dropped after]
      exact ⟨.refl _, rfl, ⟨_, .refl _, .cons (.column rfl) .nil⟩,
        by simp [Diagnostic.concerns, SkipReason.isCoverageLoss]⟩
    · -- the table has what the reference stands for
      rw [resolveOne_of_dropped before, resolveOne_of_kept after]
      refine ⟨List.nil_sublist _, ?_, ⟨[], List.nil_sublist _, .nil⟩,
        by simp [Diagnostic.concerns, SkipReason.isCoverageLoss]⟩
      exact List.filter_eq_nil_iff.mpr fun c hc => by simp [table_of_mem_standsFor hc]
  · rw [resolveOne_withTable_of_ne columns own]
    refine .refl fun c hc => ?_
    cases hs : skipReason? config catalog r with
    | some reason =>
      rw [resolveOne_of_dropped hs] at hc
      cases hc
    | none =>
      rw [resolveOne_of_kept hs] at hc
      rw [table_of_mem_standsFor hc]
      exact own

/-! ### References one after another -/

/-- **Run**: what references gain one after another. -/
theorem gains_resolve (columns : TableColumns) (absent : table ∉ catalog.names) (entity : String)
    (refs : List ColumnRef) :
    (resolve entity config catalog refs).Gains table
      (resolve entity config (catalog.withTable table columns) refs) := by
  induction refs with
  | nil => exact .refl (List.forall_mem_nil _)
  | cons r refs ih => exact (gains_resolveOne columns absent entity r).append ih

end References

namespace Pipeline

/-- **A larger catalog takes no column away.**  If a catalog gets a table that it does not have,
then what is inferred for a procedure, whatever its parser and its configuration, has the same
columns in the same order with columns of the table between them.  Its diagnostics are some of those
that there were, in their order, but a column of the table may be missing where the table was; those
that do not concern the table are all there. -/
theorem gains_inferProcedure (p : Pipeline) (procedure : ProcedureDefinition) {catalog : Catalog}
    {table : String} (absent : table ∉ catalog.names) (columns : TableColumns) :
    (p.inferProcedure procedure catalog).Gains table
      (p.inferProcedure procedure (catalog.withTable table columns)) := by
  -- the statements are read without the catalog
  simp only [inferProcedure]
  exact (gains_resolve columns absent procedure.name _).prepend _

/-- The columns of a table of customers. -/
def customerColumns : TableColumns := .ofList [("id", ⟨"int", false⟩), ("name", ⟨"text", true⟩)]

/-- A pipeline whose parser reads the same references from every statement: to a table that is
there, to one that is not, and to variables. -/
def mixedReader : Pipeline :=
  { standard .default with
    parser := fun _ => .ok [.plain "customers" "name", .plain "orders" "id", .plain "@p" "@p",
      .plain "customers" "ghost", .plain "customers" "*", .plain "refunds" "id"] }

/-- Of three references to a table that is added one gives its column, one all columns, and one is
dropped for another reason. -/
theorem gains_inferProcedure_customers :
    let catalog := Catalog.empty.withTable "orders" (.ofList [("id", ⟨"int", false⟩)])
    let procedure := ProcedureDefinition.undated "report" "SELECT 1"
    "customers" ∉ catalog.names ∧
      (mixedReader.inferProcedure procedure catalog).Gains "customers"
        (mixedReader.inferProcedure procedure (catalog.withTable "customers" customerColumns)) :=
  ⟨by decide, mixedReader.gains_inferProcedure _ (by decide) _⟩

/-- The table gives three columns, and a column of it is missing in its place. -/
example :
    let catalog := Catalog.empty.withTable "orders" (.ofList [("id", ⟨"int", false⟩)])
    mixedReader.inferProcedure (.undated "report" "SELECT 1")
        (catalog.withTable "customers" customerColumns) =
      ⟨[⟨"customers", "name", ⟨"text", true⟩⟩, ⟨"orders", "id", ⟨"int", false⟩⟩,
          ⟨"customers", "id", ⟨"int", false⟩⟩, ⟨"customers", "name", ⟨"text", true⟩⟩],
        [.unresolvedColumn "report" (.plain "@p" "@p") .variableSource,
          .unresolvedColumn "report" (.plain "customers" "ghost") .unknownColumn,
          .unresolvedColumn "report" (.plain "refunds" "id") .unknownTable]⟩ := by
  decide +kernel

end Pipeline

end RowShape
