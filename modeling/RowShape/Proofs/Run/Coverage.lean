import Mathlib.Data.List.Perm.Basic
import RowShape.Proofs.Procedure.Statement
import RowShape.Proofs.Resolution.Exact
import RowShape.Proofs.Run.Shape

/-!
# The books of a run

The coverage of a run is counted over its diagnostics, and by then nobody can tell from them how
many statements and references there were.  It is accounted for all the same: a diagnostic about a
statement stands for one statement that the parser rejects, one about a reference stands for one
reference that the catalog has no answer to, and one about a check for one document that fails it.

The diagnostics of a run are, up to their order, those of the checks of its documents, those of the
statements and those of the references of its procedures (`Pipeline.HasShape.diagnostics_perm`).
Whatever is counted can therefore be counted in the three kinds apart, and each kind is counted
procedure by procedure.

Whether a diagnostic is a loss is decided a second time without regard to what coverage counts.  The
two decisions agree on every diagnostic (`RunOutput.coverage_total`).

## Main definitions

* `ProcedureDefinition.statements`, `ProcedureDefinition.references`: what there is to be covered
* `ColumnRef.IsLost`: the catalog should answer a reference and does not
* `Synthesizer.fails`: a document is checked and breaks a rule
* `Pipeline.Accounts`: the coverage of a run is accounted for

## Main results

* `RunOutput.coverage_total`: every loss is counted once
* `Pipeline.countP_parseFailures`, `Pipeline.countP_droppedColumns`: what is counted of a procedure
* `Pipeline.accounts_run`: the coverage of a run that succeeds is accounted for
-/

namespace RowShape

/-! ### What there is to be covered -/

/-- The statements of a procedure that are read. -/
def ProcedureDefinition.statements (q : ProcedureDefinition) : List String :=
  selectStatements (procedureBody q.definition)

/-- The references of the statements of a procedure that the parser accepts. -/
def ProcedureDefinition.references (parser : ColumnParser) (q : ProcedureDefinition) :
    List ColumnRef :=
  (q.statements.filterMap fun s => (parser s).toOption).flatten

/-- A reference is lost: it names neither a constant nor a variable, and its table is not in the
catalog or does not have its column.  A wildcard that stands for all columns needs none of its
name. -/
def ColumnRef.IsLost (config : Config) (catalog : Catalog) (r : ColumnRef) : Prop :=
  r.source ≠ config.nullMarker ∧ ¬ config.IsVariable r.source ∧
    (r.source ∉ catalog.names ∨
      catalog.column? r.source r.column = none ∧ ¬ r.IsExpanded config)

instance (config : Config) (catalog : Catalog) (r : ColumnRef) :
    Decidable (r.IsLost config catalog) :=
  inferInstanceAs (Decidable (r.source ≠ config.nullMarker ∧ ¬ config.IsVariable r.source ∧
    (r.source ∉ catalog.names ∨
      catalog.column? r.source r.column = none ∧ ¬ r.IsExpanded config)))

/-! ### Kinds of diagnostics -/

/-- **Every loss is counted once**: what coverage counts and what is called a loss agree. -/
theorem RunOutput.coverage_total (o : RunOutput) :
    o.coverage.parseFailures + o.coverage.droppedColumns + o.coverage.selfCheckFailures =
      o.diagnostics.countP (·.isCoverageLoss) := by
  simp only [coverage]
  generalize o.diagnostics = xs
  induction xs with
  | nil => rfl
  | cons x xs ih =>
    -- a diagnostic that is a loss is of one of the three kinds, any other is of none
    have one : (if x.isParseFailure then 1 else 0) + (if x.isDroppedColumn then 1 else 0) +
        (if x.isSelfCheckFailure then 1 else 0) = if x.isCoverageLoss then 1 else 0 := by
      rcases x with _ | ⟨_, _, _ | _⟩ | _ <;> rfl
    simp only [List.countP_cons]
    omega

/-- A document is checked and breaks a rule. -/
def Synthesizer.fails (s : Synthesizer) (d : SchemaDocument) : Bool :=
  s.config.selfCheck && !(checkDocument s.rules d).isOk

/-- A check finds one failure if a document fails it. -/
theorem Synthesizer.countP_selfCheck (s : Synthesizer) (d : SchemaDocument) :
    (s.selfCheck d).countP (·.isSelfCheckFailure) = if s.fails d then 1 else 0 := by
  rw [selfCheck, fails]
  cases s.config.selfCheck with
  | false => rfl
  | true => cases checkDocument s.rules d <;> rfl

/-- A check finds nothing but failures of checks. -/
theorem Synthesizer.mem_selfCheck {s : Synthesizer} {d : SchemaDocument} {x : Diagnostic}
    (h : x ∈ s.selfCheck d) : ∃ id reason, x = .schemaSelfCheckFailure id reason := by
  rw [selfCheck] at h
  split at h
  · cases hc : checkDocument s.rules d with
    | ok _ =>
      rw [hc] at h
      cases h
    | error e =>
      rw [hc] at h
      exact ⟨_, _, List.mem_singleton.mp h⟩
  · cases h

/-- What no failure of a check is, no check finds. -/
theorem Synthesizer.countP_flatMap_selfCheck_eq_zero {s : Synthesizer} {kind : Diagnostic → Bool}
    (none : ∀ id reason, kind (.schemaSelfCheckFailure id reason) = false)
    (ds : List SchemaDocument) : (ds.flatMap s.selfCheck).countP kind = 0 := by
  refine List.countP_eq_zero.mpr fun x hx => ?_
  obtain ⟨d, -, hx⟩ := List.mem_flatMap.mp hx
  obtain ⟨id, reason, rfl⟩ := mem_selfCheck hx
  rw [none]
  exact Bool.false_ne_true

/-- As many failures are found as documents fail. -/
theorem Synthesizer.countP_flatMap_selfCheck (s : Synthesizer) (ds : List SchemaDocument) :
    (ds.flatMap s.selfCheck).countP (·.isSelfCheckFailure) = ds.countP s.fails := by
  induction ds with
  | nil => rfl
  | cons d ds ih =>
    rw [List.flatMap_cons, List.countP_append, countP_selfCheck, ih, List.countP_cons, Nat.add_comm]

/-! ### References -/

section References

variable {config : Config} {catalog : Catalog} {entity : String} {r : ColumnRef}

/-- A reference is lost if it is dropped for its table or for its column. -/
theorem ColumnRef.isLost_iff :
    r.IsLost config catalog ↔ skipReason? config catalog r = some .unknownTable ∨
      skipReason? config catalog r = some .unknownColumn := by
  rw [IsLost, skipReason?_eq]
  split_ifs <;> simp_all [imp_not_comm]

/-- **Step**: a reference counts as dropped if it is lost. -/
theorem countP_resolveOne :
    (resolveOne entity config catalog r).diagnostics.countP (·.isDroppedColumn) =
      if r.IsLost config catalog then 1 else 0 := by
  cases hs : skipReason? config catalog r with
  | none =>
    have kept : ¬ r.IsLost config catalog := by simp [ColumnRef.isLost_iff, hs]
    rw [resolveOne_of_kept hs, if_neg kept]
    rfl
  | some reason =>
    rw [resolveOne_of_dropped hs]
    cases reason <;> simp [ColumnRef.isLost_iff, hs, Diagnostic.isDroppedColumn]

/-- As many references count as dropped as are lost. -/
theorem countP_resolve (refs : List ColumnRef) :
    (resolve entity config catalog refs).diagnostics.countP (·.isDroppedColumn) =
      refs.countP (·.IsLost config catalog) := by
  induction refs with
  | nil => rfl
  | cons r refs ih =>
    rw [resolve, Resolution.diagnostics_append, List.countP_append, countP_resolveOne, ih,
      List.countP_cons, Nat.add_comm]
    simp only [decide_eq_true_iff]

end References

namespace Pipeline

variable {p : Pipeline} {catalog : Catalog} {procedures : List ProcedureDefinition} {r f : Registry}
  {out : RunOutput}

/-! ### Procedures -/

/-- **Of a procedure, the statements that the parser rejects count as parse failures.** -/
theorem countP_parseFailures (q : ProcedureDefinition) :
    (p.inferProcedure q catalog).diagnostics.countP (·.isParseFailure) =
      q.statements.countP fun s => !(p.parser s).isOk := by
  have read : (p.inferProcedure q catalog).parseFailures =
      (collect q.name p.parser (procedureBody q.definition)).diagnostics :=
    parseFailures_inferProcedure
  rw [Resolution.parseFailures] at read
  rw [List.countP_eq_length_filter, read, List.countP_eq_length_filter]
  exact (diagnostics_collectAll q.statements).length_eq.symm

/-- **Of a procedure, the references that are lost count as dropped columns.** -/
theorem countP_droppedColumns (q : ProcedureDefinition) :
    (p.inferProcedure q catalog).diagnostics.countP (·.isDroppedColumn) =
      (q.references p.parser).countP (·.IsLost p.config catalog) := by
  -- a statement that is rejected is no reference
  have others : (collect q.name p.parser (procedureBody q.definition)).diagnostics.countP
      (·.isDroppedColumn) = 0 := by
    refine List.countP_eq_zero.mpr fun x hx => ?_
    obtain ⟨statement, reason, rfl⟩ := mem_diagnostics_collect hx
    exact Bool.false_ne_true
  have accepted : (collect q.name p.parser (procedureBody q.definition)).columns =
      q.references p.parser := columns_collectAll q.statements
  rw [inferProcedure, List.countP_append, others, Nat.zero_add, countP_resolve, accepted]

/-! ### Runs -/

namespace HasShape

theorem length_procedureDocuments (h : p.HasShape catalog procedures r out f) :
    out.procedureDocuments.length = procedures.length := by
  rw [RunOutput.procedureDocuments, List.length_drop, h.length, h.tables, Nat.add_sub_cancel_left]

/-- **Where diagnostics come from**: the checks of all documents and the inferences of all
procedures. -/
theorem diagnostics_perm (h : p.HasShape catalog procedures r out f) :
    out.diagnostics.Perm (out.documents.flatMap p.synthesizer.selfCheck ++
      procedures.flatMap fun q => (p.inferProcedure q catalog).diagnostics) := by
  have documents : out.documents = out.tableDocuments ++ out.procedureDocuments :=
    (List.take_append_drop ..).symm
  have left : (procedures.zip out.procedureDocuments).map Prod.fst = procedures :=
    List.map_fst_zip (Nat.le_of_eq h.length_procedureDocuments.symm)
  have right : (procedures.zip out.procedureDocuments).map Prod.snd = out.procedureDocuments :=
    List.map_snd_zip (Nat.le_of_eq h.length_procedureDocuments)
  -- a procedure has its own diagnostics before those of its document; they are gathered apart
  have apart : (List.zipWith (fun q d => (p.inferProcedure q catalog).diagnostics ++
        p.synthesizer.selfCheck d) procedures out.procedureDocuments).flatten.Perm
      (procedures.flatMap (fun q => (p.inferProcedure q catalog).diagnostics) ++
        out.procedureDocuments.flatMap p.synthesizer.selfCheck) := by
    have gathered := List.flatMap_append_perm (procedures.zip out.procedureDocuments)
      (fun t => (p.inferProcedure t.1 catalog).diagnostics) (fun t => p.synthesizer.selfCheck t.2)
    rw [← List.flatMap_map Prod.fst fun q => (p.inferProcedure q catalog).diagnostics,
      ← List.flatMap_map Prod.snd p.synthesizer.selfCheck, left, right] at gathered
    rw [← List.map_uncurry_zip_eq_zipWith]
    exact gathered.symm
  rw [h.diagnostics, documents, List.flatMap_append, List.append_assoc]
  exact (apart.trans List.perm_append_comm).append_left _

/-- Whatever is counted is counted over checks and over inferences apart. -/
theorem countP_diagnostics (h : p.HasShape catalog procedures r out f) (kind : Diagnostic → Bool) :
    out.diagnostics.countP kind = (out.documents.flatMap p.synthesizer.selfCheck).countP kind +
      (procedures.flatMap fun q => (p.inferProcedure q catalog).diagnostics).countP kind := by
  rw [h.diagnostics_perm.countP_eq, List.countP_append]

/-- What no check finds is counted over inferences. -/
theorem countP_inferred (h : p.HasShape catalog procedures r out f) {kind : Diagnostic → Bool}
    (none : ∀ id reason, kind (.schemaSelfCheckFailure id reason) = false) :
    out.diagnostics.countP kind =
      (procedures.flatMap fun q => (p.inferProcedure q catalog).diagnostics).countP kind := by
  rw [h.countP_diagnostics, Synthesizer.countP_flatMap_selfCheck_eq_zero none, Nat.zero_add]

/-- Statements that are rejected, over all procedures. -/
theorem countP_parseFailures (h : p.HasShape catalog procedures r out f) :
    out.diagnostics.countP (·.isParseFailure) =
      (procedures.flatMap (·.statements)).countP fun s => !(p.parser s).isOk := by
  rw [h.countP_inferred fun _ _ => rfl, List.countP_flatMap, List.countP_flatMap]
  simp only [Function.comp_def, Pipeline.countP_parseFailures]

/-- References that are lost, over all procedures. -/
theorem countP_droppedColumns (h : p.HasShape catalog procedures r out f) :
    out.diagnostics.countP (·.isDroppedColumn) =
      (procedures.flatMap (·.references p.parser)).countP (·.IsLost p.config catalog) := by
  rw [h.countP_inferred fun _ _ => rfl, List.countP_flatMap, List.countP_flatMap]
  simp only [Function.comp_def, Pipeline.countP_droppedColumns]

/-- Documents that fail their checks, over all of them. -/
theorem countP_selfCheckFailures (h : p.HasShape catalog procedures r out f) :
    out.diagnostics.countP (·.isSelfCheckFailure) = out.documents.countP p.synthesizer.fails := by
  -- inferring columns checks nothing
  have inferred : (procedures.flatMap fun q => (p.inferProcedure q catalog).diagnostics).countP
      (·.isSelfCheckFailure) = 0 := by
    refine List.countP_eq_zero.mpr fun x hx => ?_
    obtain ⟨q, -, hx⟩ := List.mem_flatMap.mp hx
    rw [p.isSelfCheckFailure_inferProcedure hx]
    exact Bool.false_ne_true
  rw [h.countP_diagnostics, inferred, Nat.add_zero, Synthesizer.countP_flatMap_selfCheck]

end HasShape

/-- The output of a run over the tables of a catalog and over procedures is accounted for. -/
structure Accounts (p : Pipeline) (catalog : Catalog) (procedures : List ProcedureDefinition)
    (out : RunOutput) : Prop where
  /-- Every table of the catalog is covered. -/
  tableCount : out.coverage.tables = catalog.size
  /-- Every procedure of the listing is covered. -/
  procedureCount : out.coverage.procedures = procedures.length
  /-- There are no more documents of tables than documents. -/
  bounded : out.tables ≤ out.documents.length
  /-- A document is that of a table or that of a procedure. -/
  documents : out.coverage.tables + out.coverage.procedures = out.documents.length
  /-- Each statement of a procedure that the parser rejects is counted. -/
  parseFailures : out.coverage.parseFailures =
    (procedures.flatMap (·.statements)).countP fun s => !(p.parser s).isOk
  /-- Each reference of a procedure that is lost is counted. -/
  droppedColumns : out.coverage.droppedColumns =
    (procedures.flatMap (·.references p.parser)).countP (·.IsLost p.config catalog)
  /-- Each document that fails its check is counted. -/
  selfCheckFailures : out.coverage.selfCheckFailures =
    out.documents.countP p.synthesizer.fails
  /-- Nothing else is a loss. -/
  losses : out.coverage.parseFailures + out.coverage.droppedColumns +
    out.coverage.selfCheckFailures = out.diagnostics.countP (·.isCoverageLoss)

theorem HasShape.accounts (h : p.HasShape catalog procedures r out f) :
    p.Accounts catalog procedures out where
  tableCount := h.tables
  procedureCount := by
    simp only [RunOutput.coverage]
    rw [h.length, h.tables, Nat.add_sub_cancel_left]
  bounded := by
    rw [h.tables, h.length]
    exact Nat.le_add_right _ _
  documents := by
    simp only [RunOutput.coverage]
    rw [h.length, h.tables, Nat.add_sub_cancel_left]
  parseFailures := h.countP_parseFailures
  droppedColumns := h.countP_droppedColumns
  selfCheckFailures := h.countP_selfCheckFailures
  losses := out.coverage_total

/-- **The coverage of a run is accounted for**: if a run succeeds, whatever its parser, its
configuration and the registry that it starts from, then both listings have, and its coverage tells
what there was in them and what of it was lost. -/
theorem accounts_run {source : MetadataSource} (h : p.run source r = .ok (out, f)) :
    ∃ catalog procedures, source.tables = .ok catalog ∧ source.procedures = .ok procedures ∧
      p.Accounts catalog procedures out := by
  obtain ⟨catalog, procedures, ht, hp⟩ := exists_listings_of_run h
  obtain ⟨out', f', hrun, shape⟩ := run_hasShape p ht hp r
  obtain ⟨rfl, rfl⟩ := Prod.mk.inj (Except.ok.inj (h.symm.trans hrun))
  exact ⟨catalog, procedures, ht, hp, shape.accounts⟩

/-- The run over a database in which a procedure takes the name of the table that it reads is
accounted for. -/
theorem accounts_run_shadowed :
    ∃ out f, (standard .default).run shadowed.source .empty = .ok (out, f) ∧
      ∃ catalog procedures, shadowed.source.tables = .ok catalog ∧
        shadowed.source.procedures = .ok procedures ∧
        (standard .default).Accounts catalog procedures out :=
  ⟨_, _, run_eq rfl rfl .empty, accounts_run (run_eq rfl rfl .empty)⟩

/-- One statement is read, with a column, a column that its table does not have and a constant.
Another one is not, and every document fails its check. -/
example :
    let parser : ColumnParser := fun s =>
      if s = "SELECT id, ghost, 1" then
        .ok [.plain "orders" "id", .plain "orders" "ghost", .plain "null" "1"]
      else .error (.parse "unreadable")
    let p : Pipeline := ⟨.default, parser, ⟨.default, [fun _ => .error (.other "rejected")]⟩⟩
    (p.output plain.tables
      [.undated "report" "SELECT id, ghost, 1; UPDATE orders; SELECT ?"]).coverage =
        ⟨2, 1, 1, 1, 3⟩ := by
  decide +kernel

end Pipeline

end RowShape
