import RowShape.Pipeline
import RowShape.Proofs.Catalog
import RowShape.Proofs.Column.Extraction
import RowShape.Proofs.Column.Scope
import RowShape.Proofs.Procedure.Statement
import RowShape.Proofs.Resolution.Exact

/-!
# What becomes of an item

An item of a projection that is a column or a wildcard says that the result has columns.  What is
inferred for a procedure accounts for it by columns or by diagnostics, which stand in one piece in
what is inferred: the references of the item are collected one after another, and each of them gives
a column or a diagnostic.

The references of an item may be none, and then nothing accounts for it.  A column makes a reference
in every scope, and so does a wildcard behind a qualifier.  A wildcard without a qualifier makes one
for every named table, so that it is lost without a trace if the `FROM` clause has no named table:
if there is no `FROM` clause, and if all of its relations are derived ones.

## Main definitions

* `Sql.SelectItem.IsColumns`: items that are columns or wildcards
* `Sql.Select.IsLostStar`: a wildcard in a `SELECT` without named tables
* `Sql.SelectItem.Traced`: what is inferred accounts for an item

## Main results

* `Sql.SelectItem.references_eq_nil_iff`: which items make no references
* `resolveOne_ne_nil`: every reference gives a column or a diagnostic
* `traced_iff`: what is inferred accounts for every item, unless it is a lost wildcard
* `star_of_derived_lost`: a procedure whose only item is lost
-/

namespace RowShape

open Sql

/-! ### Items -/

namespace Sql

/-- **An item that is a column or a wildcard**: a column, a column behind qualifiers, `*`, or `*`
behind qualifiers. -/
inductive SelectItem.IsColumns : SelectItem → Prop where
  | bare (name : Ident) (renamed : Option Ident) : IsColumns (.expr (.ident name) renamed)
  | qualified {parts : List Ident} (h : 2 ≤ parts.length) (renamed : Option Ident) :
      IsColumns (.expr (.compound parts) renamed)
  | wildcard (options : List Piece) : IsColumns (.wildcard options)
  | qualifiedWildcard (name : QualifiedName) (options : List Piece) :
      IsColumns (.qualifiedWildcard name options)

/-- The item is `*`. -/
def SelectItem.isStar : SelectItem → Bool
  | .wildcard _ => true
  | _ => false

theorem SelectItem.isColumns_of_isStar {item : SelectItem} (h : item.isStar) : item.IsColumns := by
  cases item with
  | wildcard options => exact .wildcard options
  | expr => cases h
  | qualifiedWildcard => cases h
  | exprWildcard => cases h

/-- The item is `*`, and no relation of the `FROM` clause is a named table. -/
def Select.IsLostStar (s : Select) (item : SelectItem) : Prop :=
  item.isStar ∧ ∀ leaf ∈ fromLeaves s.tables, leaf.table? = none

instance (s : Select) (item : SelectItem) : Decidable (s.IsLostStar item) :=
  inferInstanceAs (Decidable (_ ∧ _))

/-- **Items without references**: a column makes one wherever it stands, and of the wildcards only
those that have no table to stand for make none. -/
theorem SelectItem.references_eq_nil_iff (marks : SourceMarks) (s : Select) {item : SelectItem}
    (h : item.IsColumns) :
    item.references marks (Scope.ofTables s.tables) = [] ↔ s.IsLostStar item := by
  cases h with
  | bare name renamed =>
    rw [references, Expr.references]
    exact iff_of_false (List.cons_ne_nil _ _) fun lost => by cases lost.1
  | qualified h renamed =>
    obtain ⟨outer, qualifier, column, rfl⟩ := Node.exists_append_of_length h
    rw [references, Expr.references, Node.compoundReference?_append]
    exact iff_of_false (List.cons_ne_nil _ _) fun lost => by cases lost.1
  | wildcard options =>
    rw [references, List.map_eq_nil_iff, Scope.tables_ofTables, List.filterMap_eq_nil_iff]
    exact ⟨fun none => ⟨rfl, none⟩, And.right⟩
  | qualifiedWildcard name options =>
    rw [references]
    exact iff_of_false (List.cons_ne_nil _ _) fun lost => by cases lost.1

end Sql

/-! ### Resolving -/

section Resolving

variable {entity : String} {config : Config} {catalog : Catalog}

/-- **Every reference gives a column or a diagnostic**, if there is no table without columns that a
wildcard could stand for. -/
theorem resolveOne_ne_nil (entity : String) (config : Config) (full : catalog.HasColumns)
    (r : ColumnRef) :
    (resolveOne entity config catalog r).columns ≠ [] ∨
      ∃ reason, .unresolvedColumn entity r reason ∈
        (resolveOne entity config catalog r).diagnostics := by
  cases hs : skipReason? config catalog r with
  | some reason =>
    rw [resolveOne_of_dropped hs]
    exact .inr ⟨reason, List.mem_cons_self⟩
  | none =>
    obtain ⟨-, -, known, found⟩ := skipReason?_eq_none_iff.mp hs
    rw [resolveOne_of_kept hs, standsFor]
    refine .inl ?_
    split
    · obtain ⟨columns, ht⟩ := Catalog.exists_table?_of_mem known
      have some := full (r.source, columns) (OrderedMap.mem_entries_iff.mpr ht)
      simpa [ht] using some
    · next named =>
      obtain ⟨info, hi⟩ := Option.isSome_iff_exists.mp (found.resolve_left named)
      simp [hi]

/-- Of references that stand together, what they give stands together. -/
theorem resolve_isInfix {rs ss : List ColumnRef} (h : rs <:+: ss) :
    (resolve entity config catalog rs).columns <:+: (resolve entity config catalog ss).columns ∧
      (resolve entity config catalog rs).diagnostics <:+:
        (resolve entity config catalog ss).diagnostics := by
  rw [columns_resolve, columns_resolve, diagnostics_resolve, diagnostics_resolve]
  exact ⟨h.flatMap _, h.flatMap _⟩

/-- The references of a statement stand together in those of its body. -/
theorem collect_isInfix (entity : String) {parser : ColumnParser} {body text : String}
    (kept : text ∈ selectStatements body) {refs : List ColumnRef}
    (accepted : parser text = .ok refs) :
    refs <:+: (collect entity parser body).columns := by
  have read : (parser text).toOption = some refs := congrArg Except.toOption accepted
  rw [(collect_exact entity parser body).columns]
  exact List.infix_of_mem_flatten (List.mem_filterMap.mpr ⟨text, kept, read⟩)

/-- Of references that stand together in those of a procedure, what they give stands together in
what is inferred for it. -/
theorem Pipeline.resolve_isInfix_inferProcedure (p : Pipeline) (catalog : Catalog)
    (procedure : ProcedureDefinition)
    {rs : List ColumnRef} (collected : rs <:+:
      (collect procedure.name p.parser (procedureBody procedure.definition)).columns) :
    (resolve procedure.name p.config catalog rs).columns <:+:
        (p.inferProcedure procedure catalog).columns ∧
      (resolve procedure.name p.config catalog rs).diagnostics <:+:
        (p.inferProcedure procedure catalog).diagnostics := by
  have columns : (p.inferProcedure procedure catalog).columns = (resolve procedure.name p.config
      catalog (collect procedure.name p.parser
        (procedureBody procedure.definition)).columns).columns := by rw [inferProcedure]
  have diagnostics : (p.inferProcedure procedure catalog).diagnostics =
      (collect procedure.name p.parser (procedureBody procedure.definition)).diagnostics ++
        (resolve procedure.name p.config catalog (collect procedure.name p.parser
          (procedureBody procedure.definition)).columns).diagnostics := by rw [inferProcedure]
  rw [columns, diagnostics]
  exact ⟨(resolve_isInfix collected).1,
    (resolve_isInfix collected).2.trans (List.suffix_append _ _).isInfix⟩

end Resolving

/-! ### Collecting -/

namespace Sql.Occurrence

/-- What is below an occurrence stands together in what is below those above it. -/
theorem below_isInfix {p q : Occurrence} (h : q ∈ p.below) : q.below <:+: p.below := by
  induction p using induction with
  | step p ih =>
  rw [below_eq, List.mem_cons, List.mem_flatMap] at h
  obtain rfl | ⟨c, hc, h⟩ := h
  · exact List.infix_refl _
  · rw [below_eq p]
    have part : c.below <:+: p.parts.flatMap below :=
      List.infix_of_mem_flatten (List.mem_map_of_mem hc)
    exact (ih c hc h).trans (part.trans (List.suffix_cons _ _).isInfix)

/-- An item of a `SELECT` is found one step below it. -/
theorem exists_item_of_select {p : Occurrence} {s : Select} (hp : p.node = .select s)
    {item : SelectItem} (hi : item ∈ s.projection) :
    ∃ q ∈ p.below, ∃ i, q = p.part i (.item, .item item) := by
  have listed : (Role.item, Node.item item) ∈ p.node.parts := by
    obtain ⟨quantifier, projection, into, tables, filter, groupBy, having, windows, leads⟩ := s
    have mem := List.mem_map_of_mem (f := fun i => (Role.item, Node.item i)) hi
    rw [hp, Node.parts]
    simp only [List.mem_append]
    exact .inl (.inl (.inl (.inl (.inl (.inl (.inr mem))))))
  obtain ⟨i, hi, part⟩ := List.mem_iff_getElem.mp listed
  have mem : p.part i (.item, .item item) ∈ p.parts :=
    List.mem_mapIdx.mpr ⟨i, hi, by rw [part]⟩
  refine ⟨_, ?_, i, rfl⟩
  rw [below_eq, List.mem_cons, List.mem_flatMap]
  exact .inr ⟨_, mem, by rw [below_eq]; exact List.mem_cons_self⟩

end Sql.Occurrence

/-- **The references of an item stand together** in those of the statements, wherever its `SELECT`
is returned. -/
theorem references_isInfix_of_item {marks : SourceMarks} {statements : List Statement}
    {refs : List ColumnRef} (accepted : statementReferences marks statements = .ok refs)
    {p : Occurrence} (hp : p ∈ (Occurrence.root statements).below) (returned : p.IsReturned)
    {s : Select} (select : p.node = .select s) {item : SelectItem} (hi : item ∈ s.projection) :
    item.references marks (Scope.ofTables s.tables) <:+: refs := by
  obtain ⟨q, hq, i, rfl⟩ := Occurrence.exists_item_of_select select hi
  have whole := (statementReferences_exact marks statements).listed refs accepted
  -- what is collected from the item is what the occurrences below it add
  have own : (p.part i (.item, .item item)).below.flatMap (·.references marks) =
      item.references marks (Scope.ofTables s.tables) := by
    have inside : (p.part i (.item, .item item)).IsReturned :=
      (Occurrence.isReturned_part _ _ _).mpr ⟨rfl, returned⟩
    rw [Occurrence.flatMap_references_below, if_pos inside, Occurrence.collected,
      Occurrence.scope_part, select]
    rfl
  rw [whole, ← own]
  exact ((Occurrence.below_isInfix hq).trans (Occurrence.below_isInfix hp)).flatMap _

/-! ### Items of procedures -/

/-- **What is inferred accounts for an item** of a `SELECT`: the item makes references, and what
they give stands in one piece in what is inferred, as a column at least or as a diagnostic that
carries one of the references. -/
structure Sql.SelectItem.Traced (item : SelectItem) (s : Select) (entity : String) (config : Config)
    (catalog : Catalog) (inferred : Resolution) : Prop where
  referring : item.references config.marks (Scope.ofTables s.tables) ≠ []
  columns : (resolve entity config catalog
    (item.references config.marks (Scope.ofTables s.tables))).columns <:+: inferred.columns
  diagnostics : (resolve entity config catalog
    (item.references config.marks (Scope.ofTables s.tables))).diagnostics <:+: inferred.diagnostics
  given : (resolve entity config catalog
      (item.references config.marks (Scope.ofTables s.tables))).columns ≠ [] ∨
    ∃ r ∈ item.references config.marks (Scope.ofTables s.tables), ∃ reason,
      .unresolvedColumn entity r reason ∈ (resolve entity config catalog
        (item.references config.marks (Scope.ofTables s.tables))).diagnostics

/-- **What is inferred accounts for every item that is a column or a wildcard, unless the item is a
wildcard in a `SELECT` without named tables.**  The item may stand in any returned `SELECT` of any
statement that is accepted, and the catalog has no table without columns. -/
theorem traced_iff (config : Config) {catalog : Catalog} (full : catalog.HasColumns)
    {procedure : ProcedureDefinition} {text : String}
    (kept : text ∈ selectStatements (procedureBody procedure.definition))
    {statements : List Statement} (parsed : parseStatements config.dialect text = .ok statements)
    {refs : List ColumnRef} (accepted : sqlColumns config.dialect config.marks text = .ok refs)
    {p : Occurrence} (hp : p ∈ (Occurrence.root statements).below) (returned : p.IsReturned)
    {s : Select} (select : p.node = .select s) {item : SelectItem} (hi : item ∈ s.projection)
    (kind : item.IsColumns) :
    item.Traced s procedure.name config catalog
        ((Pipeline.standard config).inferProcedure procedure catalog) ↔
      ¬ s.IsLostStar item := by
  have none := item.references_eq_nil_iff config.marks s kind
  refine ⟨fun traced lost => traced.referring (none.mpr lost), fun seen => ?_⟩
  have referring := mt none.mp seen
  have read : statementReferences config.marks statements = .ok refs := by
    rw [← accepted, sqlColumns, parsed]
  obtain ⟨columns, diagnostics⟩ :=
    (Pipeline.standard config).resolve_isInfix_inferProcedure catalog procedure
      ((references_isInfix_of_item read hp returned select hi).trans
        (collect_isInfix procedure.name kept accepted))
  refine ⟨referring, columns, diagnostics, ?_⟩
  -- the first reference is enough
  obtain ⟨r, rest, first⟩ := List.exists_cons_of_ne_nil referring
  rw [first, resolve, Resolution.columns_append, Resolution.diagnostics_append]
  rcases resolveOne_ne_nil procedure.name config full r with h | ⟨reason, h⟩
  · exact .inl (List.append_ne_nil_of_left_ne_nil h _)
  · exact .inr ⟨r, List.mem_cons_self, reason, List.mem_append_left _ h⟩

/-! ### A wildcard over a derived table -/

/-- The `SELECT` that a text is, if it is nothing more. -/
def Sql.loneSelect? (d : Dialect) (text : String) : Option Select :=
  match parseStatements d text with
  | .ok [.query (.mk [] (.select s) [] [])] => some s
  | _ => none

/-- Such a `SELECT` is returned. -/
theorem Sql.exists_of_loneSelect? {d : Dialect} {text : String} {s : Select}
    (h : loneSelect? d text = some s) :
    ∃ statements, parseStatements d text = .ok statements ∧
      ∃ p ∈ (Occurrence.root statements).below, p.IsReturned ∧ p.node = .select s := by
  rw [loneSelect?] at h
  split at h
  · next s parsed =>
    cases h
    -- the way down: the statement, its query, its body, and the `SELECT`
    have way : (Occurrence.root [.query (.mk [] (.select s) [] [])]).at? [0, 0, 0, 0] =
        some ⟨[0, 0, 0, 0], [(.body (.select s), .select),
          (.query (.mk [] (.select s) [] []), .body),
          (.statement (.query (.mk [] (.select s) [] [])), .query),
          (.script [.query (.mk [] (.select s) [] [])], .statement)], .select s⟩ := rfl
    refine ⟨_, parsed, _, (Occurrence.mem_below_iff ..).mpr ⟨_, way⟩, ?_, rfl⟩
    simp [Occurrence.IsReturned, Role.isReturned]
  · cases h

/-- A catalog with one table. -/
def onlyOrders : Catalog := .ofRows [⟨"orders", "id", ⟨"int", false⟩⟩]

/-- A procedure that returns everything from a table and a derived one. -/
def ordersBesideDerived : ProcedureDefinition :=
  .undated "report" "SELECT * FROM orders, (SELECT 1 AS one) AS d"

/-- A wildcard that stands for a named table, among others, is accounted for. -/
theorem traced_iff_besideDerived :
    onlyOrders.HasColumns ∧
      ordersBesideDerived.definition ∈
        selectStatements (procedureBody ordersBesideDerived.definition) ∧
      ∃ statements refs,
        parseStatements .msSql ordersBesideDerived.definition = .ok statements ∧
        sqlColumns .msSql Config.default.marks ordersBesideDerived.definition = .ok refs ∧
        ∃ p ∈ (Occurrence.root statements).below, p.IsReturned ∧ ∃ s, p.node = .select s ∧
          ∃ item ∈ s.projection, item.IsColumns ∧
            item.Traced s "report" .default onlyOrders
              ((Pipeline.standard .default).inferProcedure ordersBesideDerived onlyOrders) := by
  have full : onlyOrders.HasColumns := by decide
  have kept : ordersBesideDerived.definition ∈
      selectStatements (procedureBody ordersBesideDerived.definition) := by decide +kernel
  have accepted : sqlColumns .msSql Config.default.marks ordersBesideDerived.definition =
      .ok [⟨none, "orders", "*"⟩] := by decide +kernel
  have found : (loneSelect? .msSql ordersBesideDerived.definition).any
      (fun s => s.projection.any fun item => item.isStar ∧ ¬ s.IsLostStar item) := by
    decide +kernel
  obtain ⟨s, lone, found⟩ := Option.any_eq_true .. |>.mp found
  obtain ⟨item, hi, found⟩ := List.any_eq_true.mp found
  obtain ⟨star, seen⟩ := of_decide_eq_true found
  obtain ⟨statements, parsed, p, hp, returned, select⟩ := exists_of_loneSelect? lone
  have kind := SelectItem.isColumns_of_isStar star
  exact ⟨full, kept, statements, _, parsed, accepted, p, hp, returned, s, select, item, hi, kind,
    (traced_iff .default full kept parsed accepted hp returned select hi kind).mpr seen⟩

/-- A procedure that returns everything from a derived table. -/
def ordersDerived : ProcedureDefinition :=
  .undated "report" "SELECT * FROM (SELECT id FROM orders) AS d"

/-- **A wildcard over a derived table is lost**: the statement is accepted, its only item makes no
reference, and neither a column nor a diagnostic is inferred. -/
theorem star_of_derived_lost :
    onlyOrders.HasColumns ∧
      ordersDerived.definition ∈ selectStatements (procedureBody ordersDerived.definition) ∧
      (∃ statements, parseStatements .msSql ordersDerived.definition = .ok statements ∧
        ∃ p ∈ (Occurrence.root statements).below, p.IsReturned ∧ ∃ s, p.node = .select s ∧
          ∃ item ∈ s.projection, item.IsColumns ∧
            item.references Config.default.marks (Scope.ofTables s.tables) = []) ∧
      sqlColumns .msSql Config.default.marks ordersDerived.definition = .ok [] ∧
      (Pipeline.standard .default).inferProcedure ordersDerived onlyOrders = ⟨[], []⟩ := by
  refine ⟨by decide, by decide +kernel, ?_, by decide +kernel, by decide +kernel⟩
  have found : (loneSelect? .msSql ordersDerived.definition).any
      (fun s => s.projection.any fun item => s.IsLostStar item) := by
    decide +kernel
  obtain ⟨s, lone, found⟩ := Option.any_eq_true .. |>.mp found
  obtain ⟨item, hi, found⟩ := List.any_eq_true.mp found
  have lost := of_decide_eq_true found
  obtain ⟨statements, parsed, p, hp, returned, select⟩ := exists_of_loneSelect? lone
  have kind := SelectItem.isColumns_of_isStar lost.1
  exact ⟨statements, parsed, p, hp, returned, s, select, item, hi, kind,
    (item.references_eq_nil_iff _ s kind).mpr lost⟩

end RowShape
