import RowShape.Proofs.Document
import RowShape.Proofs.Resolution.Exact

/-!
# Wildcards written out

A wildcard goes through the columns of its table, and a reference that names a column looks it up
there.  So a wildcard gives what the references to all columns of its table give one after another,
wherever it stands.  There is one exception: a column that is itself named `*` cannot be referred to
by its name while wildcards stand for all columns.  Written out, such a table gives all its columns
once more in the place of that column.

The document of a procedure does not tell even these two apart.  A column that comes again with
nothing else of its name in between is absorbed by the properties that are there (`Absorbs`), and
absorption outlasts all columns of other names.

## Main definitions

* `WritesOut`: references to all columns of a table
* `Synthesizer.Absorbs`: properties that a column adds nothing to

## Main results

* `resolve_writesOut`: what a wildcard gives that is written out
* `Synthesizer.foldl_addColumn_namedColumns`: columns that come again are absorbed
* `writesOut_alike`: a wildcard and what it is written out as
-/

namespace RowShape

/-! ### Columns of a table -/

/-- References that write out a wildcard: to each column of a table in the order in which they are
declared, whatever functions are applied to them. -/
def WritesOut (table : String) (columns : TableColumns) (refs : List ColumnRef) : Prop :=
  List.Forall₂ (fun column r => r.source = table ∧ r.column = column) columns.keys refs

/-- All columns of a table in the order in which they are declared. -/
def allColumns (table : String) (columns : TableColumns) : List ResolvedColumn :=
  columns.entries.map fun e => ⟨table, e.1, e.2⟩

/-- What the references to all columns of a table give: each its column, but that to a column named
`*` gives all of them. -/
def namedColumns (table : String) (columns : TableColumns) : List ResolvedColumn :=
  columns.entries.flatMap fun e =>
    if e.1 = "*" then allColumns table columns else [⟨table, e.1, e.2⟩]

variable {table : String} {columns : TableColumns}

theorem column_allColumns (table : String) (columns : TableColumns) :
    (allColumns table columns).map (·.column) = columns.keys := by
  rw [allColumns, List.map_map]
  rfl

/-- In a table every name has one column. -/
theorem eq_of_mem_allColumns {c d : ResolvedColumn} (hc : c ∈ allColumns table columns)
    (hd : d ∈ allColumns table columns) (same : c.column = d.column) : c = d := by
  obtain ⟨⟨name, info⟩, he, rfl⟩ := List.mem_map.mp hc
  obtain ⟨⟨other, info'⟩, he', rfl⟩ := List.mem_map.mp hd
  obtain rfl : name = other := same
  -- both entries are what is looked up under the name
  have found := OrderedMap.mem_entries_iff.mp he
  rw [OrderedMap.mem_entries_iff.mp he', Option.some_inj] at found
  rw [found]

theorem flatMap_named_of_notMem {es : List (String × ColumnInfo)} (h : "*" ∉ es.map (·.1)) :
    (es.flatMap fun e => if e.1 = "*" then allColumns table columns else [⟨table, e.1, e.2⟩]) =
      es.map fun e => ⟨table, e.1, e.2⟩ := by
  induction es with
  | nil => rfl
  | cons e es ih =>
    rw [List.map_cons, List.mem_cons, not_or] at h
    rw [List.flatMap_cons, ih h.2, if_neg (Ne.symm h.1), List.map_cons, List.singleton_append]

/-- Without a column named `*`, each reference gives its own column. -/
theorem namedColumns_eq (h : "*" ∉ columns.keys) :
    namedColumns table columns = allColumns table columns :=
  flatMap_named_of_notMem h

/-- With a column named `*`, all columns come once more in its place. -/
theorem exists_namedColumns_eq (table : String) (h : "*" ∈ columns.keys) :
    ∃ before c after, allColumns table columns = before ++ c :: after ∧ c.column = "*" ∧
      namedColumns table columns = before ++ allColumns table columns ++ after := by
  obtain ⟨⟨name, info⟩, he, rfl⟩ := List.mem_map.mp h
  obtain ⟨before, after, split⟩ := List.append_of_mem he
  have distinct := columns.distinct
  rw [split, List.map_append, List.map_cons, List.nodup_append, List.nodup_cons] at distinct
  obtain ⟨-, ⟨behind, -⟩, apart⟩ := distinct
  have ahead : "*" ∉ before.map (·.1) := fun hm => apart _ hm _ List.mem_cons_self rfl
  refine ⟨before.map fun e => ⟨table, e.1, e.2⟩, ⟨table, "*", info⟩,
    after.map fun e => ⟨table, e.1, e.2⟩, ?_, rfl, ?_⟩
  · rw [allColumns, split, List.map_append, List.map_cons]
  · -- the column stands between columns of other names, which give themselves
    rw [namedColumns, split, List.flatMap_append, List.flatMap_cons,
      flatMap_named_of_notMem ahead, flatMap_named_of_notMem behind, if_pos rfl, List.append_assoc]

/-- Written out, a table gives the same columns unless one of several is named `*`. -/
theorem namedColumns_eq_iff (table : String) :
    namedColumns table columns = allColumns table columns ↔
      ("*" ∈ columns.keys → columns.keys = ["*"]) := by
  constructor
  · intro same star
    obtain ⟨before, c, after, all, hc, named⟩ := exists_namedColumns_eq table star
    rw [same] at named
    -- nothing can stand before the column or behind it
    have count := congrArg List.length named
    simp only [List.length_append] at count
    obtain rfl : before = [] := List.eq_nil_of_length_eq_zero (by omega)
    obtain rfl : after = [] := List.eq_nil_of_length_eq_zero (by omega)
    rw [← column_allColumns table columns, all]
    simp [hc]
  · intro lone
    by_cases star : "*" ∈ columns.keys
    · obtain ⟨before, c, after, all, -, named⟩ := exists_namedColumns_eq table star
      have count := congrArg List.length (lone star)
      rw [← column_allColumns table columns, List.length_map, all] at count
      simp only [List.length_append, List.length_cons, List.length_nil] at count
      obtain rfl : before = [] := List.eq_nil_of_length_eq_zero (by omega)
      obtain rfl : after = [] := List.eq_nil_of_length_eq_zero (by omega)
      rw [named, List.nil_append, List.append_nil]
    · exact namedColumns_eq star

/-! ### References -/

section References

variable {config : Config} {catalog : Catalog} {entity : String}

/-- A wildcard gives all columns of its table. -/
theorem resolveOne_wildcard {w : ColumnRef} (on : config.expandWildcards = true)
    (wild : w.column = "*") (known : catalog.table? w.source = some columns)
    (notNull : w.source ≠ config.nullMarker) (notVariable : ¬ config.IsVariable w.source) :
    resolveOne entity config catalog w = ⟨allColumns w.source columns, []⟩ := by
  have listed : w.source ∈ catalog.names := OrderedMap.mem_keys_of_get? known
  have kept : skipReason? config catalog w = none :=
    skipReason?_eq_none_iff.mpr ⟨notNull, notVariable, listed, .inl ⟨wild, on⟩⟩
  rw [resolveOne_of_kept kept, standsFor, if_pos ⟨wild, on⟩, known]
  simp [allColumns]

/-- A reference gives the column that it names. -/
theorem resolveOne_named {r : ColumnRef} {info : ColumnInfo} (named : r.column ≠ "*")
    (known : catalog.table? r.source = some columns) (declared : columns.get? r.column = some info)
    (notNull : r.source ≠ config.nullMarker) (notVariable : ¬ config.IsVariable r.source) :
    resolveOne entity config catalog r = ⟨[⟨r.source, r.column, info⟩], []⟩ := by
  have found : catalog.column? r.source r.column = some info :=
    Catalog.column?_eq_some_iff.mpr ⟨columns, known, declared⟩
  have listed : r.source ∈ catalog.names := OrderedMap.mem_keys_of_get? known
  have kept : skipReason? config catalog r = none :=
    skipReason?_eq_none_iff.mpr ⟨notNull, notVariable, listed, .inr (by rw [found]; rfl)⟩
  rw [resolveOne_of_kept kept, standsFor, if_neg fun h => named h.1, found]
  rfl

/-- **What a wildcard gives that is written out**: its columns and no diagnostic. -/
theorem resolve_writesOut (on : config.expandWildcards = true)
    (known : catalog.table? table = some columns) (notNull : table ≠ config.nullMarker)
    (notVariable : ¬ config.IsVariable table) {refs : List ColumnRef}
    (h : WritesOut table columns refs) :
    resolve entity config catalog refs = ⟨namedColumns table columns, []⟩ := by
  rw [WritesOut, OrderedMap.keys, List.forall₂_map_left_iff] at h
  rw [namedColumns]
  -- reference by reference, each of them with its entry of the table
  have entries : ∀ e ∈ columns.entries, columns.get? e.1 = some e.2 :=
    fun e he => OrderedMap.mem_entries_iff.mp he
  generalize columns.entries = es at h entries
  induction h with
  | nil => rfl
  | @cons e r es refs own _ ih =>
    obtain ⟨first, rest⟩ := List.forall_mem_cons.mp entries
    obtain ⟨rfl, column⟩ := own
    rw [resolve, ih rest, List.flatMap_cons]
    by_cases star : e.1 = "*"
    · rw [resolveOne_wildcard on (column.trans star) known notNull notVariable, if_pos star]
      rfl
    · rw [← column] at star first
      rw [resolveOne_named star known first notNull notVariable, ← column, if_neg star]
      rfl

end References

/-! ### Properties that come again -/

namespace PropertyList

variable {b : PropertyList} {name : String} {property : PropertySchema} {nullable : Bool}

/-- Adding a column changes nothing if it is described already, and required if it has to be. -/
theorem add_eq_self_iff :
    b.add name property nullable = b ↔
      b.properties.get? name = some property ∧ (nullable = true ∨ name ∈ b.required) := by
  rw [← OrderedMap.insert_eq_self_iff]
  constructor
  · intro h
    refine ⟨congrArg properties h, ?_⟩
    by_contra absent
    have longer := congrArg (fun b => b.required.length) h
    simp [add, absent] at longer
  · rintro ⟨described, there⟩
    have unchanged : (nullable || b.required.contains name) = true := by simpa using there
    rw [add, described, if_pos unchanged]

end PropertyList

namespace Synthesizer

variable {config : Config} {registry : Registry} {name : String}

/-- Adds a column of a procedure. -/
def addColumn (config : Config) (registry : Registry) (b : PropertyList) (c : ResolvedColumn) :
    PropertyList :=
  b.add c.column (columnProperty config registry c) c.info.nullable

theorem procedureProperties_eq (columns : List ResolvedColumn) :
    procedureProperties config registry columns =
      columns.foldl (addColumn config registry) .empty := rfl

/-- A column adds nothing to properties. -/
def Absorbs (config : Config) (registry : Registry) (b : PropertyList) (c : ResolvedColumn) :
    Prop :=
  addColumn config registry b c = b

variable {b : PropertyList} {c : ResolvedColumn}

/-- A column that has just been added is absorbed. -/
theorem absorbs_addColumn (b : PropertyList) (c : ResolvedColumn) :
    Absorbs config registry (addColumn config registry b c) c := by
  refine PropertyList.add_eq_self_iff.mpr ⟨?_, ?_⟩
  · change (b.properties.insert _ _).get? _ = _
    rw [OrderedMap.get?_insert, if_pos rfl]
  · cases hn : c.info.nullable with
    | true => exact .inl rfl
    | false =>
      right
      simp only [addColumn, PropertyList.add, hn, Bool.false_or]
      split
      · next there => exact List.contains_iff_mem.mp there
      · exact List.mem_append_right _ (List.mem_singleton_self _)

/-- **Step**: what is absorbed stays so if a column of another name is added, or the same one. -/
theorem Absorbs.addColumn (h : Absorbs config registry b c) {d : ResolvedColumn}
    (other : d.column = c.column → d = c) :
    Absorbs config registry (addColumn config registry b d) c := by
  obtain ⟨described, there⟩ := PropertyList.add_eq_self_iff.mp h
  refine PropertyList.add_eq_self_iff.mpr ⟨?_, there.imp_right fun hm => ?_⟩
  · change (b.properties.insert _ _).get? _ = _
    rw [OrderedMap.get?_insert]
    split
    · next same => rw [other same.symm]
    · exact described
  · simp only [Synthesizer.addColumn, PropertyList.add]
    split
    · exact hm
    · exact List.mem_append_left _ hm

/-- **Run**: so it does for columns that are added one after another. -/
theorem Absorbs.foldl_addColumn (h : Absorbs config registry b c) {ds : List ResolvedColumn}
    (others : ∀ d ∈ ds, d.column = c.column → d = c) :
    Absorbs config registry (ds.foldl (Synthesizer.addColumn config registry) b) c := by
  induction ds generalizing b with
  | nil => exact h
  | cons d ds ih =>
    obtain ⟨first, rest⟩ := List.forall_mem_cons.mp others
    exact ih (h.addColumn first) rest

/-- Columns with distinct names are all absorbed once they have been added. -/
theorem absorbs_foldl_addColumn {cs : List ResolvedColumn}
    (once : ∀ c ∈ cs, ∀ d ∈ cs, d.column = c.column → d = c) (b : PropertyList) :
    ∀ c ∈ cs, Absorbs config registry (cs.foldl (addColumn config registry) b) c := by
  intro c hc
  obtain ⟨before, after, rfl⟩ := List.append_of_mem hc
  rw [List.foldl_append, List.foldl_cons]
  refine (absorbs_addColumn _ c).foldl_addColumn fun d hd => ?_
  exact once c hc d (List.mem_append_right _ (List.mem_cons_of_mem _ hd))

/-- Columns that are absorbed add nothing one after another. -/
theorem foldl_addColumn_eq_self {cs : List ResolvedColumn}
    (h : ∀ c ∈ cs, Absorbs config registry b c) :
    cs.foldl (addColumn config registry) b = b := by
  induction cs with
  | nil => rfl
  | cons c cs ih =>
    obtain ⟨first, rest⟩ := List.forall_mem_cons.mp h
    rw [List.foldl_cons, first, ih rest]

/-- **Columns that come again are absorbed**: a table may be gone through in the middle of going
through it. -/
theorem foldl_addColumn_namedColumns (table : String) (columns : TableColumns) (b : PropertyList) :
    (namedColumns table columns).foldl (addColumn config registry) b =
      (allColumns table columns).foldl (addColumn config registry) b := by
  by_cases star : "*" ∈ columns.keys
  · obtain ⟨before, c, after, all, -, named⟩ := exists_namedColumns_eq table star
    have once : ∀ x ∈ allColumns table columns, ∀ y ∈ allColumns table columns,
        y.column = x.column → y = x :=
      fun x hx y hy => eq_of_mem_allColumns hy hx
    have inside : before ⊆ allColumns table columns ∧ after ⊆ allColumns table columns := by
      rw [all]
      exact ⟨List.subset_append_left _ _, fun x hx => by simp [hx]⟩
    -- the columns before `*` are absorbed when they come again, and those behind it later on
    have ahead : before.foldl (addColumn config registry)
        (before.foldl (addColumn config registry) b) =
          before.foldl (addColumn config registry) b := by
      refine foldl_addColumn_eq_self (absorbs_foldl_addColumn (fun x hx y hy => ?_) b)
      exact once x (inside.1 hx) y (inside.1 hy)
    have behind : after.foldl (addColumn config registry)
        ((allColumns table columns).foldl (addColumn config registry) b) =
          (allColumns table columns).foldl (addColumn config registry) b :=
      foldl_addColumn_eq_self fun x hx => absorbs_foldl_addColumn once b x (inside.2 hx)
    have whole : (allColumns table columns).foldl (addColumn config registry)
        (before.foldl (addColumn config registry) b) =
          (allColumns table columns).foldl (addColumn config registry) b := by
      rw [all, List.foldl_append, List.foldl_append, ahead]
    rw [named, List.foldl_append, List.foldl_append, whole, behind]
  · rw [namedColumns_eq star]

/-- **The document of a procedure is the same** whether a table is gone through or its columns are
named one after another. -/
theorem procedureDocument_namedColumns (table : String) (columns : TableColumns)
    (before after : List ResolvedColumn) :
    procedureDocument config registry name (before ++ namedColumns table columns ++ after) =
      procedureDocument config registry name (before ++ allColumns table columns ++ after) := by
  simp only [procedureDocument, procedureProperties_eq, List.foldl_append,
    foldl_addColumn_namedColumns]

end Synthesizer

/-! ### Wildcards -/

/-- **A wildcard means the columns of its table.**  In its place the references to all of them, in
the order in which they are declared, resolve to the same columns and the same diagnostics, unless
one of several columns is itself named `*`.  Even then a document that is built for the columns is
the same, beside whatever documents it is built. -/
theorem writesOut_alike {config : Config} {catalog : Catalog} {w : ColumnRef}
    {columns : TableColumns} {refs : List ColumnRef} (on : config.expandWildcards = true)
    (wild : w.isWildcard = true) (known : catalog.table? w.source = some columns)
    (notNull : w.source ≠ config.nullMarker) (notVariable : ¬ config.IsVariable w.source)
    (h : WritesOut w.source columns refs) (entity : String) (before after : List ColumnRef) :
    (resolve entity config catalog (before ++ refs ++ after) =
        resolve entity config catalog (before ++ w :: after) ↔
      ("*" ∈ columns.keys → columns.keys = ["*"])) ∧
      ∀ (s : Synthesizer) (name : String) (registry : Registry),
        s.synthesizeProcedure name
            (resolve entity config catalog (before ++ refs ++ after)).columns registry =
          s.synthesizeProcedure name
            (resolve entity config catalog (before ++ w :: after)).columns registry := by
  have star : w.column = "*" := beq_iff_eq.mp wild
  have written : resolve entity config catalog (before ++ refs ++ after) =
      resolve entity config catalog before ++ ⟨namedColumns w.source columns, []⟩ ++
        resolve entity config catalog after := by
    rw [resolve_append, resolve_append, resolve_writesOut on known notNull notVariable h]
  have short : resolve entity config catalog (before ++ w :: after) =
      resolve entity config catalog before ++ ⟨allColumns w.source columns, []⟩ ++
        resolve entity config catalog after := by
    rw [resolve_append, resolve, resolveOne_wildcard on star known notNull notVariable,
      Resolution.append_assoc]
  rw [written, short]
  constructor
  · rw [← namedColumns_eq_iff w.source, Resolution.ext_iff]
    simp
  · intro s name registry
    simp only [Synthesizer.synthesizeProcedure, Resolution.columns_append,
      Synthesizer.procedureDocument_namedColumns]

/-- The columns of a table of orders. -/
def orderColumns : TableColumns := .ofList [("id", ⟨"int", false⟩), ("total", ⟨"money", true⟩)]

/-- In a self-join the second wildcard is written out, with a function applied to one of the
columns, and a constant follows. -/
theorem writesOut_alike_selfJoin :
    let catalog := Catalog.empty.withTable "orders" orderColumns
    let refs := [.plain "orders" "id", ⟨some "MAX", "orders", "total"⟩]
    WritesOut "orders" orderColumns refs ∧
      resolve "report" .default catalog
          ([.plain "orders" "*"] ++ refs ++ [.plain "null" "note"]) =
        resolve "report" .default catalog
          ([.plain "orders" "*"] ++ .plain "orders" "*" :: [.plain "null" "note"]) := by
  have written : WritesOut "orders" orderColumns
      [.plain "orders" "id", ⟨some "MAX", "orders", "total"⟩] :=
    .cons ⟨rfl, rfl⟩ (.cons ⟨rfl, rfl⟩ .nil)
  refine ⟨written, ?_⟩
  exact (@writesOut_alike .default _ (.plain "orders" "*") _ _ rfl rfl rfl (by decide) (by decide)
    written "report" _ _).1.mpr (by decide)

/-- A column that is named like a wildcard stands for all columns when it is written out. -/
example :
    let columns : TableColumns := .ofList [("id", ⟨"int", false⟩), ("*", ⟨"text", true⟩)]
    (resolve "report" .default (Catalog.empty.withTable "odd" columns)
      [.plain "odd" "id", .plain "odd" "*"]).columns.map (·.column) = ["id", "id", "*"] := by
  decide

end RowShape
