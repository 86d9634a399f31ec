import RowShape.Catalog
import RowShape.Proofs.OrderedMap

/-!
# Catalogs of listings

A listing has a line for every column, and the lines of a table need not stand together.  Folding it
into a catalog writes every line at its place in a map of maps: a table is looked up by its own
lines alone, so that lines of other tables between them do not matter, and of several lines about
one column the last one is read while the place of the column stays that of the first.

A catalog is listed table by table.  Its listing says nothing about tables without columns, and
everything about the others.

## Main definitions

* `Catalog.linesOf`: the lines of a listing that are about a table
* `Catalog.listing`: the listing of a catalog
* `Catalog.FoldsExactly`: what a listing folds to

## Main results

* `Catalog.table?_ofRows`: a table is what its own lines are folded to
* `Catalog.ofRows_listing_iff`: a catalog is what its listing folds to, unless a table has no
  columns
* `Catalog.ofRows_exact`: every listing is folded exactly
-/

namespace RowShape

namespace Catalog

variable {c : Catalog} {rows : List ColumnRow} {table : String}

/-! ### Tables that are written -/

@[ext] theorem ext {c d : Catalog} (h : c.tables = d.tables) : c = d := by
  cases c; cases d; cases h; rfl

theorem table?_withTable (c : Catalog) (name table : String) (columns : TableColumns) :
    (c.withTable name columns).table? table =
      if table = name then some columns else c.table? table :=
  OrderedMap.get?_insert c.tables name table columns

theorem withTable_withTable (c : Catalog) (name : String) (columns others : TableColumns) :
    (c.withTable name columns).withTable name others = c.withTable name others :=
  Catalog.ext (OrderedMap.insert_insert c.tables name columns others)

/-! ### Lines one after another -/

/-- The lines of a listing that are about a table. -/
def linesOf (table : String) (rows : List ColumnRow) : List ColumnRow :=
  rows.filter (·.table == table)

/-- The columns that lines are about, whichever tables they are about. -/
def columnsOf (rows : List ColumnRow) : TableColumns :=
  rows.foldl (fun m row => m.insert row.column row.info) .empty

/-- **Step**: a line is written into its own table and leaves every other table as it was. -/
theorem table?_addRow (c : Catalog) (row : ColumnRow) (table : String) :
    (c.addRow row).table? table =
      if table = row.table then some (((c.table? table).getD .empty).insert row.column row.info)
      else c.table? table := by
  rw [addRow, table?_withTable]
  split
  · next same => rw [same]
  · rfl

/-- A table that does not occur has no lines. -/
theorem linesOf_eq_nil (h : table ∉ rows.map (·.table)) : linesOf table rows = [] :=
  List.filter_eq_nil_iff.mpr fun r hr same => h (List.mem_map.mpr ⟨r, hr, beq_iff_eq.mp same⟩)

/-- **Run**: a table is what its own lines are folded to, and without any it is not there. -/
theorem table?_ofRows (rows : List ColumnRow) (table : String) :
    (ofRows rows).table? table =
      if table ∈ rows.map (·.table) then some (columnsOf (linesOf table rows)) else none := by
  induction rows using List.reverseRecOn with
  | nil => rfl
  | append_singleton rows row ih =>
    rw [ofRows, List.foldl_append, List.foldl_cons, List.foldl_nil, table?_addRow, ← ofRows, ih]
    by_cases own : table = row.table
    · -- the line comes last among those of its table
      have lines : linesOf table (rows ++ [row]) = linesOf table rows ++ [row] := by
        simp [linesOf, own]
      have added : columnsOf (linesOf table (rows ++ [row])) =
          (columnsOf (linesOf table rows)).insert row.column row.info := by
        rw [lines, columnsOf, List.foldl_append]
        rfl
      have there : table ∈ (rows ++ [row]).map (·.table) := by simp [own]
      rw [if_pos own, added, if_pos there]
      split
      · rfl
      · next absent =>
        rw [linesOf_eq_nil absent]
        rfl
    · have lines : linesOf table (rows ++ [row]) = linesOf table rows := by
        simp [linesOf, Ne.symm own]
      simp [own, lines]

/-- The tables of a listing stand where they first occur. -/
theorem names_ofRows (rows : List ColumnRow) :
    (ofRows rows).names = (rows.map (·.table)).eraseDups := by
  induction rows using List.reverseRecOn with
  | nil => rfl
  | append_singleton rows row ih =>
    rw [ofRows, List.foldl_append, List.foldl_cons, List.foldl_nil, addRow, withTable, names,
      OrderedMap.keys_insert, List.map_append, List.map_cons, List.map_nil, eraseDups_concat]
    rw [names, ofRows] at ih
    simp only [ih, List.mem_eraseDups]

theorem keys_columnsOf (rows : List ColumnRow) :
    (columnsOf rows).keys = (rows.map (·.column)).eraseDups :=
  OrderedMap.keys_foldl_insert rows

theorem get?_columnsOf (rows : List ColumnRow) (column : String) :
    (columnsOf rows).get? column = (rows.findRev? (·.column == column)).map (·.info) := by
  rw [columnsOf, OrderedMap.get?_foldl_insert, OrderedMap.get?_empty, Option.or_none]

/-- The last line about a column of a table is the last of the lines of the table. -/
theorem findRev?_linesOf (rows : List ColumnRow) (table column : String) :
    (linesOf table rows).findRev? (·.column == column) =
      rows.findRev? fun r => r.table == table && r.column == column := by
  rw [List.findRev?_eq_find?_reverse, List.findRev?_eq_find?_reverse, linesOf,
    ← List.filter_reverse, List.find?_filter]
  simp only [Bool.decide_and, Bool.decide_eq_true]

/-- **The last line about a column counts.** -/
theorem column?_ofRows (rows : List ColumnRow) (table column : String) :
    (ofRows rows).column? table column =
      (rows.findRev? fun r => r.table == table && r.column == column).map (·.info) := by
  rw [column?, table?_ofRows, ← findRev?_linesOf]
  split
  · rw [Option.bind_some, get?_columnsOf]
  · next absent =>
    rw [linesOf_eq_nil absent]
    rfl

/-! ### Listings of catalogs -/

/-- The line of a column. -/
def line (table : String) (column : String × ColumnInfo) : ColumnRow :=
  ⟨table, column.1, column.2⟩

/-- The listing of a catalog: its tables in their order, and of each its columns in their order. -/
def listing (c : Catalog) : List ColumnRow :=
  c.tables.entries.flatMap fun t => t.2.entries.map (line t.1)

/-- Every table has a column. -/
def HasColumns (c : Catalog) : Prop := ∀ t ∈ c.tables.entries, t.2.entries ≠ []

instance (c : Catalog) : Decidable c.HasColumns :=
  inferInstanceAs (Decidable (∀ t ∈ c.tables.entries, t.2.entries ≠ []))

/-- The lines of a table, of which there is one at least, are written into the table. -/
theorem foldl_addRow_lines (c : Catalog) (table : String) {columns : List (String × ColumnInfo)}
    (h : columns ≠ []) :
    (columns.map (line table)).foldl addRow c =
      c.withTable table (columns.foldl (fun m e => m.insert e.1 e.2)
        ((c.table? table).getD .empty)) := by
  induction columns using List.reverseRecOn with
  | nil => exact absurd rfl h
  | append_singleton columns last ih =>
    rw [List.map_append, List.foldl_append, List.foldl_append]
    by_cases first : columns = []
    · rw [first]
      rfl
    · rw [ih first]
      change ((c.withTable table _).withTable table
        ((((c.withTable table _).table? table).getD .empty).insert last.1 last.2)) = _
      rw [withTable_withTable, table?_withTable, if_pos rfl]
      rfl

/-- The lines of tables that are not there yet write these tables one after another. -/
theorem foldl_addRow_listing (c : Catalog) {ts : List (String × TableColumns)}
    (distinct : (c.names ++ ts.map (·.1)).Nodup) (full : ∀ t ∈ ts, t.2.entries ≠ []) :
    (ts.flatMap fun t => t.2.entries.map (line t.1)).foldl addRow c =
      ts.foldl (fun c t => c.withTable t.1 t.2) c := by
  induction ts generalizing c with
  | nil => rfl
  | cons t ts ih =>
    obtain ⟨first, rest⟩ := List.forall_mem_cons.mp full
    have absent : t.1 ∉ c.names := fun ht =>
      (List.nodup_append.mp distinct).2.2 _ ht _ List.mem_cons_self rfl
    have new : c.table? t.1 = none := OrderedMap.get?_eq_none_iff.mpr absent
    have names : (c.withTable t.1 t.2).names = c.names ++ [t.1] :=
      (OrderedMap.keys_insert _ _ _).trans (if_neg absent)
    rw [List.flatMap_cons, List.foldl_append, foldl_addRow_lines c t.1 first, new,
      Option.getD_none, OrderedMap.foldl_insert_entries, ih _ _ rest, List.foldl_cons]
    rw [names, List.append_assoc]
    exact distinct

theorem tables_foldl_withTable (ts : List (String × TableColumns)) (c : Catalog) :
    (ts.foldl (fun c t => c.withTable t.1 t.2) c).tables =
      ts.foldl (fun m t => m.insert t.1 t.2) c.tables := by
  induction ts generalizing c with
  | nil => rfl
  | cons t ts ih => exact ih (c.withTable t.1 t.2)

/-- **A catalog whose tables have columns is what its listing folds to.** -/
theorem ofRows_listing (h : c.HasColumns) : ofRows c.listing = c := by
  refine Catalog.ext ?_
  rw [ofRows, listing, foldl_addRow_listing empty c.tables.distinct h, tables_foldl_withTable]
  exact OrderedMap.foldl_insert_entries c.tables

/-- A catalog is what its listing folds to, exactly if every table has a column. -/
theorem ofRows_listing_iff : ofRows c.listing = c ↔ c.HasColumns := by
  refine ⟨fun same t ht empty => ?_, ofRows_listing⟩
  -- a table without columns has no lines
  have named : t.1 ∈ (ofRows c.listing).names := by
    rw [same]
    exact List.mem_map_of_mem ht
  rw [names_ofRows, List.mem_eraseDups] at named
  obtain ⟨row, hrow, same⟩ := List.mem_map.mp named
  obtain ⟨⟨name, columns⟩, ht', hrow⟩ := List.mem_flatMap.mp hrow
  obtain ⟨column, hcolumn, rfl⟩ := List.mem_map.mp hrow
  obtain rfl : name = t.1 := same
  have found : c.tables.get? t.1 = some t.2 := OrderedMap.mem_entries_iff.mp ht
  obtain rfl : columns = t.2 :=
    Option.some.inj ((OrderedMap.mem_entries_iff.mp ht').symm.trans found)
  rw [empty] at hcolumn
  cases hcolumn

/-! ### Exact folding -/

/-- **What a listing folds to.** -/
structure FoldsExactly (rows : List ColumnRow) : Prop where
  /-- The tables are those that occur, in the order in which they first occur. -/
  tables : (ofRows rows).names = (rows.map (·.table)).eraseDups
  /-- The columns of a table are those that occur in its lines, in the order in which they first
  occur there. -/
  columns : ∀ table ∈ (ofRows rows).names, ∃ columns,
    (ofRows rows).table? table = some columns ∧
      columns.keys = ((linesOf table rows).map (·.column)).eraseDups
  /-- The last line about a column counts, and what no line is about is not there. -/
  described : ∀ table column, (ofRows rows).column? table column =
    (rows.findRev? fun r => r.table == table && r.column == column).map (·.info)
  /-- A table depends on its own lines alone. -/
  own : ∀ table, (ofRows rows).table? table = (ofRows (linesOf table rows)).table? table
  /-- If the lines are the listing of a catalog, they fold to this catalog, unless it has a table
  without columns. -/
  restored : ∀ c : Catalog, c.listing = rows → (ofRows rows = c ↔ c.HasColumns)

/-- Every listing is folded exactly. -/
theorem ofRows_exact (rows : List ColumnRow) : FoldsExactly rows where
  tables := names_ofRows rows
  columns table h := by
    rw [names_ofRows, List.mem_eraseDups] at h
    exact ⟨_, by rw [table?_ofRows, if_pos h], keys_columnsOf _⟩
  described := column?_ofRows rows
  own table := by
    have once : linesOf table (linesOf table rows) = linesOf table rows := by
      simp [linesOf, List.filter_filter]
    have same : table ∈ (linesOf table rows).map (·.table) ↔ table ∈ rows.map (·.table) := by
      simp [linesOf]
    rw [table?_ofRows, table?_ofRows, once]
    simp only [same]
  restored c h := h ▸ ofRows_listing_iff

end Catalog

end RowShape
