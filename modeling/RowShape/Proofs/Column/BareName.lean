import RowShape.Proofs.Column.Extraction
import RowShape.Proofs.Column.Scope
import RowShape.Proofs.Resolution.Exact

/-!
# Names without a qualifier

What is collected for a name without a qualifier is decided in the scope of its `SELECT`, and what
it gives is decided in a catalog.  Between the two there is one text, the source of the reference,
which may be a table, a variable or the mark for columns without a table.  A table may well be named
like a variable, or like the mark.

Such coincidences cost a column, but they never make one up: a name gives a column exactly if it is
no name of a variable, its `SELECT` reads from one relation only, this is a table that is named
neither like a variable nor like the mark, and the catalog declares the column there.  In all other
cases it gives one diagnostic.

## Main definitions

* `Sql.Occurrence.IsBareItem`: a name that is an item of a `SELECT`
* `IsColumnOfName`: the column that such a name stands for
* `ResolvesName`: what such a name gives
* `Sql.Occurrence.Gives`: what an occurrence in statements gives

## Main results

* `resolvesName_bareReference`: the reference of a name gives the column that the name stands for
* `bareName_resolved`: the names in the trees of statements, wherever they stand
-/

namespace RowShape

open Sql

variable {config : Config} {catalog : Catalog} {s : Select} {name : String}

/-! ### Collecting -/

/-- The occurrence is a name without a qualifier, and as such an item of a `SELECT`. -/
structure Sql.Occurrence.IsBareItem (p : Occurrence) (s : Select) (name : Ident) : Prop where
  node : p.node = .expr (.ident name)
  /-- Above it are the item, with or without an alias, and the `SELECT`. -/
  above : ∃ aliased rest,
    p.trail = (.item (.expr (.ident name) aliased), .value) :: (.select s, .item) :: rest

/-- The reference that is collected for a name in the scope of a `SELECT`. -/
def bareReference (marks : SourceMarks) (s : Select) (name : String) : ColumnRef :=
  .plain (marks.bareSource (Scope.ofTables s.tables) name) name

theorem Sql.Occurrence.IsBareItem.references_eq {p : Occurrence} {ident : Ident}
    (h : p.IsBareItem s ident) (returned : p.IsReturned) (marks : SourceMarks) :
    p.references marks = [bareReference marks s ident.value] := by
  obtain ⟨address, trail, node⟩ := p
  obtain ⟨hn, aliased, rest, ht⟩ := h
  dsimp only at hn ht
  subst hn ht
  rw [Occurrence.references, if_pos returned]
  rfl

/-! ### Resolving -/

/-- The column of a catalog that a name without a qualifier stands for in a `SELECT`. -/
structure IsColumnOfName (config : Config) (catalog : Catalog) (s : Select) (name : String)
    (c : ResolvedColumn) : Prop where
  /-- The name is not that of a variable. -/
  named : ¬ config.IsVariable name
  /-- The `FROM` clause has a single leaf, and this is the table of the column. -/
  only : ∃ table aliased, fromLeaves s.tables = [.table table aliased] ∧ table.baseName = c.table
  /-- The table is named neither like the mark nor like a variable. -/
  apart : c.table ≠ config.nullMarker ∧ ¬ config.IsVariable c.table
  /-- The column has the name. -/
  column : c.column = name
  /-- The catalog declares it the way it is. -/
  declared : c.DeclaredIn catalog

/-- A name stands for at most one column. -/
theorem IsColumnOfName.unique {c d : ResolvedColumn} (hc : IsColumnOfName config catalog s name c)
    (hd : IsColumnOfName config catalog s name d) : c = d := by
  obtain ⟨table, column, info⟩ := c
  obtain ⟨table', column', info'⟩ := d
  obtain ⟨t, a, leaves, rfl⟩ := hc.only
  obtain ⟨t', a', leaves', rfl⟩ := hd.only
  obtain ⟨rfl, -⟩ : t = t' ∧ a = a' := by simpa [leaves] using leaves'
  obtain rfl : column = name := hc.column
  obtain rfl : column' = column := hd.column
  have same : some info = some info' := hc.declared.symm.trans hd.declared
  rw [Option.some.inj same]

/-- The source of a name is its table if there is a single one, and else it is the mark or a
variable. -/
theorem bareReference_source_cases (config : Config) (s : Select) (name : String) :
    (¬ config.IsVariable name ∧
        (Scope.ofTables s.tables).singleTable? = some (bareReference config.marks s name).source) ∨
      (config.IsVariable name ∨ (Scope.ofTables s.tables).singleTable? = none) ∧
        ((bareReference config.marks s name).source = config.nullMarker ∨
          config.IsVariable (bareReference config.marks s name).source) := by
  have source : (bareReference config.marks s name).source =
      config.marks.bareSource (Scope.ofTables s.tables) name := rfl
  rw [source, SourceMarks.bareSource]
  by_cases hv : config.IsVariable name
  · rw [if_pos (Config.isVariable_marks_iff.mpr hv)]
    exact .inr ⟨.inl hv, .inr hv⟩
  · rw [if_neg (mt Config.isVariable_marks_iff.mp hv)]
    cases ht : (Scope.ofTables s.tables).singleTable? with
    | none => exact .inr ⟨.inr rfl, .inl rfl⟩
    | some table => exact .inl ⟨hv, rfl⟩

/-- If a name stands for a column, its reference is kept. -/
theorem IsColumnOfName.kept {c : ResolvedColumn} (h : IsColumnOfName config catalog s name c) :
    skipReason? config catalog (bareReference config.marks s name) = none := by
  have single := Scope.singleTable?_ofTables_iff.mpr h.only
  obtain ⟨-, source⟩ | ⟨no, -⟩ := bareReference_source_cases config s name
  · have table : c.table = (bareReference config.marks s name).source :=
      Option.some.inj (single.symm.trans source)
    have declared : catalog.column? (bareReference config.marks s name).source name =
        some c.info := by
      rw [← table, ← h.column]
      exact h.declared
    refine skipReason?_eq_none_iff.mpr
      ⟨table ▸ h.apart.1, table ▸ h.apart.2, table ▸ h.declared.table_mem, .inr ?_⟩
    exact Option.isSome_iff_exists.mpr ⟨_, declared⟩
  · rw [single] at no
    exact absurd no (not_or.mpr ⟨h.named, Option.some_ne_none _⟩)

/-- If the reference of a name is kept, it gives a column that the name stands for. -/
theorem exists_isColumnOfName_of_kept (entity : String) (hn : name ≠ "*")
    (kept : skipReason? config catalog (bareReference config.marks s name) = none) :
    ∃ c, IsColumnOfName config catalog s name c ∧
      resolveOne entity config catalog (bareReference config.marks s name) = ⟨[c], []⟩ := by
  obtain ⟨notNull, notVariable, -, found⟩ := skipReason?_eq_none_iff.mp kept
  obtain ⟨named, single⟩ | ⟨-, mark⟩ := bareReference_source_cases config s name
  · have notExpanded : ¬ (bareReference config.marks s name).IsExpanded config :=
      fun h => hn h.1
    obtain ⟨info, hi⟩ := Option.isSome_iff_exists.mp (found.resolve_left notExpanded)
    refine ⟨⟨_, name, info⟩, ⟨named, ?_, ⟨notNull, notVariable⟩, rfl, hi⟩, ?_⟩
    · exact Scope.singleTable?_ofTables_iff.mp single
    · rw [resolveOne_of_kept kept, standsFor, if_neg notExpanded, hi]
      rfl
  · -- the source is the mark or a variable, and such references are dropped
    exact absurd mark (not_or.mpr ⟨notNull, notVariable⟩)

/-- What a name without a qualifier gives. -/
structure ResolvesName (entity : String) (config : Config) (catalog : Catalog) (s : Select)
    (name : String) (outcome : Resolution) : Prop where
  /-- It gives a column, and nothing else, exactly if it stands for this column. -/
  found_iff : ∀ c, outcome = ⟨[c], []⟩ ↔ IsColumnOfName config catalog s name c
  /-- If it stands for none, it gives no column and one diagnostic, which names it. -/
  dropped : (¬ ∃ c, IsColumnOfName config catalog s name c) →
    ∃ r reason, r.column = name ∧ outcome = ⟨[], [.unresolvedColumn entity r reason]⟩

/-- **The reference of a name gives the column that the name stands for**, and if it stands for
none, the reference is dropped. -/
theorem resolvesName_bareReference (entity : String) (config : Config) (catalog : Catalog)
    (s : Select) {name : String} (hn : name ≠ "*") :
    ResolvesName entity config catalog s name
      (resolveOne entity config catalog (bareReference config.marks s name)) := by
  cases hs : skipReason? config catalog (bareReference config.marks s name) with
  | none =>
    obtain ⟨c, hc, outcome⟩ := exists_isColumnOfName_of_kept entity hn hs
    rw [outcome]
    refine ⟨fun d => ⟨?_, ?_⟩, fun no => absurd ⟨c, hc⟩ no⟩
    · intro h
      obtain rfl : c = d := by simpa using h
      exact hc
    · intro hd
      rw [hc.unique hd]
  | some reason =>
    have no (d : ResolvedColumn) : ¬ IsColumnOfName config catalog s name d := by
      intro hd
      rw [hd.kept] at hs
      cases hs
    rw [resolveOne_of_dropped hs]
    refine ⟨fun d => ⟨?_, fun hd => absurd hd (no d)⟩, fun _ => ⟨_, reason, rfl, rfl⟩⟩
    intro h
    simp at h

/-! ### Names in statements -/

/-- What an occurrence gives when all columns of the statements are collected and resolved: it comes
after what the occurrences before it give, and before what those after it give. -/
def Sql.Occurrence.Gives (entity : String) (config : Config) (catalog : Catalog)
    (statements : List Statement) (p : Occurrence) (outcome : Resolution) : Prop :=
  ∃ before after refs,
    (root statements).below = before ++ p :: after ∧
    statementReferences config.marks statements = .ok refs ∧
    resolve entity config catalog refs =
      resolve entity config catalog (before.flatMap (·.references config.marks)) ++ outcome ++
        resolve entity config catalog (after.flatMap (·.references config.marks))

/-- In statements that are queries, an occurrence gives what its own references do. -/
theorem Sql.Occurrence.gives_of_mem_below (entity : String) (config : Config) (catalog : Catalog)
    {statements : List Statement} (queries : ∀ t ∈ statements, t.isQuery) {p : Occurrence}
    (hp : p ∈ (root statements).below) :
    p.Gives entity config catalog statements
      (resolve entity config catalog (p.references config.marks)) := by
  obtain ⟨before, after, split⟩ := List.append_of_mem hp
  have collected := (statementReferences_exact config.marks statements).listed _
    (statementReferences_of_queries queries)
  refine ⟨before, after, _, split, statementReferences_of_queries queries, ?_⟩
  rw [collected, split, List.flatMap_append, List.flatMap_cons, resolve_append, resolve_append,
    Resolution.append_assoc]

/-- **Collecting and resolving agree on names without a qualifier**, wherever such a name is an item
of a returned `SELECT`. -/
theorem bareName_resolved (entity : String) (config : Config) (catalog : Catalog)
    {statements : List Statement} (queries : ∀ t ∈ statements, t.isQuery) {p : Occurrence}
    (hp : p ∈ (Occurrence.root statements).below) {s : Select} {name : Ident}
    (item : p.IsBareItem s name) (returned : p.IsReturned) (hn : name.value ≠ "*") :
    ∃ outcome, p.Gives entity config catalog statements outcome ∧
      ResolvesName entity config catalog s name.value outcome := by
  have gives := Occurrence.gives_of_mem_below entity config catalog queries hp
  rw [item.references_eq returned, resolve_singleton] at gives
  exact ⟨_, gives, resolvesName_bareReference entity config catalog s hn⟩

/-- A `SELECT` of totals from one table, which stands in two pairs of parentheses. -/
def totals : Select :=
  .mk [] [.expr (.ident (.bare "total")) (some (.bare "paid"))] []
    [.mk (.nested (.mk (.nested (.mk (.table (.single (.bare "invoices")) [] none []) []) none) [])
      none) []]
    [] [] [] [] false

/-- A `SELECT` with the totals as a scalar subquery. -/
def ordersWithTotals : List Statement :=
  [.query (.mk []
    (.select (.mk [] [.expr (.compound [.bare "o", .bare "id"]) none,
        .expr (.scalar (.mk [] (.select totals) [] [])) none] []
      [.mk (.table (.single (.bare "orders")) [] (some ⟨.bare "o", []⟩) []) []]
      [] [] [] [] false)) [] [])]

/-- A catalog in which the total is declared twice, once in a table that is named like the mark. -/
def twoTotals : Catalog :=
  .ofRows [⟨"null", "total", ⟨"int", false⟩⟩, ⟨"invoices", "total", ⟨"money", true⟩⟩]

/-- The total is resolved in the scalar subquery, whose only leaf is a table. -/
theorem bareName_resolved_totals :
    (∀ t ∈ ordersWithTotals, t.isQuery) ∧
      ∃ p ∈ (Occurrence.root ordersWithTotals).below,
        p.IsBareItem totals (.bare "total") ∧ p.IsReturned ∧ (Ident.bare "total").value ≠ "*" ∧
        ∃ outcome, p.Gives "report" .default twoTotals ordersWithTotals outcome ∧
          ResolvesName "report" .default twoTotals totals "total" outcome := by
  have queries : ∀ t ∈ ordersWithTotals, t.isQuery := by decide
  -- the way down: the statement, its query, its second item, the subquery, and its only item
  have found : ∃ p, (Occurrence.root ordersWithTotals).at? [0, 0, 0, 0, 1, 0, 0, 0, 0, 0, 0] =
      some p ∧ p.IsBareItem totals (.bare "total") ∧ p.IsReturned :=
    ⟨_, rfl, ⟨rfl, _, _, rfl⟩, by decide⟩
  obtain ⟨p, way, item, returned⟩ := found
  have below := (Occurrence.mem_below_iff _ p).mpr ⟨_, way⟩
  have hn : (Ident.bare "total").value ≠ "*" := by decide
  exact ⟨queries, p, below, item, returned, hn,
    bareName_resolved "report" .default twoTotals queries below item returned hn⟩

end RowShape
