import RowShape.Column.Collect
import RowShape.Proofs.Column.Scope
import RowShape.Proofs.Sql.Ident

/-!
# Naming the only table

A `SELECT` that reads one table refers to it in four ways: by a column, by a column behind a
qualifier, by `*`, and by `*` behind a qualifier.  The qualifier is the alias of the table, or its
own name if there is no alias.

These ways read names differently.  A column behind a qualifier takes the value of an identifier,
and all others take its written form without the outer quotes.  So they agree on the table if the
identifiers that they read are written plainly, while a table with a lone quote in its name has two
names.

## Main definitions

* `Select.ReadsOnly`: a `SELECT` that reads one named table
* `calledName`: what the table is called inside the `SELECT`
* `IsNaming`: an item that refers to the table

## Main results

* `IsNaming.references_eq`: every way of naming the table gives one reference
* `Select.ReadsOnly.sources_eq_iff`: the ways of naming the table by the names that they read
* `namings_agree_iff`: the ways of naming a table agree on its name
-/

namespace RowShape

open Sql

namespace Sql

/-- A `SELECT` whose only relation is a named table, perhaps in parentheses. -/
def Select.ReadsOnly (s : Select) (table : QualifiedName) (aliased : Option TableAlias) : Prop :=
  fromLeaves s.tables = [.table table aliased]

/-- The identifier that stands for a table inside a `SELECT`: its alias, or its own name. -/
def calledName (own : Ident) (aliased : Option TableAlias) : Ident :=
  (aliased.map TableAlias.name).getD own

/-- **The ways of naming the only table** of a `SELECT`, with the columns they are for.  Qualifiers
may have further parts before them. -/
inductive IsNaming (column qualifier : Ident) : SelectItem → Prop where
  /-- A column. -/
  | bare (renamed : Option Ident) : IsNaming column qualifier (.expr (.ident column) renamed)
  /-- A column behind a qualifier. -/
  | qualified (outer : List Ident) (renamed : Option Ident) :
      IsNaming column qualifier (.expr (.compound (outer ++ [qualifier, column])) renamed)
  /-- All columns. -/
  | wildcard (options : List Piece) : IsNaming column qualifier (.wildcard options)
  /-- All columns behind a qualifier. -/
  | qualifiedWildcard (outer : List Ident) (options : List Piece) :
      IsNaming column qualifier (.qualifiedWildcard ⟨outer ++ [qualifier]⟩ options)

end Sql

section ReadsOnly

variable {marks : SourceMarks} {s : Select} {table : QualifiedName} {aliased : Option TableAlias}

theorem Sql.Select.ReadsOnly.tables_eq (h : s.ReadsOnly table aliased) :
    (Scope.ofTables s.tables).tables = [table.baseName] := by
  rw [Scope.tables_ofTables, h]
  rfl

theorem Sql.Select.ReadsOnly.singleTable?_eq (h : s.ReadsOnly table aliased) :
    (Scope.ofTables s.tables).singleTable? = some table.baseName :=
  Scope.singleTable?_ofTables_iff.mpr ⟨table, aliased, h, rfl⟩

/-- The alias stands for the table, and every other qualifier for itself. -/
theorem Sql.Select.ReadsOnly.sourceFor_eq (h : s.ReadsOnly table aliased) (qualifier : String) :
    (Scope.ofTables s.tables).sourceFor qualifier =
      if aliased.map (·.name.value) = some qualifier then table.baseName else qualifier := by
  rw [Scope.sourceFor, Scope.aliases_ofTables, h]
  cases aliased with
  | none => rfl
  | some a =>
    by_cases same : a.name.value = qualifier
    · simp [Leaf.alias?, same]
    · simp [Leaf.alias?, same, Ne.symm same]

/-- The source that an item names the table by. -/
def namedSource (scope : Scope) (table : QualifiedName) (qualifier : Ident) : SelectItem → String
  | .expr (.compound _) _ => scope.sourceFor qualifier.value
  | .qualifiedWildcard _ _ => scope.sourceFor (stripQuotes qualifier.render)
  | _ => table.baseName

/-- Every way of naming the table gives one reference. -/
theorem Sql.IsNaming.references_eq {column qualifier : Ident} {item : SelectItem}
    (naming : IsNaming column qualifier item) (h : s.ReadsOnly table aliased)
    (hc : ¬ marks.isVariable column.value) :
    ∃ name, item.references marks (Scope.ofTables s.tables) =
      [.plain (namedSource (Scope.ofTables s.tables) table qualifier item) name] := by
  cases naming with
  | bare renamed =>
    refine ⟨column.value, ?_⟩
    have source : marks.bareSource (Scope.ofTables s.tables) column.value = table.baseName := by
      rw [SourceMarks.bareSource, if_neg hc, h.singleTable?_eq, Option.getD_some]
    rw [SelectItem.references, Expr.references, source]
    rfl
  | qualified outer renamed =>
    refine ⟨column.value, ?_⟩
    rw [SelectItem.references, Expr.references, compoundReference?, List.reverse_append]
    rfl
  | wildcard options =>
    refine ⟨"*", ?_⟩
    rw [SelectItem.references, h.tables_eq]
    rfl
  | qualifiedWildcard outer options =>
    refine ⟨"*", ?_⟩
    rw [SelectItem.references, QualifiedName.baseName_concat]
    rfl

theorem Sql.IsNaming.source_eq_iff {column qualifier : Ident} {item : SelectItem}
    (naming : IsNaming column qualifier item) (h : s.ReadsOnly table aliased)
    (hc : ¬ marks.isVariable column.value) {source : String} :
    (∃ r, item.references marks (Scope.ofTables s.tables) = [r] ∧ r.source = source) ↔
      namedSource (Scope.ofTables s.tables) table qualifier item = source := by
  obtain ⟨name, references⟩ := naming.references_eq h hc
  rw [references]
  constructor
  · rintro ⟨r, same, rfl⟩
    rw [← (List.cons.inj same).1]
    rfl
  · exact fun same => ⟨_, rfl, same⟩

/-- All ways of naming the table have one source if the three names that they read have it. -/
theorem Sql.Select.ReadsOnly.sources_eq_iff {column : Ident} (h : s.ReadsOnly table aliased)
    (hc : ¬ marks.isVariable column.value) (qualifier : Ident) (source : String) :
    (∀ item, IsNaming column qualifier item →
        ∃ r, item.references marks (Scope.ofTables s.tables) = [r] ∧ r.source = source) ↔
      table.baseName = source ∧ (Scope.ofTables s.tables).sourceFor qualifier.value = source ∧
        (Scope.ofTables s.tables).sourceFor (stripQuotes qualifier.render) = source := by
  constructor
  · intro agree
    have sources (item : SelectItem) (naming : IsNaming column qualifier item) :=
      (naming.source_eq_iff h hc).mp (agree item naming)
    exact ⟨sources _ (.bare none), sources _ (.qualified [] none),
      sources _ (.qualifiedWildcard [] [])⟩
  · rintro ⟨read, byValue, byWriting⟩ item naming
    refine (naming.source_eq_iff h hc).mpr ?_
    cases naming with
    | bare => exact read
    | qualified => exact byValue
    | wildcard => exact read
    | qualifiedWildcard => exact byWriting

/-- By its value, the name of the table stands for the table. -/
theorem Sql.Select.ReadsOnly.sourceFor_calledName {own : Ident} (h : s.ReadsOnly table aliased)
    (read : table.baseName = own.value) :
    (Scope.ofTables s.tables).sourceFor (calledName own aliased).value = own.value := by
  rw [h.sourceFor_eq, read]
  cases aliased with
  | none => rfl
  | some a => exact if_pos rfl

end ReadsOnly

/-- **The ways of naming a table agree on its name**, whichever column they are for, exactly if the
name of the table is written plainly, and so is the qualifier, unless its written form without the
outer quotes happens to be the name of the table. -/
theorem namings_agree_iff {marks : SourceMarks} {s : Select} {outer : List Ident} {own : Ident}
    {aliased : Option TableAlias} (h : s.ReadsOnly ⟨outer ++ [own]⟩ aliased)
    {column qualifier : Ident} (hq : qualifier.value = (calledName own aliased).value)
    (hc : ¬ marks.isVariable column.value) :
    (∀ item, IsNaming column qualifier item →
        ∃ r, item.references marks (Scope.ofTables s.tables) = [r] ∧ r.source = own.value) ↔
      own.IsPlain ∧ (qualifier.IsPlain ∨ stripQuotes qualifier.render = own.value) := by
  rw [h.sources_eq_iff hc, ← own.stripQuotes_render_eq_value_iff,
    ← qualifier.stripQuotes_render_eq_value_iff, ← QualifiedName.baseName_concat outer own]
  refine and_congr_right fun read => ?_
  have byValue : (Scope.ofTables s.tables).sourceFor qualifier.value = own.value := by
    rw [hq]
    exact h.sourceFor_calledName read
  rw [and_iff_right byValue]
  constructor
  · intro byWriting
    rw [h.sourceFor_eq] at byWriting
    by_cases found : aliased.map (·.name.value) = some (stripQuotes qualifier.render)
    · -- what stands before the period is the alias, and the qualifier has its value
      cases aliased with
      | none => cases found
      | some a => exact .inl ((Option.some.inj found).symm.trans hq.symm)
    · rw [if_neg found] at byWriting
      exact .inr byWriting
  · rintro (plain | same)
    · rw [plain, byValue]
    · rw [h.sourceFor_eq, read, same, ite_self]

/-- A table of a schema, with a blank in its name and an alias. -/
def readsOrderLines : Select :=
  .mk [] [.wildcard []] []
    [.mk (.table ⟨[.bare "sales", ⟨"order lines", some '['⟩]⟩ []
      (some ⟨⟨"ol", some '"'⟩, []⟩) []) []] [] [] [] [] false

/-- Every way of naming the order lines by their alias agrees on them. -/
theorem namings_agree_orderLines :
    readsOrderLines.ReadsOnly ⟨[.bare "sales"] ++ [⟨"order lines", some '['⟩]⟩
        (some ⟨⟨"ol", some '"'⟩, []⟩) ∧
      (Ident.bare "ol").value =
        (calledName ⟨"order lines", some '['⟩ (some ⟨⟨"ol", some '"'⟩, []⟩)).value ∧
      ¬ (SourceMarks.mk "null" "@").isVariable "id" ∧
      ∀ item, IsNaming (.bare "id") (.bare "ol") item →
        ∃ r, item.references ⟨"null", "@"⟩ (Scope.ofTables readsOrderLines.tables) = [r] ∧
          r.source = "order lines" := by
  have reads : readsOrderLines.ReadsOnly ⟨[.bare "sales"] ++ [⟨"order lines", some '['⟩]⟩
      (some ⟨⟨"ol", some '"'⟩, []⟩) := rfl
  have called : (Ident.bare "ol").value =
      (calledName ⟨"order lines", some '['⟩ (some ⟨⟨"ol", some '"'⟩, []⟩)).value := rfl
  have hc : ¬ (SourceMarks.mk "null" "@").isVariable "id" := by decide
  refine ⟨reads, called, hc, (namings_agree_iff reads called hc).mpr ⟨.inl rfl, .inl ?_⟩⟩
  rw [← Ident.stripQuotes_render_eq_value_iff]
  decide

/-- A table with a quote in its name is the source of one of four items that name it.  The others
keep the quote doubled. -/
theorem sources_tableWithQuote :
    sqlColumns .msSql ⟨"null", "@"⟩
        "SELECT id, \"c\"\"d\".id, *, \"c\"\"d\".* FROM dbo.\"c\"\"d\"" =
      .ok [.plain "c\"\"d" "id", .plain "c\"d" "id", .plain "c\"\"d" "*",
        .plain "c\"\"d" "*"] := by
  decide +kernel

end RowShape
