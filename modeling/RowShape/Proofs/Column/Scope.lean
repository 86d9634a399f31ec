import RowShape.Column.Collect
import Mathlib.Data.List.Basic

/-!
# Scopes by the leaves of their `FROM` clauses

A `FROM` clause is a list of trees: relations are joined to each other, and joined relations in
parentheses are joined again.  Read from left to right, the leaves of these trees are named tables
and other relations, and the scope of the clause depends on nothing but its leaves: it lists the
named ones and counts the others.  Of several leaves with one alias the last one keeps it.

## Main definitions

* `Sql.Leaf`, `Sql.fromLeaves`: relations that are not made of others, and those of a clause
* `Scope.Describes`: what a scope tells about the leaves of its clause

## Main results

* `Scope.ofTables_eq`: the scope of a clause is that of its leaves, one after another
* `Scope.tables_ofTables`, `Scope.aliases_ofTables`, `Scope.unnamed_ofTables`: what a scope lists
  and counts
* `Scope.singleTable?_ofTables_iff`: a scope has a single table if its clause has a single leaf
* `Scope.describes_ofTables`: the scope of a clause describes its leaves
-/

namespace RowShape

open Sql

namespace Sql

/-- A relation that is not made of others. -/
inductive Leaf where
  /-- A named table, or a function that returns one. -/
  | table (name : QualifiedName) (aliased : Option TableAlias)
  /-- A relation that is no table of a catalog. -/
  | unnamed

/-- The table of a leaf, by the last part of its name. -/
def Leaf.table? : Leaf → Option String
  | .table name _ => some name.baseName
  | .unnamed => none

/-- The alias of a leaf with its table. -/
def Leaf.alias? : Leaf → Option (String × String)
  | .table name aliased => aliased.map fun a => (a.name.value, name.baseName)
  | .unnamed => none

/-- The leaf is a named table with this alias. -/
def Leaf.IsCalled (qualifier : String) : Leaf → Prop
  | .table _ (some a) => a.name.value = qualifier
  | .table _ none | .unnamed => False

theorem Leaf.ne_of_alias? {leaf : Leaf} {qualifier : String} (h : ¬ leaf.IsCalled qualifier)
    {entry : String × String} (found : leaf.alias? = some entry) : entry.1 ≠ qualifier := by
  rintro rfl
  cases leaf with
  | table name aliased =>
    cases aliased with
    | none => cases found
    | some a =>
      obtain rfl := Option.some.inj found
      exact h rfl
  | unnamed => cases found

mutual

/-- The leaves of a relation. -/
def Relation.leaves : Relation → List Leaf
  | .table name _ aliased _ => [.table name aliased]
  | .nested tables _ => tables.leaves
  | .derived _ _ => [.unnamed]

/-- The leaves of a relation and of those joined to it. -/
def JoinedTable.leaves : JoinedTable → List Leaf
  | .mk relation joins => relation.leaves ++ joinLeaves joins

/-- The leaves of the relations of joins. -/
def joinLeaves : List Join → List Leaf
  | [] => []
  | .mk _ relation _ :: rest => relation.leaves ++ joinLeaves rest

end

/-- The leaves of a `FROM` clause, from left to right. -/
def fromLeaves (tables : List JoinedTable) : List Leaf := tables.flatMap JoinedTable.leaves

end Sql

namespace Scope

/-- Adds a leaf. -/
def addLeaf (scope : Scope) : Leaf → Scope
  | .table name aliased => scope.addTable name.baseName aliased
  | .unnamed => scope.addUnnamed

-- By recursion on the trees, one case for each constructor.
mutual

theorem addRelation_eq (scope : Scope) (r : Relation) :
    scope.addRelation r = r.leaves.foldl addLeaf scope := by
  cases r with
  | table name details aliased hints => rw [addRelation, Relation.leaves]; rfl
  | nested tables aliased => rw [addRelation, Relation.leaves, addJoined_eq]
  | derived pieces aliased => rw [addRelation, Relation.leaves]; rfl

theorem addJoined_eq (scope : Scope) (t : JoinedTable) :
    scope.addJoined t = t.leaves.foldl addLeaf scope := by
  cases t with
  | mk relation joins =>
    rw [addJoined, JoinedTable.leaves, List.foldl_append, addRelation_eq, addJoins_eq]

theorem addJoins_eq (scope : Scope) (joins : List Join) :
    scope.addJoins joins = (joinLeaves joins).foldl addLeaf scope := by
  cases joins with
  | nil => rw [addJoins, joinLeaves]; rfl
  | cons join rest =>
    cases join with
    | mk kind relation condition =>
      rw [addJoins, joinLeaves, List.foldl_append, addRelation_eq, addJoins_eq]

end

/-- **The scope of a clause is that of its leaves**, one after another. -/
theorem ofTables_eq (tables : List JoinedTable) :
    ofTables tables = (fromLeaves tables).foldl addLeaf empty := by
  rw [ofTables, fromLeaves, List.foldl_flatMap]
  exact List.foldl_ext _ _ _ fun scope t _ => addJoined_eq scope t

theorem tables_foldl_addLeaf (leaves : List Leaf) (scope : Scope) :
    (leaves.foldl addLeaf scope).tables = scope.tables ++ leaves.filterMap Leaf.table? := by
  induction leaves generalizing scope with
  | nil => simp
  | cons leaf rest ih =>
    rw [List.foldl_cons, ih]
    cases leaf with
    | table name aliased =>
      have named : (Leaf.table name aliased).table? = some name.baseName := rfl
      rw [List.filterMap_cons_some named]
      exact List.append_assoc _ _ _
    | unnamed =>
      have other : Leaf.unnamed.table? = none := rfl
      rw [List.filterMap_cons_none other]
      rfl

theorem aliases_foldl_addLeaf (leaves : List Leaf) (scope : Scope) :
    (leaves.foldl addLeaf scope).aliases =
      (leaves.filterMap Leaf.alias?).reverse ++ scope.aliases := by
  induction leaves generalizing scope with
  | nil => rfl
  | cons leaf rest ih =>
    rw [List.foldl_cons, ih]
    cases leaf with
    | table name aliased =>
      cases aliased <;> simp [addLeaf, addTable, Leaf.alias?, List.filterMap_cons]
    | unnamed => simp [addLeaf, addUnnamed, Leaf.alias?, List.filterMap_cons]

theorem unnamed_foldl_addLeaf (leaves : List Leaf) (scope : Scope) :
    (leaves.foldl addLeaf scope).unnamed =
      scope.unnamed + leaves.countP (·.table?.isNone) := by
  induction leaves generalizing scope with
  | nil => simp
  | cons leaf rest ih =>
    rw [List.foldl_cons, ih]
    cases leaf with
    | table name aliased => simp [addLeaf, addTable, Leaf.table?]
    | unnamed =>
      simp [addLeaf, addUnnamed, Leaf.table?]
      omega

/-- A scope lists the tables of its leaves from left to right. -/
theorem tables_ofTables (tables : List JoinedTable) :
    (ofTables tables).tables = (fromLeaves tables).filterMap Leaf.table? := by
  rw [ofTables_eq, tables_foldl_addLeaf]
  rfl

/-- A scope lists the aliases of its leaves, the latest first. -/
theorem aliases_ofTables (tables : List JoinedTable) :
    (ofTables tables).aliases = ((fromLeaves tables).filterMap Leaf.alias?).reverse := by
  rw [ofTables_eq, aliases_foldl_addLeaf]
  exact List.append_nil _

/-- A scope counts its other leaves. -/
theorem unnamed_ofTables (tables : List JoinedTable) :
    (ofTables tables).unnamed = (fromLeaves tables).countP (·.table?.isNone) := by
  rw [ofTables_eq, unnamed_foldl_addLeaf]
  exact Nat.zero_add _

theorem singleTable?_eq_some_iff {scope : Scope} {table : String} :
    scope.singleTable? = some table ↔ scope.tables = [table] ∧ scope.unnamed = 0 := by
  obtain ⟨tables, aliases, unnamed⟩ := scope
  rw [singleTable?]
  split <;> simp_all

/-- **A scope has a single table** if its clause has a single leaf and this is a named table. -/
theorem singleTable?_ofTables_iff {tables : List JoinedTable} {table : String} :
    (ofTables tables).singleTable? = some table ↔
      ∃ name aliased, fromLeaves tables = [.table name aliased] ∧ name.baseName = table := by
  rw [singleTable?_eq_some_iff, tables_ofTables, unnamed_ofTables]
  constructor
  · rintro ⟨named, others⟩
    -- all leaves are named, so that there are as many as there are tables
    rcases hl : fromLeaves tables with _ | ⟨first, _ | ⟨second, rest⟩⟩
    · rw [hl] at named
      cases named
    · cases first with
      | table name aliased =>
        rw [hl] at named
        exact ⟨name, aliased, rfl, by simpa [Leaf.table?] using named⟩
      | unnamed =>
        rw [hl] at named
        cases named
    · rw [hl] at named others
      cases first <;> cases second <;> simp [Leaf.table?] at named others
  · rintro ⟨name, aliased, hl, rfl⟩
    rw [hl]
    exact ⟨rfl, rfl⟩

/-! ### Qualifiers -/

/-- Leaves with other aliases do not account for a qualifier. -/
theorem lookup_alias_eq_none {leaves : List Leaf} {qualifier : String}
    (h : ∀ leaf ∈ leaves, ¬ leaf.IsCalled qualifier) :
    (leaves.filterMap Leaf.alias?).reverse.lookup qualifier = none := by
  rw [List.lookup_eq_none_iff]
  intro entry he
  obtain ⟨leaf, hl, found⟩ := List.mem_filterMap.mp (List.mem_reverse.mp he)
  exact bne_iff_ne.mpr (Leaf.ne_of_alias? (h leaf hl) found).symm

/-- **Of several leaves with one alias the last one keeps it.** -/
theorem sourceFor_ofTables_of_last {tables : List JoinedTable} {before after : List Leaf}
    {name : QualifiedName} {a : TableAlias}
    (h : fromLeaves tables = before ++ .table name (some a) :: after)
    (last : ∀ leaf ∈ after, ¬ leaf.IsCalled a.name.value) :
    (ofTables tables).sourceFor a.name.value = name.baseName := by
  have entry : (Leaf.table name (some a)).alias? = some (a.name.value, name.baseName) := rfl
  -- the latest alias is the first that is found
  have found : (ofTables tables).aliases.lookup a.name.value = some name.baseName := by
    rw [aliases_ofTables, h, List.filterMap_append, List.filterMap_cons_some entry,
      List.reverse_append, List.reverse_cons, List.append_assoc, List.lookup_append,
      lookup_alias_eq_none last, Option.none_or, List.singleton_append, List.lookup_cons_self]
  rw [sourceFor, found, Option.getD_some]

/-- A qualifier that is no alias stands for itself. -/
theorem sourceFor_ofTables_of_not_called {tables : List JoinedTable} {qualifier : String}
    (h : ∀ leaf ∈ fromLeaves tables, ¬ leaf.IsCalled qualifier) :
    (ofTables tables).sourceFor qualifier = qualifier := by
  rw [sourceFor, aliases_ofTables, lookup_alias_eq_none h, Option.getD_none]

/-! ### What a scope tells -/

/-- **What a scope tells about the leaves of its clause.** -/
structure Describes (scope : Scope) (leaves : List Leaf) : Prop where
  /-- The named tables stand in it from left to right, each as often as in the clause. -/
  tables : scope.tables = leaves.filterMap Leaf.table?
  /-- All other leaves are counted. -/
  unnamed : scope.unnamed = leaves.countP (·.table?.isNone)
  /-- No leaf is left out, and none is taken twice. -/
  size : scope.tables.length + scope.unnamed = leaves.length
  /-- An alias stands for the last of the named tables that have it. -/
  aliased : ∀ before name a after, leaves = before ++ .table name (some a) :: after →
    (∀ leaf ∈ after, ¬ leaf.IsCalled a.name.value) →
      scope.sourceFor a.name.value = name.baseName
  /-- A qualifier that is the alias of no named table stands for itself. -/
  itself : ∀ qualifier, (∀ leaf ∈ leaves, ¬ leaf.IsCalled qualifier) →
    scope.sourceFor qualifier = qualifier
  /-- A wildcard makes one reference for each of the named tables, in their order. -/
  wildcard : ∀ marks options, (SelectItem.wildcard options).references marks scope =
    (leaves.filterMap Leaf.table?).map (ColumnRef.plain · "*")

/-- **The scope of a clause describes its leaves**, however deep they stand in parentheses. -/
theorem describes_ofTables (tables : List JoinedTable) :
    (ofTables tables).Describes (fromLeaves tables) where
  tables := tables_ofTables tables
  unnamed := unnamed_ofTables tables
  size := by
    rw [tables_ofTables, unnamed_ofTables, List.length_filterMap_eq_countP,
      List.length_eq_countP_add_countP (·.table?.isSome)]
    congr 1
    exact List.countP_congr fun leaf _ => by simp
  aliased _ _ _ _ h last := sourceFor_ofTables_of_last h last
  itself _ h := sourceFor_ofTables_of_not_called h
  wildcard marks options := by rw [SelectItem.references, tables_ofTables]

end Scope

end RowShape
