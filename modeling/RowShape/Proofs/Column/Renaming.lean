import RowShape.Column.Collect
import RowShape.Proofs.Column.Scope
import RowShape.Proofs.OrderedMap
import RowShape.Proofs.Sql.Ident

/-!
# Renaming aliases

The aliases of a `SELECT` are names that its author makes up, and nothing that is collected should
depend on them.  They are renamed where a table gets its alias, however deep in the `FROM` clause,
and in the projection where a qualifier is one of them: directly before a column, and directly
before `.*`.

Before a column, the value of an identifier is looked up.  Before `.*` it is the written form
without the outer quotes, and this may be no alias although the value is one, or the other way
round.  The references are the same before and after a renaming exactly if this never happens.  It
does not happen to words, and not to names in brackets, double quotes or backticks.

## Main definitions

* `Renaming`: new names for aliases
* `Select.renamed`: a `SELECT` with its aliases renamed
* `Renaming.IsFreshFor`: the new names can be told apart, from each other and from other qualifiers
* `IsReadByValue`: a name before `.*` whose qualifier is looked up by its value

## Main results

* `Scope.ofTables_renamed`: the scope of a renamed clause
* `Expr.references_renamed`: qualifiers of columns can be renamed
* `SelectItem.references_renamed_iff`: qualifiers before `.*` can be renamed if they are looked up
  by their values
* `renamedReferences_exact`: when aliases do not matter
-/

namespace RowShape

open Sql

/-! ### Renaming -/

/-- New names for aliases. -/
structure Renaming where
  /-- The aliases that are renamed. -/
  names : List String
  /-- The new name of an alias. -/
  toName : String → String
  /-- What becomes of phrases that are only known by their wording, such as the argument of
  `COUNT(o.*)`. -/
  wording : String → String

namespace Renaming

/-- The new name of an alias; other names are kept. -/
def name (f : Renaming) (s : String) : String := if s ∈ f.names then f.toName s else s

/-- An identifier whose value is an alias is replaced by the new name, without quotes. -/
def ident (f : Renaming) (i : Ident) : Ident :=
  if i.value ∈ f.names then .bare (f.toName i.value) else i

/-- Renames the part directly before a column. -/
def compound (f : Renaming) (parts : List Ident) : List Ident :=
  match parts.reverse with
  | column :: qualifier :: outer => (column :: f.ident qualifier :: outer).reverse
  | _ => parts

/-- Renames the part directly before `.*`. -/
def starName (f : Renaming) (name : QualifiedName) : QualifiedName :=
  match name.parts.reverse with
  | qualifier :: outer => ⟨(f.ident qualifier :: outer).reverse⟩
  | [] => name

/-- Renames the alias of a table. -/
def tableAlias (f : Renaming) (a : TableAlias) : TableAlias := { a with name := f.ident a.name }

/-- Renames the aliases of a scope. -/
def scope (f : Renaming) (scope : Scope) : Scope :=
  { scope with aliases := scope.aliases.map fun a => (f.name a.1, a.2) }

/-- No alias gets this name. -/
def Spares (f : Renaming) (q : String) : Prop := ∀ a ∈ f.names, f.toName a ≠ q

instance (f : Renaming) (q : String) : Decidable (f.Spares q) :=
  inferInstanceAs (Decidable (∀ a ∈ f.names, f.toName a ≠ q))

/-- Exactly these aliases are renamed, to different names, and there are no quotes in the old names
or in the new ones. -/
structure Covers (f : Renaming) (aliases : List String) : Prop where
  mem_iff : ∀ a, a ∈ f.names ↔ a ∈ aliases
  unquoted : ∀ a ∈ aliases, HasNoQuotes a
  unquoted_new : ∀ a ∈ aliases, HasNoQuotes (f.toName a)
  injective : ∀ a ∈ aliases, ∀ b ∈ aliases, f.toName a = f.toName b → a = b

end Renaming

namespace Sql

mutual

/-- Renames the aliases of named tables. -/
def Relation.renamed (f : Renaming) : Relation → Relation
  | .table name details aliased hints => .table name details (aliased.map f.tableAlias) hints
  | .nested tables aliased => .nested (tables.renamed f) aliased
  | .derived pieces aliased => .derived pieces aliased

/-- Renames the aliases of a relation and of those joined to it. -/
def JoinedTable.renamed (f : Renaming) : JoinedTable → JoinedTable
  | .mk relation joins => .mk (relation.renamed f) (joinsRenamed f joins)

/-- Renames the aliases in joins. -/
def joinsRenamed (f : Renaming) : List Join → List Join
  | [] => []
  | .mk kind relation condition :: rest =>
    .mk kind (relation.renamed f) condition :: joinsRenamed f rest

end

mutual

/-- Renames the qualifiers of columns.  Nested queries have scopes of their own, and stay. -/
def Expr.renamed (f : Renaming) : Expr → Expr
  | .ident name => .ident name
  | .compound parts => .compound (f.compound parts)
  | .literal value => .literal value
  | .binary left operator right => .binary (left.renamed f) operator (right.renamed f)
  | .scalar query => .scalar query
  | .call name arguments options withinGroup =>
    .call name (piecesRenamed f arguments) (piecesRenamed f options) (piecesRenamed f withinGroup)
  | .trim subject side none characters =>
    .trim (subject.renamed f) side none (piecesRenamed f characters)
  | .trim subject side (some what) characters =>
    .trim (subject.renamed f) side (some (what.renamed f)) (piecesRenamed f characters)
  | .optionalSide name => .optionalSide (name.renamed f)
  | .phrase pieces => .phrase (piecesRenamed f pieces)

/-- Renames the qualifiers in a piece. -/
def Piece.renamed (f : Renaming) : Piece → Piece
  | .text s => .text (f.wording s)
  | .expr e => .expr (e.renamed f)
  | .query q => .query q

/-- Renames the qualifiers in a phrase. -/
def piecesRenamed (f : Renaming) : List Piece → List Piece
  | [] => []
  | p :: rest => p.renamed f :: piecesRenamed f rest

end

/-- Renames the qualifiers in an item. -/
def SelectItem.renamed (f : Renaming) : SelectItem → SelectItem
  | .expr e aliased => .expr (e.renamed f) aliased
  | .wildcard options => .wildcard options
  | .qualifiedWildcard name options => .qualifiedWildcard (f.starName name) options
  | .exprWildcard e options => .exprWildcard (e.renamed f) options

/-- **A `SELECT` with its aliases renamed**, in the `FROM` clause and in the projection. -/
def Select.renamed (f : Renaming) : Select → Select
  | .mk quantifier projection into tables filter groupBy having windows fromLeads =>
    .mk quantifier (projection.map (·.renamed f)) into (tables.map (·.renamed f)) filter groupBy
      having windows fromLeads

/-! ### Aliases and qualifiers -/

/-- The aliases of the named tables of a `SELECT`. -/
def Select.aliases (s : Select) : List String :=
  ((fromLeaves s.tables).filterMap Leaf.alias?).map Prod.fst

/-- The part directly before a column. -/
def qualifier? (parts : List Ident) : Option String :=
  match parts.reverse with
  | _ :: qualifier :: _ => some qualifier.value
  | _ => none

mutual

/-- The qualifiers of the columns in an expression, except those in nested queries. -/
def Expr.qualifiers : Expr → List String
  | .ident _ => []
  | .compound parts => (qualifier? parts).toList
  | .literal _ => []
  | .binary left _ right => left.qualifiers ++ right.qualifiers
  | .scalar _ => []
  | .call _ arguments options withinGroup =>
    pieceQualifiers arguments ++ pieceQualifiers options ++ pieceQualifiers withinGroup
  | .trim subject _ none characters => subject.qualifiers ++ pieceQualifiers characters
  | .trim subject _ (some what) characters =>
    subject.qualifiers ++ what.qualifiers ++ pieceQualifiers characters
  | .optionalSide name => name.qualifiers
  | .phrase pieces => pieceQualifiers pieces

/-- The qualifiers of the columns in a piece. -/
def Piece.qualifiers : Piece → List String
  | .text _ => []
  | .expr e => e.qualifiers
  | .query _ => []

/-- The qualifiers of the columns in a phrase. -/
def pieceQualifiers : List Piece → List String
  | [] => []
  | p :: rest => p.qualifiers ++ pieceQualifiers rest

end

/-- The name before `.*`. -/
def SelectItem.starName? : SelectItem → Option QualifiedName
  | .qualifiedWildcard name _ => some name
  | _ => none

/-- The qualifiers in an item, as they are read. -/
def SelectItem.qualifiers : SelectItem → List String
  | .expr e _ => e.qualifiers
  | .wildcard _ => []
  | .qualifiedWildcard name _ => [name.baseName]
  | .exprWildcard e _ => e.qualifiers

/-- The names before `.*` in a projection. -/
def Select.starNames (s : Select) : List QualifiedName :=
  s.projection.filterMap SelectItem.starName?

/-- The qualifiers in a projection. -/
def Select.qualifiers (s : Select) : List String := s.projection.flatMap SelectItem.qualifiers

end Sql

/-- The renaming is one of all aliases of a `SELECT`, and the new names are no qualifiers of it. -/
structure Renaming.IsFreshFor (f : Renaming) (s : Select) : Prop where
  covers : f.Covers s.aliases
  spares : ∀ q ∈ s.qualifiers, f.Spares q

/-- The last part is a word, or stands in quotes that are taken away. -/
def Sql.QualifiedName.IsDelimited (name : QualifiedName) : Prop :=
  ∃ i, name.parts.getLast? = some i ∧ i.IsDelimited

/-- A qualifier before `.*` is looked up by its value: it stands for the table whose alias its value
is, and if its value is no alias, for itself. -/
def IsReadByValue (scope : Scope) (name : QualifiedName) : Prop :=
  scope.sourceFor name.baseName =
    (name.parts.getLast?.bind fun i => scope.aliases.lookup i.value).getD name.baseName

/-! ### The renamed scope -/

namespace Sql

/-- Renames the alias of a leaf. -/
def Leaf.renamed (f : Renaming) : Leaf → Leaf
  | .table name aliased => .table name (aliased.map f.tableAlias)
  | .unnamed => .unnamed

-- By recursion on the trees, one case for each constructor.
mutual

theorem Relation.leaves_renamed (f : Renaming) :
    (r : Relation) → (r.renamed f).leaves = r.leaves.map (Leaf.renamed f)
  | .table name details aliased hints => rfl
  | .nested tables aliased => by
    rw [Relation.renamed, Relation.leaves, JoinedTable.leaves_renamed, Relation.leaves]
  | .derived pieces aliased => rfl

theorem JoinedTable.leaves_renamed (f : Renaming) :
    (t : JoinedTable) → (t.renamed f).leaves = t.leaves.map (Leaf.renamed f)
  | .mk relation joins => by
    rw [JoinedTable.renamed, JoinedTable.leaves, Relation.leaves_renamed, joinLeaves_renamed,
      JoinedTable.leaves, List.map_append]

theorem joinLeaves_renamed (f : Renaming) :
    (joins : List Join) → joinLeaves (joinsRenamed f joins) =
      (joinLeaves joins).map (Leaf.renamed f)
  | [] => rfl
  | .mk kind relation condition :: rest => by
    rw [joinsRenamed, joinLeaves, Relation.leaves_renamed, joinLeaves_renamed, joinLeaves,
      List.map_append]

end

theorem fromLeaves_renamed (f : Renaming) (tables : List JoinedTable) :
    fromLeaves (tables.map (·.renamed f)) = (fromLeaves tables).map (Leaf.renamed f) := by
  rw [fromLeaves, fromLeaves, List.flatMap_map, List.map_flatMap]
  exact List.flatMap_congr fun t _ => t.leaves_renamed f

theorem Leaf.table?_renamed (f : Renaming) (leaf : Leaf) :
    (leaf.renamed f).table? = leaf.table? := by
  cases leaf <;> rfl

end Sql

namespace Renaming

variable {f : Renaming}

theorem value_ident (f : Renaming) (i : Ident) : (f.ident i).value = f.name i.value := by
  by_cases h : i.value ∈ f.names <;> simp [ident, name, h, Ident.bare]

theorem name_of_mem {a : String} (h : a ∈ f.names) : f.name a = f.toName a := if_pos h

theorem name_of_notMem {a : String} (h : a ∉ f.names) : f.name a = a := if_neg h

theorem alias?_renamed (f : Renaming) (leaf : Leaf) :
    (leaf.renamed f).alias? = leaf.alias?.map fun a => (f.name a.1, a.2) := by
  cases leaf with
  | unnamed => rfl
  | table table aliased =>
    cases aliased with
    | none => rfl
    | some a => exact congrArg (fun v => some (v, table.baseName)) (f.value_ident a.name)

end Renaming

/-- **The scope of a renamed clause** has the same tables with other aliases. -/
theorem Scope.ofTables_renamed (f : Renaming) (tables : List JoinedTable) :
    ofTables (tables.map (·.renamed f)) = f.scope (ofTables tables) := by
  have named : (ofTables (tables.map (·.renamed f))).tables = (ofTables tables).tables := by
    rw [tables_ofTables, tables_ofTables, fromLeaves_renamed, List.filterMap_map]
    exact List.filterMap_congr fun leaf _ => leaf.table?_renamed f
  have others : (ofTables (tables.map (·.renamed f))).unnamed = (ofTables tables).unnamed := by
    rw [unnamed_ofTables, unnamed_ofTables, fromLeaves_renamed, List.countP_map]
    exact List.countP_congr fun leaf _ => by rw [Function.comp_apply, leaf.table?_renamed f]
  have renamed : (ofTables (tables.map (·.renamed f))).aliases =
      (ofTables tables).aliases.map fun a => (f.name a.1, a.2) := by
    rw [aliases_ofTables, aliases_ofTables, fromLeaves_renamed, List.filterMap_map,
      List.map_reverse, List.map_filterMap]
    exact congrArg List.reverse (List.filterMap_congr fun leaf _ => f.alias?_renamed leaf)
  rw [Renaming.scope, ← named, ← others, ← renamed]

/-! ### Qualifiers in the renamed scope -/

namespace Renaming

section Covers

variable {f : Renaming} {scope : Scope}

theorem Covers.lookup_name (h : f.Covers (scope.aliases.map Prod.fst)) {q : String}
    (hq : q ∈ f.names ∨ f.Spares q) :
    (f.scope scope).aliases.lookup (f.name q) = scope.aliases.lookup q := by
  refine lookup_map_keys f.name fun e he same => ?_
  have old : e.1 ∈ scope.aliases.map Prod.fst := List.mem_map_of_mem he
  have renamed : f.name e.1 = f.toName e.1 := name_of_mem ((h.mem_iff _).mpr old)
  by_cases hm : q ∈ f.names
  · rw [renamed, name_of_mem hm] at same
    exact h.injective _ old _ ((h.mem_iff q).mp hm) same
  · -- no alias gets the name of a qualifier that is none
    rw [renamed, name_of_notMem hm] at same
    exact absurd same (hq.resolve_left hm _ ((h.mem_iff _).mpr old))

theorem Covers.lookup_eq_none (h : f.Covers (scope.aliases.map Prod.fst)) {q : String}
    (hq : q ∉ f.names) : scope.aliases.lookup q = none :=
  lookup_eq_none_of_not_mem (mt (h.mem_iff q).mpr hq)

theorem Covers.exists_lookup (h : f.Covers (scope.aliases.map Prod.fst)) {q : String}
    (hq : q ∈ f.names) : ∃ table, scope.aliases.lookup q = some table := by
  cases found : scope.aliases.lookup q with
  | some table => exact ⟨table, rfl⟩
  | none =>
    obtain ⟨e, he, rfl⟩ := List.mem_map.mp ((h.mem_iff q).mp hq)
    exact absurd rfl (bne_iff_ne.mp (List.lookup_eq_none_iff.mp found e he))

/-- A qualifier stands for the same table before and after the renaming. -/
theorem Covers.sourceFor_name (h : f.Covers (scope.aliases.map Prod.fst)) {q : String}
    (hq : q ∈ f.names ∨ f.Spares q) :
    (f.scope scope).sourceFor (f.name q) = scope.sourceFor q := by
  rw [Scope.sourceFor, Scope.sourceFor, h.lookup_name hq]
  by_cases hm : q ∈ f.names
  · obtain ⟨table, found⟩ := h.exists_lookup hm
    rw [found, Option.getD_some, Option.getD_some]
  · rw [name_of_notMem hm]

/-- After the renaming, a name that no alias gets stands for itself. -/
theorem Covers.sourceFor_of_spares (h : f.Covers (scope.aliases.map Prod.fst)) {q : String}
    (hq : f.Spares q) : (f.scope scope).sourceFor q = q := by
  have absent : q ∉ (f.scope scope).aliases.map Prod.fst := by
    intro hm
    obtain ⟨renamed, hr, rfl⟩ := List.mem_map.mp hm
    obtain ⟨e, he, rfl⟩ := List.mem_map.mp hr
    have old : e.1 ∈ f.names := (h.mem_iff _).mpr (List.mem_map_of_mem he)
    exact hq e.1 old (name_of_mem old).symm
  rw [Scope.sourceFor, lookup_eq_none_of_not_mem absent, Option.getD_none]

/-- **After the renaming, a qualifier before `.*` is looked up by its value.** -/
theorem Covers.sourceFor_starName (h : f.Covers (scope.aliases.map Prod.fst)) {name : QualifiedName}
    (hn : f.Spares name.baseName) :
    (f.scope scope).sourceFor (f.starName name).baseName =
      (name.parts.getLast?.bind fun i => scope.aliases.lookup i.value).getD name.baseName := by
  obtain ⟨parts⟩ := name
  obtain rfl | ⟨outer, i, rfl⟩ := List.eq_nil_or_concat' parts
  · exact h.sourceFor_of_spares hn
  have starName : f.starName ⟨outer ++ [i]⟩ = ⟨outer ++ [f.ident i]⟩ := by
    simp [Renaming.starName]
  rw [starName, List.getLast?_concat, Option.bind_some]
  by_cases hm : i.value ∈ f.names
  · have unquoted := h.unquoted_new _ ((h.mem_iff _).mp hm)
    have new : QualifiedName.baseName ⟨outer ++ [f.ident i]⟩ = f.name i.value := by
      rw [QualifiedName.baseName_concat, ident, if_pos hm, name_of_mem hm, Ident.render_bare,
        stripQuotes_of_not_isEnclosed unquoted.not_isEnclosed]
    obtain ⟨table, found⟩ := h.exists_lookup hm
    rw [new, h.sourceFor_name (.inl hm), Scope.sourceFor, found, Option.getD_some,
      Option.getD_some]
  · rw [ident, if_neg hm, h.sourceFor_of_spares hn, h.lookup_eq_none hm, Option.getD_none]

/-- A qualifier that is a word, or stands in quotes that are taken away, is looked up by its
value. -/
theorem Covers.isReadByValue (h : f.Covers (scope.aliases.map Prod.fst)) {name : QualifiedName}
    (delimited : name.IsDelimited) : IsReadByValue scope name := by
  obtain ⟨parts⟩ := name
  obtain ⟨i, last, hi⟩ := delimited
  obtain ⟨outer, rfl⟩ := List.getLast?_eq_some_iff.mp last
  have same {a : String} (ha : a ∈ f.names) : stripQuotes i.render = a ↔ i.value = a :=
    Ident.stripQuotes_render_eq_iff hi (h.unquoted a ((h.mem_iff a).mp ha))
  rw [IsReadByValue, List.getLast?_concat, Option.bind_some, QualifiedName.baseName_concat]
  by_cases hm : i.value ∈ f.names
  · rw [(same hm).mpr rfl]
    rfl
  · have read : stripQuotes i.render ∉ f.names := fun hr => hm ((same hr).mp rfl ▸ hr)
    rw [Scope.sourceFor, h.lookup_eq_none hm, h.lookup_eq_none read]

end Covers

end Renaming

/-! ### References in the renamed scope -/

namespace Sql

section References

variable {f : Renaming} {scope : Scope} (marks : SourceMarks)

theorem compoundReference?_renamed (h : f.Covers (scope.aliases.map Prod.fst))
    (aggregate : Option String) {parts : List Ident} (hq : ∀ q ∈ qualifier? parts, f.Spares q) :
    compoundReference? (f.scope scope) aggregate (f.compound parts) =
      compoundReference? scope aggregate parts := by
  rw [Renaming.compound]
  rcases order : parts.reverse with _ | ⟨column, _ | ⟨qualifier, outer⟩⟩
  · simp only [compoundReference?, order]
  · simp only [compoundReference?, order]
  · have spared : f.Spares qualifier.value := hq _ (by simp [qualifier?, order])
    simp only [compoundReference?, order, List.reverse_reverse]
    rw [f.value_ident, h.sourceFor_name (.inr spared)]

theorem Expr.aggregate?_renamed (f : Renaming) (e : Expr) :
    (e.renamed f).aggregate? = e.aggregate? := by
  cases e with
  | trim subject side what characters => cases what <;> rfl
  | _ => rfl

-- By recursion on the expression, one case for each constructor.
mutual

/-- **Qualifiers of columns can be renamed** in every expression. -/
theorem Expr.references_renamed (h : f.Covers (scope.aliases.map Prod.fst))
    (aggregate : Option String) : (e : Expr) → (∀ q ∈ e.qualifiers, f.Spares q) →
      (e.renamed f).references marks (f.scope scope) aggregate =
        e.references marks scope aggregate
  | .ident name, _ => rfl
  | .compound parts, hq => by
    rw [Expr.renamed, Expr.references, Expr.references,
      compoundReference?_renamed h aggregate (by simpa [Expr.qualifiers] using hq)]
  | .literal value, _ => rfl
  | .binary left operator right, hq => by
    obtain ⟨hl, hr⟩ := List.forall_mem_append.mp hq
    rw [Expr.renamed, Expr.references, Expr.references, left.references_renamed h aggregate hl,
      right.references_renamed h aggregate hr]
  | .scalar query, _ => rfl
  | .call name arguments options withinGroup, hq => by
    obtain ⟨hq, hw⟩ := List.forall_mem_append.mp hq
    obtain ⟨ha, ho⟩ := List.forall_mem_append.mp hq
    rw [Expr.renamed, Expr.references, Expr.references,
      pieceReferences_renamed h aggregate arguments ha,
      pieceReferences_renamed h aggregate options ho,
      pieceReferences_renamed h aggregate withinGroup hw]
  | .trim subject side none characters, hq => by
    obtain ⟨hs, hc⟩ := List.forall_mem_append.mp hq
    rw [Expr.renamed, Expr.references, Expr.references, subject.references_renamed h aggregate hs,
      pieceReferences_renamed h aggregate characters hc]
  | .trim subject side (some what) characters, hq => by
    obtain ⟨hq, hc⟩ := List.forall_mem_append.mp hq
    obtain ⟨hs, hw⟩ := List.forall_mem_append.mp hq
    rw [Expr.renamed, Expr.references, Expr.references, subject.references_renamed h aggregate hs,
      what.references_renamed h aggregate hw, pieceReferences_renamed h aggregate characters hc]
  | .optionalSide name, hq => name.references_renamed h aggregate hq
  | .phrase pieces, hq => pieceReferences_renamed h aggregate pieces hq

theorem Piece.references_renamed (h : f.Covers (scope.aliases.map Prod.fst))
    (aggregate : Option String) : (p : Piece) → (∀ q ∈ p.qualifiers, f.Spares q) →
      (p.renamed f).references marks (f.scope scope) aggregate =
        p.references marks scope aggregate
  | .text _, _ => rfl
  | .expr e, hq => e.references_renamed h aggregate hq
  | .query _, _ => rfl

theorem pieceReferences_renamed (h : f.Covers (scope.aliases.map Prod.fst))
    (aggregate : Option String) : (pieces : List Piece) →
      (∀ q ∈ pieceQualifiers pieces, f.Spares q) →
      pieceReferences marks (f.scope scope) aggregate (piecesRenamed f pieces) =
        pieceReferences marks scope aggregate pieces
  | [], _ => rfl
  | p :: rest, hq => by
    obtain ⟨hp, hr⟩ := List.forall_mem_append.mp hq
    rw [piecesRenamed, pieceReferences, p.references_renamed h aggregate hp,
      pieceReferences_renamed h aggregate rest hr, pieceReferences]

end

/-- **Qualifiers before `.*` can be renamed** if they are looked up by their values. -/
theorem SelectItem.references_renamed_iff (h : f.Covers (scope.aliases.map Prod.fst))
    (item : SelectItem) (hq : ∀ q ∈ item.qualifiers, f.Spares q) :
    (item.renamed f).references marks (f.scope scope) = item.references marks scope ↔
      ∀ name ∈ item.starName?, IsReadByValue scope name := by
  cases item with
  | expr e aliased =>
    refine iff_of_true ?_ (by simp [starName?])
    rw [SelectItem.renamed, SelectItem.references, e.aggregate?_renamed,
      e.references_renamed marks h _ hq, SelectItem.references]
  | wildcard options => exact iff_of_true rfl (by simp [starName?])
  | qualifiedWildcard name options =>
    have after := h.sourceFor_starName (hq name.baseName (by simp [qualifiers]))
    rw [SelectItem.renamed, SelectItem.references, SelectItem.references, after]
    simp [starName?, IsReadByValue, ColumnRef.plain, eq_comm]
  | exprWildcard e options => exact iff_of_true rfl (by simp [starName?])

theorem SelectItem.length_references_renamed (h : f.Covers (scope.aliases.map Prod.fst))
    (item : SelectItem) (hq : ∀ q ∈ item.qualifiers, f.Spares q) :
    ((item.renamed f).references marks (f.scope scope)).length =
      (item.references marks scope).length := by
  cases item with
  | qualifiedWildcard name options => rfl
  | _ =>
    refine congrArg List.length ?_
    exact (SelectItem.references_renamed_iff marks h _ hq).mpr (by simp [starName?])

theorem itemReferences_renamed_iff (h : f.Covers (scope.aliases.map Prod.fst))
    {items : List SelectItem} (hq : ∀ item ∈ items, ∀ q ∈ item.qualifiers, f.Spares q) :
    itemReferences marks (f.scope scope) (items.map (·.renamed f)) =
        itemReferences marks scope items ↔
      ∀ item ∈ items, ∀ name ∈ item.starName?, IsReadByValue scope name := by
  induction items with
  | nil => exact iff_of_true rfl (by simp)
  | cons item rest ih =>
    obtain ⟨hi, hr⟩ := List.forall_mem_cons.mp hq
    rw [List.map_cons, itemReferences, itemReferences, List.forall_mem_cons,
      ← item.references_renamed_iff marks h hi, ← ih hr]
    constructor
    · -- an item gives as many references as before, so that they can be told from those behind it
      exact fun same => List.append_inj same (item.length_references_renamed marks h hi)
    · rintro ⟨first, others⟩
      rw [first, others]

end References

end Sql

/-- The aliases of a `SELECT` are those of its scope. -/
theorem Renaming.IsFreshFor.covers_scope {f : Renaming} {s : Select} (h : f.IsFreshFor s) :
    f.Covers ((Scope.ofTables s.tables).aliases.map Prod.fst) := by
  have same (a : String) :
      a ∈ (Scope.ofTables s.tables).aliases.map Prod.fst ↔ a ∈ s.aliases := by
    rw [Scope.aliases_ofTables, List.map_reverse, List.mem_reverse, Select.aliases]
  obtain ⟨mem_iff, unquoted, unquoted_new, injective⟩ := h.covers
  exact ⟨fun a => (mem_iff a).trans (same a).symm, fun a ha => unquoted a ((same a).mp ha),
    fun a ha => unquoted_new a ((same a).mp ha),
    fun a ha b hb => injective a ((same a).mp ha) b ((same b).mp hb)⟩

/-- **When aliases do not matter.**  Renaming the aliases of a `SELECT` to fresh names leaves its
references as they are if every qualifier before `.*` is a word or stands in brackets, double quotes
or backticks, and in general exactly if every such qualifier is looked up by its value. -/
theorem renamedReferences_exact (marks : SourceMarks) {f : Renaming} {s : Select}
    (fresh : f.IsFreshFor s) :
    ((∀ name ∈ s.starNames, name.IsDelimited) →
        (s.renamed f).references marks = s.references marks) ∧
      ((s.renamed f).references marks = s.references marks ↔
        ∀ name ∈ s.starNames, IsReadByValue (Scope.ofTables s.tables) name) := by
  have covers := fresh.covers_scope
  have kept : (s.renamed f).references marks = s.references marks ↔
      ∀ name ∈ s.starNames, IsReadByValue (Scope.ofTables s.tables) name := by
    obtain ⟨quantifier, projection, into, tables, filter, groupBy, having, windows, fromLeads⟩ := s
    have spares := List.forall_mem_flatMap.mp fresh.spares
    rw [Select.renamed, Select.references, Select.references, Scope.ofTables_renamed,
      Select.starNames, List.forall_mem_filterMap]
    exact itemReferences_renamed_iff marks covers spares
  exact ⟨fun delimited => kept.mpr fun name hn => covers.isReadByValue (delimited name hn), kept⟩

/-- A `SELECT` with an alias that is the name of another table: `SELECT customers.id, [c].*,
MAX(c.total), regions.* FROM orders AS customers, (dbo.customers AS c CROSS JOIN regions)`. -/
def crossedNames : Select :=
  .mk [] [.expr (.compound [.bare "customers", .bare "id"]) none,
      .qualifiedWildcard ⟨[⟨"c", some '['⟩]⟩ [],
      .expr (.call ⟨[.bare "MAX"]⟩ [.expr (.compound [.bare "c", .bare "total"])] [] []) none,
      .qualifiedWildcard ⟨[.bare "regions"]⟩ []] []
    [.mk (.table ⟨[.bare "orders"]⟩ [] (some ⟨.bare "customers", []⟩) []) [],
      .mk (.nested (.mk (.table ⟨[.bare "dbo", .bare "customers"]⟩ [] (some ⟨.bare "c", []⟩) [])
        [.mk "CROSS JOIN" (.table ⟨[.bare "regions"]⟩ [] none []) []]) none) []]
    [] [] [] [] false

/-- New names for the two aliases. -/
def uncrossed : Renaming := ⟨["customers", "c"], fun a => "t_" ++ a, id⟩

/-- The references of crossed names stay when the names are uncrossed. -/
theorem renamedReferences_crossedNames :
    uncrossed.IsFreshFor crossedNames ∧
      (∀ name ∈ crossedNames.starNames, name.IsDelimited) ∧
      (crossedNames.renamed uncrossed).references ⟨"null", "@"⟩ =
        crossedNames.references ⟨"null", "@"⟩ := by
  have fresh : uncrossed.IsFreshFor crossedNames :=
    ⟨⟨fun _ => Iff.rfl, by decide, by decide, by decide⟩, by decide⟩
  have delimited : ∀ name ∈ crossedNames.starNames, name.IsDelimited := by
    intro name hn
    have names : crossedNames.starNames = [⟨[⟨"c", some '['⟩]⟩, ⟨[.bare "regions"]⟩] := rfl
    rw [names] at hn
    obtain rfl | rfl := List.mem_pair.mp hn
    · exact ⟨_, rfl, ('[', ']'), by decide, rfl⟩
    · exact ⟨_, rfl, HasNoQuotes.not_isEnclosed (by decide : HasNoQuotes "regions")⟩
  exact ⟨fresh, delimited, (renamedReferences_exact _ fresh).1 delimited⟩

/-- A `SELECT` with a qualifier in single quotes:
`SELECT dbo.'o'.id, dbo.'o'.* FROM orders AS o, customers AS c`. -/
def quotedQualifier : Select :=
  .mk [] [.expr (.compound [.bare "dbo", ⟨"o", some '\''⟩, .bare "id"]) none,
      .qualifiedWildcard ⟨[.bare "dbo", ⟨"o", some '\''⟩]⟩ []] []
    [.mk (.table ⟨[.bare "orders"]⟩ [] (some ⟨.bare "o", []⟩) []) [],
      .mk (.table ⟨[.bare "customers"]⟩ [] (some ⟨.bare "c", []⟩) []) []]
    [] [] [] [] false

/-- The alias matters if a qualifier before `.*` stands in single quotes: only when it is renamed is
it found among the aliases. -/
theorem renamedReferences_quotedQualifier :
    let f : Renaming := ⟨["o", "c"], fun a => "t_" ++ a, id⟩
    f.IsFreshFor quotedQualifier ∧
      quotedQualifier.references ⟨"null", "@"⟩ = [.plain "orders" "id", .plain "'o'" "*"] ∧
      (quotedQualifier.renamed f).references ⟨"null", "@"⟩ =
        [.plain "orders" "id", .plain "orders" "*"] :=
  ⟨⟨⟨fun _ => Iff.rfl, by decide, by decide, by decide⟩, by decide⟩, by decide, by decide⟩

end RowShape
