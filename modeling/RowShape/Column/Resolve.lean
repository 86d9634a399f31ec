import RowShape.Catalog
import RowShape.Config
import RowShape.Diagnostic

/-!
# Resolving references

From references to columns of a catalog.  What gives no column gives a diagnostic instead.

## Main definitions

* `ResolvedColumn`: a column of a table of the catalog.
* `Resolution`: columns and diagnostics.
* `resolveOne`: what a single reference gives.
* `resolve`: what references give one after another.

## Main results

* `resolve_append`: references are resolved one by one.
-/

namespace RowShape

/-- A column of a result, found in a table. -/
structure ResolvedColumn where
  table : String
  column : String
  info : ColumnInfo
  deriving DecidableEq, Inhabited

/-- The columns that were found, and the references that gave none. -/
@[ext] structure Resolution where
  columns : List ResolvedColumn
  diagnostics : List Diagnostic
  deriving DecidableEq, Inhabited

namespace Resolution

/-- Nothing was found. -/
def empty : Resolution := ⟨[], []⟩

/-- Two resolutions one after the other. -/
def append (r s : Resolution) : Resolution :=
  ⟨r.columns ++ s.columns, r.diagnostics ++ s.diagnostics⟩

instance : Append Resolution := ⟨append⟩

@[simp] theorem columns_append (r s : Resolution) :
    (r ++ s).columns = r.columns ++ s.columns := rfl

@[simp] theorem diagnostics_append (r s : Resolution) :
    (r ++ s).diagnostics = r.diagnostics ++ s.diagnostics := rfl

theorem append_assoc (r s t : Resolution) : r ++ s ++ t = r ++ (s ++ t) := by
  ext1 <;> simp

theorem empty_append (r : Resolution) : empty ++ r = r := by
  ext1 <;> simp [empty]

end Resolution

/-- The outcome of a reference: columns of a table, or a reason why there is none. -/
def resolveOutcome (config : Config) (catalog : Catalog) (r : ColumnRef) :
    Except SkipReason (List ResolvedColumn) :=
  if r.source = config.nullMarker then .error .nullSource
  else if config.marks.isVariable r.source then .error .variableSource
  else match catalog.table? r.source with
    | none => .error .unknownTable
    | some columns =>
      if r.isWildcard && config.expandWildcards then
        .ok (columns.entries.map fun e => ⟨r.source, e.1, e.2⟩)
      else match columns.get? r.column with
        | some info => .ok [⟨r.source, r.column, info⟩]
        | none => .error .unknownColumn

/-- What a single reference of an entity gives. -/
def resolveOne (entity : String) (config : Config) (catalog : Catalog) (r : ColumnRef) :
    Resolution :=
  match resolveOutcome config catalog r with
  | .ok columns => ⟨columns, []⟩
  | .error reason => ⟨[], [.unresolvedColumn entity r reason]⟩

/-- What the references of an entity give, in their order. -/
def resolve (entity : String) (config : Config) (catalog : Catalog) :
    List ColumnRef → Resolution
  | [] => .empty
  | r :: rest => resolveOne entity config catalog r ++ resolve entity config catalog rest

/-- References are resolved one by one. -/
theorem resolve_append (entity : String) (config : Config) (catalog : Catalog)
    (rs ss : List ColumnRef) :
    resolve entity config catalog (rs ++ ss) =
      resolve entity config catalog rs ++ resolve entity config catalog ss := by
  induction rs with
  | nil => exact (Resolution.empty_append _).symm
  | cons r rs ih => rw [List.cons_append, resolve, ih, resolve, Resolution.append_assoc]

end RowShape
