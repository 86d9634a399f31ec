import RowShape.Proofs.Resolution

/-!
# What becomes of every reference

A reference gives the same whatever comes before and after it: the columns it stands for, or one
diagnostic that carries it.  Which of the two it is depends on four conditions, one for every reason
to drop a reference.  They are asked for in a fixed order, and the first that holds is the reason
that is given.  A reference for which none holds has a table, and there the column that it names, or
it is a wildcard that stands for all columns of the table.

## Main definitions

* `SkipReason.Applies`: the condition of a reason
* `skipReason?`: the first reason that applies to a reference
* `standsFor`: the columns that a reference stands for
* `ResolvesExactly`: what references give, alone and together

## Main results

* `resolveOutcome_eq`: a reference is dropped for the first reason that applies, or it gives what
  it stands for
* `resolve_exact`: every configuration and every catalog resolve references exactly
-/

namespace RowShape

variable {config : Config} {catalog : Catalog} {entity : String} {r : ColumnRef}

/-! ### Reasons -/

/-- The reference is a wildcard, and wildcards stand for all columns of their tables. -/
def ColumnRef.IsExpanded (config : Config) (r : ColumnRef) : Prop :=
  r.column = "*" ∧ config.expandWildcards = true

instance : Decidable (r.IsExpanded config) :=
  inferInstanceAs (Decidable (r.column = "*" ∧ config.expandWildcards = true))

/-- A name begins like that of a variable. -/
def Config.IsVariable (config : Config) (name : String) : Prop :=
  config.variablePrefix.toList <+: name.toList

theorem Config.isVariable_marks_iff {name : String} :
    config.marks.isVariable name = true ↔ config.IsVariable name :=
  List.isPrefixOf_iff_prefix

instance (name : String) : Decidable (config.IsVariable name) :=
  decidable_of_iff _ Config.isVariable_marks_iff

namespace SkipReason

/-- The condition under which a reason is one to drop a reference. -/
def Applies (config : Config) (catalog : Catalog) (r : ColumnRef) : SkipReason → Prop
  | nullSource => r.source = config.nullMarker
  | variableSource => config.IsVariable r.source
  | unknownTable => r.source ∉ catalog.names
  | unknownColumn => ¬ r.IsExpanded config ∧ catalog.column? r.source r.column = none

instance (reason : SkipReason) : Decidable (reason.Applies config catalog r) :=
  match reason with
  | nullSource => inferInstanceAs (Decidable (r.source = config.nullMarker))
  | variableSource => inferInstanceAs (Decidable (config.IsVariable r.source))
  | unknownTable => inferInstanceAs (Decidable (r.source ∉ catalog.names))
  | unknownColumn => inferInstanceAs (Decidable
      (¬ r.IsExpanded config ∧ catalog.column? r.source r.column = none))

/-- The reasons in the order in which they are asked for. -/
def inOrder : List SkipReason := [nullSource, variableSource, unknownTable, unknownColumn]

end SkipReason

/-- The first reason that applies to a reference. -/
def skipReason? (config : Config) (catalog : Catalog) (r : ColumnRef) : Option SkipReason :=
  SkipReason.inOrder.find? fun reason => reason.Applies config catalog r

/-- The columns that a reference stands for: all those of its table in the order in which they are
declared, or the one that it names. -/
def standsFor (config : Config) (catalog : Catalog) (r : ColumnRef) : List ResolvedColumn :=
  if r.IsExpanded config then
    (catalog.table? r.source).toList.flatMap fun columns =>
      columns.entries.map fun e => ⟨r.source, e.1, e.2⟩
  else (catalog.column? r.source r.column).toList.map fun info => ⟨r.source, r.column, info⟩

/-! ### One reference -/

/-- The conditions as they are asked for, one after another. -/
theorem skipReason?_eq (config : Config) (catalog : Catalog) (r : ColumnRef) :
    skipReason? config catalog r =
      if r.source = config.nullMarker then some .nullSource
      else if config.IsVariable r.source then some .variableSource
      else if r.source ∉ catalog.names then some .unknownTable
      else if ¬ r.IsExpanded config ∧ catalog.column? r.source r.column = none then
        some .unknownColumn
      else none := by
  simp only [skipReason?, SkipReason.inOrder, List.find?_cons, List.find?_nil]
  split_ifs <;> simp [SkipReason.Applies, *]

theorem Catalog.table?_eq_none_iff {table : String} :
    catalog.table? table = none ↔ table ∉ catalog.names :=
  OrderedMap.get?_eq_none_iff

theorem Catalog.exists_table?_of_mem {table : String} (h : table ∈ catalog.names) :
    ∃ columns, catalog.table? table = some columns :=
  Option.ne_none_iff_exists'.mp fun none => Catalog.table?_eq_none_iff.mp none h

/-- **A reference is dropped for the first reason that applies**, and if there is none, it gives
what it stands for. -/
theorem resolveOutcome_eq (config : Config) (catalog : Catalog) (r : ColumnRef) :
    resolveOutcome config catalog r =
      match skipReason? config catalog r with
      | some reason => .error reason
      | none => .ok (standsFor config catalog r) := by
  rw [skipReason?_eq, resolveOutcome]
  simp only [Config.isVariable_marks_iff]
  -- the conditions are decided one after another, as the reasons are asked for
  by_cases hnull : r.source = config.nullMarker
  · rw [if_pos hnull, if_pos hnull]
  rw [if_neg hnull, if_neg hnull]
  by_cases hvar : config.IsVariable r.source
  · rw [if_pos hvar, if_pos hvar]
  rw [if_neg hvar, if_neg hvar]
  cases ht : catalog.table? r.source with
  | none => rw [if_pos (Catalog.table?_eq_none_iff.mp ht)]
  | some columns =>
    have known : r.source ∈ catalog.names := OrderedMap.mem_keys_of_get? ht
    rw [if_neg (not_not_intro known)]
    have same : catalog.column? r.source r.column = columns.get? r.column := by
      rw [Catalog.column?, ht, Option.bind_some]
    by_cases hw : r.IsExpanded config
    · have wildcard : (r.isWildcard && config.expandWildcards) = true := by
        rw [ColumnRef.isWildcard, hw.1, hw.2]
        rfl
      simp [standsFor, hw, ht, wildcard]
    · have named : (r.isWildcard && config.expandWildcards) = false := by
        simpa [ColumnRef.isWildcard, ColumnRef.IsExpanded] using hw
      cases hg : columns.get? r.column with
      | none => simp [hw, named, same, hg]
      | some info => simp [standsFor, hw, named, same, hg]

theorem resolve_singleton (entity : String) (config : Config) (catalog : Catalog) (r : ColumnRef) :
    resolve entity config catalog [r] = resolveOne entity config catalog r := by
  rw [resolve, resolve]
  ext1 <;> simp [Resolution.empty]

/-- A reference that is dropped gives one diagnostic, which carries it. -/
theorem resolveOne_of_dropped {reason : SkipReason}
    (h : skipReason? config catalog r = some reason) :
    resolveOne entity config catalog r = ⟨[], [.unresolvedColumn entity r reason]⟩ := by
  rw [resolveOne, resolveOutcome_eq, h]

/-- A reference that is not dropped gives the columns it stands for and no diagnostic. -/
theorem resolveOne_of_kept (h : skipReason? config catalog r = none) :
    resolveOne entity config catalog r = ⟨standsFor config catalog r, []⟩ := by
  rw [resolveOne, resolveOutcome_eq, h]

/-- A reference is kept if none of the four conditions holds. -/
theorem skipReason?_eq_none_iff :
    skipReason? config catalog r = none ↔
      r.source ≠ config.nullMarker ∧ ¬ config.IsVariable r.source ∧ r.source ∈ catalog.names ∧
        (r.IsExpanded config ∨ (catalog.column? r.source r.column).isSome) := by
  rw [skipReason?_eq]
  split_ifs <;> simp_all [Option.isSome_iff_ne_none, imp_iff_not_or]

/-- A column that a reference stands for is one of its table. -/
theorem table_of_mem_standsFor {c : ResolvedColumn} (h : c ∈ standsFor config catalog r) :
    c.table = r.source := by
  rw [standsFor] at h
  split at h
  · obtain ⟨columns, -, h⟩ := List.mem_flatMap.mp h
    obtain ⟨e, -, rfl⟩ := List.mem_map.mp h
    rfl
  · obtain ⟨info, -, rfl⟩ := List.mem_map.mp h
    rfl

/-! ### References one after another -/

theorem columns_resolve (refs : List ColumnRef) :
    (resolve entity config catalog refs).columns =
      refs.flatMap fun r => (resolveOne entity config catalog r).columns := by
  induction refs with
  | nil => rfl
  | cons r refs ih => rw [resolve, Resolution.columns_append, ih, List.flatMap_cons]

theorem diagnostics_resolve (refs : List ColumnRef) :
    (resolve entity config catalog refs).diagnostics =
      refs.flatMap fun r => (resolveOne entity config catalog r).diagnostics := by
  induction refs with
  | nil => rfl
  | cons r refs ih => rw [resolve, Resolution.diagnostics_append, ih, List.flatMap_cons]

/-- A resolved column comes from a reference to its table that was kept. -/
theorem exists_kept_of_mem_resolve {refs : List ColumnRef} {c : ResolvedColumn}
    (h : c ∈ (resolve entity config catalog refs).columns) :
    ∃ r ∈ refs, skipReason? config catalog r = none ∧ c.table = r.source := by
  rw [columns_resolve] at h
  obtain ⟨r, hr, hc⟩ := List.mem_flatMap.mp h
  cases hs : skipReason? config catalog r with
  | some reason =>
    rw [resolveOne_of_dropped hs] at hc
    cases hc
  | none =>
    rw [resolveOne_of_kept hs] at hc
    exact ⟨r, hr, hs, table_of_mem_standsFor hc⟩

/-- **Exact resolution**: every reference is accounted for, and every column that is found is
declared. -/
structure ResolvesExactly (config : Config) (catalog : Catalog) : Prop where
  /-- Of two lists of references, the second adds its columns and its diagnostics after those of
  the first. -/
  concatenates : ∀ entity rs ss,
    (resolve entity config catalog (rs ++ ss)).columns =
        (resolve entity config catalog rs).columns ++ (resolve entity config catalog ss).columns ∧
      (resolve entity config catalog (rs ++ ss)).diagnostics =
        (resolve entity config catalog rs).diagnostics ++
          (resolve entity config catalog ss).diagnostics
  /-- Each reference gives what it gives alone, in the order of the references. -/
  separates : ∀ entity refs,
    (resolve entity config catalog refs).columns =
        refs.flatMap (fun r => (resolve entity config catalog [r]).columns) ∧
      (resolve entity config catalog refs).diagnostics =
        refs.flatMap fun r => (resolve entity config catalog [r]).diagnostics
  /-- If a reason applies, the reference gives no column and one diagnostic, which carries the
  reference and the first such reason. -/
  drops : ∀ entity r reason, skipReason? config catalog r = some reason →
    resolve entity config catalog [r] = ⟨[], [.unresolvedColumn entity r reason]⟩
  /-- If none does, a wildcard that is expanded gives all columns of its table in the order in
  which they are declared, and no diagnostic. -/
  expands : ∀ entity r, skipReason? config catalog r = none → r.IsExpanded config →
    ∃ columns, catalog.table? r.source = some columns ∧
      resolve entity config catalog [r] =
        ⟨columns.entries.map fun e => ⟨r.source, e.1, e.2⟩, []⟩
  /-- Any other reference gives the one column that it names, and no diagnostic. -/
  finds : ∀ entity r, skipReason? config catalog r = none → ¬ r.IsExpanded config →
    ∃ info, catalog.column? r.source r.column = some info ∧
      resolve entity config catalog [r] = ⟨[⟨r.source, r.column, info⟩], []⟩
  /-- Every column that is found is declared the way it was found, in a table that is neither the
  mark for columns without a table nor named like a variable. -/
  declared : ∀ entity refs, ∀ c ∈ (resolve entity config catalog refs).columns,
    catalog.column? c.table c.column = some c.info ∧ c.table ≠ config.nullMarker ∧
      ¬ config.IsVariable c.table

/-- Every configuration and every catalog resolve references exactly. -/
theorem resolve_exact (config : Config) (catalog : Catalog) : ResolvesExactly config catalog where
  concatenates entity rs ss := by
    rw [resolve_append]
    exact ⟨rfl, rfl⟩
  separates entity refs := by
    simp only [resolve_singleton]
    exact ⟨columns_resolve refs, diagnostics_resolve refs⟩
  drops entity r reason h := by rw [resolve_singleton, resolveOne_of_dropped h]
  expands entity r h hw := by
    obtain ⟨-, -, known, -⟩ := skipReason?_eq_none_iff.mp h
    obtain ⟨columns, ht⟩ := Catalog.exists_table?_of_mem known
    refine ⟨columns, ht, ?_⟩
    rw [resolve_singleton, resolveOne_of_kept h, standsFor, if_pos hw, ht]
    simp
  finds entity r h hw := by
    obtain ⟨-, -, -, some⟩ := skipReason?_eq_none_iff.mp h
    obtain ⟨info, hi⟩ := Option.isSome_iff_exists.mp (some.resolve_left hw)
    refine ⟨info, hi, ?_⟩
    rw [resolve_singleton, resolveOne_of_kept h, standsFor, if_neg hw, hi]
    rfl
  declared entity refs c hc := by
    obtain ⟨r, -, kept, table⟩ := exists_kept_of_mem_resolve hc
    obtain ⟨notNull, notVariable, -⟩ := skipReason?_eq_none_iff.mp kept
    rw [← table] at notNull notVariable
    exact ⟨mem_resolve c hc, notNull, notVariable⟩

end RowShape
