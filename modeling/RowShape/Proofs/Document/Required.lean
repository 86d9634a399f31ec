import RowShape.Proofs.Document

/-!
# Which properties of a procedure are required

A procedure may return several columns of one name.  Its property stands where the first of them
does and describes the last one.  The list of required names is kept apart: a name is added to it at
its first column that is not nullable, and stays there whatever follows.

So a required property need not be one whose kept column is not nullable, and required names need
not come in the order of the properties.  They do exactly if no column that is not nullable is
replaced for good by one that is, and if names first come in the same order whether all columns are
looked at or only those that are not nullable.

## Main definitions

* `keptColumn?`: the column that a property describes
* `requiredByKept`: the properties whose kept columns are not nullable
* `KeepsNullability`: the columns for which these are the required ones

## Main results

* `Synthesizer.keys_procedureDocument`, `Synthesizer.required_procedureDocument`: the properties of
  a procedure and its required names, both in order
* `Synthesizer.required_eq_requiredByKept_iff`: when required names are those of kept columns
-/

namespace RowShape

/-- The column that the property of a name describes: of several, the last one. -/
def keptColumn? (columns : List ResolvedColumn) (name : String) : Option ResolvedColumn :=
  columns.findRev? (·.column == name)

/-- A column that holds a value in every row. -/
def ResolvedColumn.isFilled (c : ResolvedColumn) : Bool := !c.info.nullable

/-- The names of properties whose kept columns are not nullable, in the order of the properties. -/
def requiredByKept (columns : List ResolvedColumn) (properties : List String) : List String :=
  properties.filter fun name => (keptColumn? columns name).any (·.isFilled)

/-- Nullability is kept: what the list of required names says of a name holds of its last column. -/
structure KeepsNullability (columns : List ResolvedColumn) : Prop where
  /-- If a column is not nullable, neither is the last one of its name. -/
  lasting : ∀ c ∈ columns, c.isFilled → (keptColumn? columns c.column).any (·.isFilled)
  /-- Without the nullable columns, names still first come in the same order. -/
  ordered : ((columns.filter (·.isFilled)).map (·.column)).eraseDups.Sublist
    (columns.map (·.column)).eraseDups

instance (columns : List ResolvedColumn) : Decidable (KeepsNullability columns) :=
  decidable_of_iff (_ ∧ _) ⟨fun h => ⟨h.1, h.2⟩, fun h => ⟨h.lasting, h.ordered⟩⟩

/-- The kept column is one of the columns of its name. -/
theorem mem_of_keptColumn? {columns : List ResolvedColumn} {name : String} {c : ResolvedColumn}
    (h : keptColumn? columns name = some c) : c ∈ columns ∧ c.column = name :=
  mem_of_findRev?_key h

namespace Synthesizer

variable {config : Config} {registry : Registry} {name : String}

/-- **Run**: a name is required from its first column on that is not nullable. -/
theorem required_foldl_add (property : ResolvedColumn → PropertySchema)
    (columns : List ResolvedColumn) :
    (columns.foldl (fun b c => PropertyList.add b c.column (property c) c.info.nullable)
        .empty).required =
      ((columns.filter (·.isFilled)).map (·.column)).eraseDups := by
  induction columns using List.reverseRecOn with
  | nil => rfl
  | append_singleton columns c ih =>
    rw [List.foldl_append, List.foldl_cons, List.foldl_nil, PropertyList.add, ih,
      List.filter_append, List.map_append]
    cases hn : c.info.nullable with
    | true => simp [ResolvedColumn.isFilled, hn]
    | false =>
      have filled : [c].filter (·.isFilled) = [c] := by simp [ResolvedColumn.isFilled, hn]
      rw [filled, List.map_cons, List.map_nil, eraseDups_concat]
      simp only [Bool.false_or, List.contains_eq_mem, List.mem_eraseDups, decide_eq_true_eq]

/-- The properties of a procedure stand where columns of their names first come. -/
theorem keys_procedureDocument (columns : List ResolvedColumn) :
    (procedureDocument config registry name columns).properties.keys =
      (columns.map (·.column)).eraseDups := by
  change (procedureProperties config registry columns).properties.keys = _
  rw [procedureProperties, properties_foldl_add]
  exact OrderedMap.keys_foldl_insert columns

/-- **The required names of a procedure** stand where columns of their names first come that are not
nullable. -/
theorem required_procedureDocument (columns : List ResolvedColumn) :
    (procedureDocument config registry name columns).required =
      ((columns.filter (·.isFilled)).map (·.column)).eraseDups :=
  required_foldl_add _ columns

/-- A name is required if one of its columns is not nullable. -/
theorem mem_required_procedureDocument {columns : List ResolvedColumn} {column : String} :
    column ∈ (procedureDocument config registry name columns).required ↔
      ∃ c ∈ columns, c.isFilled ∧ c.column = column := by
  rw [required_procedureDocument, List.mem_eraseDups, List.mem_map]
  simp only [List.mem_filter, and_assoc]

/-- **Required names are those of kept columns** exactly if nullability is kept. -/
theorem required_eq_requiredByKept_iff (config : Config) (registry : Registry) (name : String)
    (columns : List ResolvedColumn) :
    (procedureDocument config registry name columns).required =
        requiredByKept columns (procedureDocument config registry name columns).properties.keys ↔
      KeepsNullability columns := by
  rw [keys_procedureDocument]
  constructor
  · intro h
    refine ⟨fun c hc filled => ?_, ?_⟩
    · have required : c.column ∈ (procedureDocument config registry name columns).required :=
        mem_required_procedureDocument.mpr ⟨c, hc, filled, rfl⟩
      rw [h, requiredByKept, List.mem_filter] at required
      exact required.2
    · rw [← required_procedureDocument, h]
      exact List.filter_sublist
  · intro h
    refine eq_filter_of_sublist ?_ (nodup_eraseDups _) fun column _ => ?_
    · rw [required_procedureDocument]
      exact h.ordered
    rw [mem_required_procedureDocument]
    constructor
    · rintro ⟨c, hc, filled, rfl⟩
      exact h.lasting c hc filled
    · intro hk
      obtain ⟨k, kept, filled⟩ := (Option.any_eq_true _ _).mp hk
      obtain ⟨hm, hname⟩ := mem_of_keptColumn? kept
      exact ⟨k, hm, filled, hname⟩

/-- A join of two tables that both have a column `id`, which is nullable in the second one. -/
def joinedIds : List ResolvedColumn :=
  [⟨"orders", "id", ⟨"int", false⟩⟩, ⟨"customers", "id", ⟨"int", true⟩⟩]

/-- The property of the join describes the second column, and is required because of the first. -/
theorem required_joinedIds :
    (procedureDocument .default .empty "report" joinedIds).required = ["id"] ∧
      requiredByKept joinedIds
        (procedureDocument .default .empty "report" joinedIds).properties.keys = [] := by
  decide

end Synthesizer

end RowShape
