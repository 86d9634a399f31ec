import RowShape.Column.Collect
import RowShape.Proofs.Column.Scope
import RowShape.Proofs.Sql.Occurrence

/-!
# Exactness of column extraction

The columns of a list of statements are read off the occurrences in their trees: every occurrence
that contributes adds one reference, every returned wildcard adds those of its tables, and nothing
else adds any.  An occurrence contributes if it names a column and is returned, which is a matter of
the way down to it: the way never enters a clause, a `FROM`, the expression before `.*`, or a query
inside an expression that is no scalar subquery.  What is said about the column depends on the
nearest `SELECT` and the nearest item above, so neither the scope nor the function of an outer query
reaches into a subquery.

The collecting recursion follows the constructors of the syntax.  One step of it is compared with
the parts of a node, and the list of all occurrences gives what a whole run collects.

## Main definitions

* `Role.isReturned`: the parts that are returned with the node they are parts of
* `Node.Names`: the source and the column that a node names
* `Node.StandsFor`: the tables that a wildcard stands for
* `Occurrence.Contributes`, `Occurrence.references`: the occurrences that count, and what they add
* `ExtractsExactly`: what the reading of statements finds

## Main results

* `Node.collected_eq`: what is collected from a node is its own and that of its returned parts
* `Occurrence.flatMap_references_below`: what a whole run collects
* `statementReferences_exact`: the columns of statements are exactly those that contribute
-/

namespace RowShape

open Sql

/-! ### Which occurrences count -/

/-- A part in this role is returned with the node it is a part of. -/
def Sql.Role.isReturned : Role → Bool
  | .statement | .query | .body | .select | .parenthesised | .branch => true
  | .item | .value | .operand | .scalar => true
  | .subquery | .source | .clause | .starred => false

namespace Sql.Node

/-- A node that names a column: an identifier, at least two of them, or a variable. -/
def isColumn (marks : SourceMarks) : Node → Bool
  | .expr (.ident _) => true
  | .expr (.compound parts) => 2 ≤ parts.length
  | .expr (.literal value) => marks.isVariable value.render
  | _ => false

/-- A node that stands for all columns of tables. -/
def isWildcard : Node → Bool
  | .item (.wildcard _) => true
  | .item (.qualifiedWildcard _ _) => true
  | _ => false

/-- The references that a node makes by itself, in a scope and inside a function. -/
def ownReferences (marks : SourceMarks) (scope : Scope) (aggregate : Option String) :
    Node → List ColumnRef
  | .expr (.ident name) => [⟨aggregate, marks.bareSource scope name.value, name.value⟩]
  | .expr (.compound parts) => (compoundReference? scope aggregate parts).toList
  | .expr (.literal value) => (literalReference? marks aggregate value).toList
  | .item (.wildcard _) => scope.tables.map (ColumnRef.plain · "*")
  | .item (.qualifiedWildcard name _) => [.plain (scope.sourceFor name.baseName) "*"]
  | _ => []

/-- **What a node names in a scope**: a source and a column of it. -/
inductive Names (marks : SourceMarks) (scope : Scope) : Node → String → String → Prop where
  /-- A variable is its own source. -/
  | own {name : Ident} (h : marks.isVariable name.value) :
      Names marks scope (.expr (.ident name)) name.value name.value
  /-- Any other name belongs to the relation that is read, if it is a single one and a table. -/
  | only {name : Ident} {table : String} (h : ¬ marks.isVariable name.value)
      (tables : scope.tables = [table]) (unnamed : scope.unnamed = 0) :
      Names marks scope (.expr (.ident name)) table name.value
  /-- Otherwise it is marked. -/
  | unknown {name : Ident} (h : ¬ marks.isVariable name.value)
      (other : ¬ ∃ table, scope.tables = [table] ∧ scope.unnamed = 0) :
      Names marks scope (.expr (.ident name)) marks.nullMarker name.value
  /-- Of several names the last one is the column and the one before it the qualifier. -/
  | qualified (outer : List Ident) (qualifier column : Ident) :
      Names marks scope (.expr (.compound (outer ++ [qualifier, column])))
        (scope.sourceFor qualifier.value) column.value
  /-- A literal that is printed like a variable is one. -/
  | literal {value : Literal} (h : marks.isVariable value.render) :
      Names marks scope (.expr (.literal value)) value.render value.render

/-- **What a wildcard stands for in a scope**: the columns of tables, one table after another. -/
inductive StandsFor (scope : Scope) : Node → List String → Prop where
  /-- All tables of the scope, also if one of them is listed more than once. -/
  | all (options : List Piece) : StandsFor scope (.item (.wildcard options)) scope.tables
  /-- The table behind a qualifier. -/
  | one (name : QualifiedName) (options : List Piece) :
      StandsFor scope (.item (.qualifiedWildcard name options)) [scope.sourceFor name.baseName]

variable {marks : SourceMarks} {scope : Scope} {aggregate : Option String} {n : Node}

theorem exists_expr_of_isColumn (h : n.isColumn marks) : ∃ e, n = .expr e := by
  cases n with
  | expr e => exact ⟨e, rfl⟩
  | _ => cases h

/-- Two names or more have a last one and one before it. -/
theorem exists_append_of_length {parts : List Ident} (h : 2 ≤ parts.length) :
    ∃ outer qualifier column, parts = outer ++ [qualifier, column] := by
  rw [← List.length_reverse] at h
  rcases hp : parts.reverse with _ | ⟨column, _ | ⟨qualifier, outer⟩⟩
  · simp [hp] at h
  · simp [hp] at h
  · refine ⟨outer.reverse, qualifier, column, ?_⟩
    rw [List.reverse_eq_iff.mp hp]
    simp

theorem compoundReference?_append (outer : List Ident) (qualifier column : Ident) :
    compoundReference? scope aggregate (outer ++ [qualifier, column]) =
      some ⟨aggregate, scope.sourceFor qualifier.value, column.value⟩ := by
  rw [compoundReference?, List.reverse_append]
  rfl

theorem compoundReference?_eq_none {parts : List Ident} (h : ¬ 2 ≤ parts.length) :
    compoundReference? scope aggregate parts = none := by
  rw [← List.length_reverse] at h
  rw [compoundReference?]
  generalize parts.reverse = reversed at h
  rcases reversed with _ | ⟨column, _ | ⟨qualifier, _⟩⟩
  · rfl
  · rfl
  · simp at h

/-- A node that names a column names one of some source. -/
theorem exists_names_of_isColumn (scope : Scope) (h : n.isColumn marks) :
    ∃ source column, n.Names marks scope source column := by
  revert h
  fun_cases isColumn marks n <;> intro h
  · next name =>
    by_cases hv : marks.isVariable name.value
    · exact ⟨_, _, .own hv⟩
    by_cases ht : ∃ table, scope.tables = [table] ∧ scope.unnamed = 0
    · obtain ⟨table, tables, unnamed⟩ := ht
      exact ⟨_, _, .only hv tables unnamed⟩
    · exact ⟨_, _, .unknown hv ht⟩
  · obtain ⟨outer, qualifier, column, rfl⟩ := exists_append_of_length (of_decide_eq_true h)
    exact ⟨_, _, .qualified outer qualifier column⟩
  · exact ⟨_, _, .literal h⟩
  · cases h

/-- A node makes one reference for what it names, inside the function around it. -/
theorem Names.ownReferences_eq {source column : String} (h : n.Names marks scope source column)
    (aggregate : Option String) :
    n.ownReferences marks scope aggregate = [⟨aggregate, source, column⟩] := by
  cases h with
  | own h => rw [ownReferences, SourceMarks.bareSource, if_pos h]
  | only h tables unnamed =>
    have single := Scope.singleTable?_eq_some_iff.mpr ⟨tables, unnamed⟩
    rw [ownReferences, SourceMarks.bareSource, if_neg h, single]
    rfl
  | unknown h other =>
    have none : scope.singleTable? = none :=
      Option.eq_none_iff_forall_ne_some.mpr fun table single =>
        other ⟨table, Scope.singleTable?_eq_some_iff.mp single⟩
    rw [ownReferences, SourceMarks.bareSource, if_neg h, none]
    rfl
  | qualified outer qualifier column =>
    rw [ownReferences, compoundReference?_append]
    rfl
  | literal h =>
    rw [ownReferences, literalReference?, if_pos h]
    rfl

/-- A wildcard stands for tables. -/
theorem exists_standsFor_of_isWildcard (scope : Scope) (h : n.isWildcard) :
    ∃ tables, n.StandsFor scope tables := by
  revert h
  fun_cases isWildcard n <;> intro h
  · exact ⟨_, .all _⟩
  · exact ⟨_, .one _ _⟩
  · cases h

/-- A wildcard makes one reference for each of its tables, outside of any function. -/
theorem StandsFor.ownReferences_eq {tables : List String} (h : n.StandsFor scope tables) :
    n.ownReferences marks scope aggregate = tables.map (ColumnRef.plain · "*") := by
  cases h with
  | all options => rfl
  | one name options => rfl

/-- A node that neither names a column nor is a wildcard makes no reference. -/
theorem ownReferences_eq_nil (hc : ¬ n.isColumn marks) (hw : ¬ n.isWildcard) :
    n.ownReferences marks scope aggregate = [] := by
  fun_cases ownReferences marks scope aggregate n with
  | case1 name => exact absurd rfl hc
  | case2 parts => rw [compoundReference?_eq_none fun h => hc (decide_eq_true h), Option.toList]
  | case3 value => exact congrArg Option.toList (if_neg hc)
  | case4 options => exact absurd rfl hw
  | case5 name options => exact absurd rfl hw
  | case6 => rfl

/-- An expression that is returned is part of an expression, or it is an item. -/
theorem eq_item_of_mem_parts {role : Role} {e : Expr} (h : (role, .expr e) ∈ n.parts)
    (hr : role.isReturned) : (∃ v as, n = .item (.expr v as)) ∨ ∃ v, n = .expr v := by
  fun_cases parts n <;> grind [parts, mem_phraseParts, Role.isReturned]

end Sql.Node

namespace Sql.Occurrence

/-- The occurrence is returned: so is every part on the way down to it. -/
def IsReturned (p : Occurrence) : Prop := ∀ step ∈ p.trail, step.2.isReturned

instance (p : Occurrence) : Decidable p.IsReturned :=
  inferInstanceAs (Decidable (∀ step ∈ p.trail, step.2.isReturned))

/-- The nearest `SELECT` above. -/
def select? (p : Occurrence) : Option Select :=
  p.trail.findSome? fun
    | (.select s, _) => some s
    | _ => none

/-- The nearest expression above that is an item of a projection. -/
def value? (p : Occurrence) : Option Expr :=
  p.trail.findSome? fun
    | (.item (.expr e _), _) => some e
    | _ => none

/-- The scope of an occurrence: that of the nearest `SELECT`. -/
def scope (p : Occurrence) : Scope :=
  match p.select? with
  | some s => Scope.ofTables s.tables
  | none => .empty

/-- The function around an occurrence: the nearest item, if it is a call. -/
def aggregate? (p : Occurrence) : Option String := p.value?.bind Expr.aggregate?

/-- **A contributing occurrence** names a column and is returned. -/
structure Contributes (marks : SourceMarks) (p : Occurrence) : Prop where
  column : p.node.isColumn marks
  returned : p.IsReturned

/-- A returned wildcard. -/
structure IsWildcard (p : Occurrence) : Prop where
  wildcard : p.node.isWildcard
  returned : p.IsReturned

/-- The references that an occurrence adds. -/
def references (marks : SourceMarks) (p : Occurrence) : List ColumnRef :=
  if p.IsReturned then p.node.ownReferences marks p.scope p.aggregate? else []

end Sql.Occurrence

/-! ### What is collected below a node -/

/-- The references of a statement: those of a query. -/
def Sql.Statement.references (marks : SourceMarks) : Statement → List ColumnRef
  | .query q => q.references marks
  | .other _ => []

namespace Sql.Node

variable {marks : SourceMarks} {scope : Scope} {aggregate : Option String}

/-- What is collected from a node in a scope and inside a function. -/
def collected (marks : SourceMarks) (scope : Scope) (aggregate : Option String) :
    Node → List ColumnRef
  | .script statements => statements.flatMap (Statement.references marks)
  | .statement s => s.references marks
  | .query q => q.references marks
  | .body b => b.references marks
  | .select s => s.references marks
  | .item i => i.references marks scope
  | .expr e => e.references marks scope aggregate
  | _ => []

/-- The scope below a node. -/
def scopeBelow (scope : Scope) : Node → Scope
  | .select s => Scope.ofTables s.tables
  | _ => scope

/-- The function around what is below a node. -/
def aggregateBelow (aggregate : Option String) : Node → Option String
  | .item (.expr e _) => e.aggregate?
  | _ => aggregate

/-- What is collected from a part, if it is returned. -/
def passed (marks : SourceMarks) (scope : Scope) (aggregate : Option String)
    (part : Role × Node) : List ColumnRef :=
  if part.1.isReturned then part.2.collected marks scope aggregate else []

@[simp]
theorem flatMap_passed_clauseParts (pieces : List Piece) :
    (clauseParts pieces).flatMap (passed marks scope aggregate) = [] := by
  rw [List.flatMap_eq_nil_iff]
  rintro ⟨role, n⟩ hp
  obtain ⟨e, -, rfl, -⟩ | ⟨q, -, rfl, -⟩ := mem_phraseParts.mp hp
  · rfl
  · rfl

@[simp]
theorem flatMap_passed_sources {α : Type} (wrap : α → Node) (xs : List α) :
    (xs.map fun a => (Role.source, wrap a)).flatMap (passed marks scope aggregate) = [] := by
  rw [List.flatMap_eq_nil_iff]
  intro part hp
  obtain ⟨a, -, rfl⟩ := List.mem_map.mp hp
  rfl

@[simp]
theorem flatMap_passed_operands (pieces : List Piece) :
    (operands pieces).flatMap (passed marks scope aggregate) =
      pieceReferences marks scope aggregate pieces := by
  induction pieces with
  | nil => rfl
  | cons piece rest ih =>
    rw [pieceReferences, ← ih]
    cases piece <;> rfl

@[simp]
theorem flatMap_passed_items (items : List SelectItem) :
    (items.map fun i => (Role.item, Node.item i)).flatMap (passed marks scope aggregate) =
      itemReferences marks scope items := by
  induction items with
  | nil => rfl
  | cons item rest ih =>
    rw [itemReferences, ← ih]
    rfl

/-- **Step**: what is collected from a node is what it refers to by itself, followed by what is
collected from its returned parts. -/
theorem collected_eq (n : Node) :
    n.collected marks scope aggregate = n.ownReferences marks scope aggregate ++
      n.parts.flatMap (passed marks (n.scopeBelow scope) (n.aggregateBelow aggregate)) := by
  -- one case for each kind of node; below a `SELECT` the scope changes, and below an item the
  -- function, everywhere else both are handed down
  cases n with
  | script statements =>
    rw [parts, List.flatMap_map]
    rfl
  | statement s =>
    cases s <;>
      simp [collected, ownReferences, parts, passed, Role.isReturned, Statement.references]
  | query q =>
    obtain ⟨w, b, orderBy, limit⟩ := q
    simp [collected, ownReferences, parts, passed, Role.isReturned, Query.references]
  | body b =>
    cases b <;>
      simp [collected, ownReferences, parts, passed, Role.isReturned, QueryBody.references]
  | select s =>
    obtain ⟨quantifier, projection, into, tables, filter, groupBy, having, windows, leads⟩ := s
    simp [collected, ownReferences, parts, scopeBelow, Select.references, Select.tables]
  | item i =>
    cases i <;>
      simp [collected, ownReferences, parts, passed, Role.isReturned, scopeBelow, aggregateBelow,
        SelectItem.references]
  | expr e =>
    cases e with
    | trim subject side what characters =>
      -- what is cut off is collected apart, since it may be missing
      cases what <;>
        simp [collected, ownReferences, parts, passed, Role.isReturned, scopeBelow, aggregateBelow,
          Expr.references]
    | _ =>
      simp [collected, ownReferences, parts, passed, Role.isReturned, scopeBelow, aggregateBelow,
        Expr.references]
  | joined t =>
    obtain ⟨first, joins⟩ := t
    simp [collected, ownReferences, parts, passed, Role.isReturned]
  | join j =>
    obtain ⟨kind, second, condition⟩ := j
    simp [collected, ownReferences, parts, passed, Role.isReturned]
  | relation r =>
    cases r <;> simp [collected, ownReferences, parts, passed, Role.isReturned]

end Sql.Node

/-! ### What is collected below an occurrence -/

namespace Sql.Occurrence

variable {marks : SourceMarks}

/-- What is collected from an occurrence, in its scope and inside the function around it. -/
def collected (marks : SourceMarks) (p : Occurrence) : List ColumnRef :=
  p.node.collected marks p.scope p.aggregate?

theorem scope_part (p : Occurrence) (i : Nat) (r : Role × Node) :
    (p.part i r).scope = p.node.scopeBelow p.scope := by
  obtain ⟨a, t, n⟩ := p
  cases n <;> rfl

theorem aggregate?_part (p : Occurrence) (i : Nat) (r : Role × Node) :
    (p.part i r).aggregate? = p.node.aggregateBelow p.aggregate? := by
  obtain ⟨a, t, n⟩ := p
  cases n with
  | item i => cases i <;> rfl
  | _ => rfl

theorem isReturned_part (p : Occurrence) (i : Nat) (r : Role × Node) :
    (p.part i r).IsReturned ↔ r.1.isReturned ∧ p.IsReturned :=
  List.forall_mem_cons

/-- **Run**: the references of the occurrences at and below a returned one are what is collected
from it, and below one that is not returned there are none. -/
theorem flatMap_references_below (p : Occurrence) :
    p.below.flatMap (references marks) = if p.IsReturned then p.collected marks else [] := by
  induction p using induction with
  | step p ih =>
  rw [below_eq, List.flatMap_cons, List.flatMap_assoc, List.flatMap_congr ih]
  by_cases hp : p.IsReturned
  · rw [if_pos hp, references, if_pos hp, collected, Node.collected_eq]
    congr 1
    -- a part that is returned adds what is collected from it, and any other nothing
    refine flatMap_parts fun i r => ?_
    simp only [isReturned_part, hp, and_true, collected, scope_part, aggregate?_part]
    rfl
  · rw [if_neg hp, references, if_neg hp, List.nil_append, List.flatMap_eq_nil_iff]
    intro c hc
    obtain ⟨i, r, -, rfl⟩ := mem_parts hc
    -- the way to the part begins with the way to its node
    exact if_neg fun h => hp ((isReturned_part p i r).mp h).2

theorem isReturned_root (statements : List Statement) : (root statements).IsReturned :=
  List.forall_mem_nil _

/-- A contributing occurrence adds one reference: to what it names, inside the function around
it. -/
theorem references_of_contributes {p : Occurrence} (h : p.Contributes marks) :
    ∃ source column, p.node.Names marks p.scope source column ∧
      p.references marks = [⟨p.aggregate?, source, column⟩] := by
  obtain ⟨source, column, names⟩ := Node.exists_names_of_isColumn p.scope h.column
  refine ⟨source, column, names, ?_⟩
  rw [references, if_pos h.returned, names.ownReferences_eq]

/-- A returned wildcard adds one reference for each of its tables. -/
theorem references_of_isWildcard {p : Occurrence} (h : p.IsWildcard) :
    ∃ tables, p.node.StandsFor p.scope tables ∧
      p.references marks = tables.map (ColumnRef.plain · "*") := by
  obtain ⟨tables, standsFor⟩ := Node.exists_standsFor_of_isWildcard p.scope h.wildcard
  refine ⟨tables, standsFor, ?_⟩
  rw [references, if_pos h.returned, standsFor.ownReferences_eq]

/-- Neither a contributing occurrence nor a returned wildcard: nothing is added. -/
theorem references_of_not {p : Occurrence} (hc : ¬ p.Contributes marks) (hw : ¬ p.IsWildcard) :
    p.references marks = [] := by
  rw [references]
  split_ifs with hp
  · refine Node.ownReferences_eq_nil (fun h => hc ⟨h, hp⟩) (fun h => hw ⟨h, hp⟩)
  · rfl

/-! ### Where contributing occurrences lie -/

/-- What is above a returned occurrence is returned. -/
theorem isReturned_of_mem_below {p q : Occurrence} (h : q ∈ p.below) (hq : q.IsReturned) :
    p.IsReturned := by
  induction p using induction with
  | step p ih =>
  rw [below_eq, List.mem_cons, List.mem_flatMap] at h
  obtain rfl | ⟨c, hc, h⟩ := h
  · exact hq
  · obtain ⟨i, r, -, rfl⟩ := mem_parts hc
    exact ((isReturned_part p i r).mp (ih _ hc h)).2

/-- An item lies in a `SELECT`, and an expression in an item that is one. -/
def IsPlaced (p : Occurrence) : Prop :=
  match p.node with
  | .item _ => p.select?.isSome
  | .expr _ => p.select?.isSome ∧ p.value?.isSome
  | _ => True

theorem isPlaced_part {p : Occurrence} (hp : p.IsPlaced) {r : Role × Node} (hm : r ∈ p.node.parts)
    (hr : r.1.isReturned) (i : Nat) : (p.part i r).IsPlaced := by
  obtain ⟨a, t, n⟩ := p
  obtain ⟨role, m⟩ := r
  cases m with
  -- the step itself comes from the `SELECT`, or from the item, or stays inside an expression
  | item i =>
    obtain ⟨s, rfl⟩ := Node.eq_select_of_mem_parts hm
    rfl
  | expr e =>
    obtain ⟨v, as, rfl⟩ | ⟨v, rfl⟩ := Node.eq_item_of_mem_parts hm hr
    · exact ⟨hp, rfl⟩
    · exact hp
  | _ => trivial

/-- On the way down through returned parts, items stay in a `SELECT` and expressions in an item. -/
theorem isPlaced_of_mem_below {p q : Occurrence} (h : q ∈ p.below) (hp : p.IsPlaced)
    (hq : q.IsReturned) : q.IsPlaced := by
  induction p using induction with
  | step p ih =>
  rw [below_eq, List.mem_cons, List.mem_flatMap] at h
  obtain rfl | ⟨c, hc, h⟩ := h
  · exact hp
  · have returned := isReturned_of_mem_below h hq
    obtain ⟨i, r, hr, rfl⟩ := mem_parts hc
    exact ih _ hc h (isPlaced_part hp hr ((isReturned_part p i r).mp returned).1 i)

/-- A contributing occurrence in the trees of statements lies inside an expression that is an item
of a `SELECT`. -/
theorem Contributes.placed {statements : List Statement} {p : Occurrence}
    (h : p.Contributes marks) (hp : p ∈ (root statements).below) :
    p.select?.isSome ∧ p.value?.isSome := by
  have placed := isPlaced_of_mem_below hp trivial h.returned
  obtain ⟨e, he⟩ := Node.exists_expr_of_isColumn h.column
  rwa [IsPlaced, he] at placed

end Sql.Occurrence

/-! ### The columns of statements -/

/-- The statement is a query. -/
def Sql.Statement.isQuery : Statement → Bool
  | .query _ => true
  | .other _ => false

section Statements

variable {marks : SourceMarks} {statements : List Statement}

theorem statementReferences_of_queries (h : ∀ s ∈ statements, s.isQuery) :
    statementReferences marks statements =
      .ok (statements.flatMap (Statement.references marks)) := by
  induction statements with
  | nil => rfl
  | cons s rest ih =>
    obtain ⟨hs, hrest⟩ := List.forall_mem_cons.mp h
    cases s with
    | query q =>
      rw [statementReferences, ih hrest]
      rfl
    | other pieces => cases hs

theorem statementReferences_of_find? {s : Statement}
    (h : statements.find? (fun s => !s.isQuery) = some s) :
    statementReferences marks statements =
      .error (.unsupported ("expected SELECT, got: " ++ s.render)) := by
  induction statements with
  | nil => cases h
  | cons first rest ih =>
    cases first with
    | query q =>
      rw [statementReferences, ih (by simpa [Statement.isQuery] using h)]
      rfl
    | other pieces =>
      -- this is the first one
      obtain rfl : Statement.other pieces = s := by simpa [Statement.isQuery] using h
      rfl

theorem isQuery_of_statementReferences {columns : List ColumnRef}
    (h : statementReferences marks statements = .ok columns) : ∀ s ∈ statements, s.isQuery := by
  cases hf : statements.find? (fun s => !s.isQuery) with
  | none =>
    intro s hs
    simpa using List.find?_eq_none.mp hf s hs
  | some s =>
    rw [statementReferences_of_find? hf] at h
    cases h

/-- Columns are found if all statements are queries, and then they are those of one statement after
another. -/
theorem statementReferences_eq_ok_iff {columns : List ColumnRef} :
    statementReferences marks statements = .ok columns ↔
      (∀ s ∈ statements, s.isQuery) ∧
        statements.flatMap (Statement.references marks) = columns := by
  constructor
  · intro h
    have hq := isQuery_of_statementReferences h
    rw [statementReferences_of_queries hq] at h
    exact ⟨hq, Except.ok.inj h⟩
  · rintro ⟨hq, rfl⟩
    exact statementReferences_of_queries hq

/-- **Exact extraction**: statements are read as a whole, and the columns are those of the
occurrences that contribute, in the order of the syntax, together with the wildcards. -/
structure ExtractsExactly (marks : SourceMarks) (statements : List Statement) : Prop where
  /-- The columns of a text are those of the statements that are parsed from it. -/
  parsed : ∀ dialect text, parseStatements dialect text = .ok statements →
    sqlColumns dialect marks text = statementReferences marks statements
  /-- Columns are found if all statements are queries, and only then. -/
  succeeds : (∃ columns, statementReferences marks statements = .ok columns) ↔
    ∀ s ∈ statements, s.isQuery
  /-- The first statement that is no query is the error, wherever it stands. -/
  fails : ∀ s, statements.find? (fun s => !s.isQuery) = some s →
    statementReferences marks statements =
      .error (.unsupported ("expected SELECT, got: " ++ s.render))
  /-- The columns are those of all occurrences, one after another. -/
  listed : ∀ columns, statementReferences marks statements = .ok columns →
    columns = (Occurrence.root statements).below.flatMap (·.references marks)
  /-- All occurrences in the trees of the statements are looked at, in the order of the syntax. -/
  traversed : (Occurrence.root statements).Traverses (Occurrence.root statements).below
  /-- A contributing occurrence lies inside an expression that is an item of a `SELECT`. -/
  inside : ∀ p ∈ (Occurrence.root statements).below, p.Contributes marks →
    p.select?.isSome ∧ p.value?.isSome
  /-- It adds one reference: to the column that it names in its scope, inside the function around
  it. -/
  one : ∀ p ∈ (Occurrence.root statements).below, p.Contributes marks →
    ∃ source column, p.node.Names marks p.scope source column ∧
      p.references marks = [⟨p.aggregate?, source, column⟩]
  /-- A returned wildcard adds one reference for each of its tables, outside of any function. -/
  wildcards : ∀ p ∈ (Occurrence.root statements).below, p.IsWildcard →
    ∃ tables, p.node.StandsFor p.scope tables ∧
      p.references marks = tables.map (ColumnRef.plain · "*")
  /-- Nothing else adds any. -/
  others : ∀ p ∈ (Occurrence.root statements).below, ¬ p.Contributes marks → ¬ p.IsWildcard →
    p.references marks = []

/-- Every list of statements is read exactly. -/
theorem statementReferences_exact (marks : SourceMarks) (statements : List Statement) :
    ExtractsExactly marks statements where
  parsed dialect text h := by rw [sqlColumns, h]
  succeeds :=
    ⟨fun ⟨_, hc⟩ => isQuery_of_statementReferences hc,
      fun h => ⟨_, statementReferences_of_queries h⟩⟩
  fails _ := statementReferences_of_find?
  listed columns hc := by
    have hq := isQuery_of_statementReferences hc
    -- the script is returned, and what is collected from it is what was found
    rw [statementReferences_of_queries hq] at hc
    rw [Occurrence.flatMap_references_below, if_pos (Occurrence.isReturned_root statements)]
    exact (Except.ok.inj hc).symm
  traversed := Occurrence.traverses_below _
  inside _ hp h := h.placed hp
  one _ _ := Occurrence.references_of_contributes
  wildcards _ _ := Occurrence.references_of_isWildcard
  others _ _ := Occurrence.references_of_not

end Statements

end RowShape
