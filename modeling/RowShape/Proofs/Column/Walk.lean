import RowShape.Proofs.Column.Extraction

/-!
# Walks through expressions

The references of an expression can also be read in one walk through everything that it holds, the
nested queries with all their clauses included.  A counter tells how many queries are open: what is
come across counts only while none is.  A scalar subquery is read apart when the walk comes to it,
with walks of its own, and is then walked through like any other query.

That nothing is read twice, missed, or read in the scope of an outer query is a matter of the
counter: a query leaves it as it was, whatever the query holds, so between the operands of one
expression it always stands at zero.

## Main definitions

* `Walk`: how many queries are open, and what has been found
* `Node.walk`: a walk through everything below a node
* `Query.walked`: the references of a query, read in walks

## Main results

* `Node.walk_of_open`: while a query is open, a walk finds nothing and comes back to the same depth
* `Node.walk_expr`: a walk through an expression finds the references of the expression
* `Query.walked_eq`: reading in walks finds the references of a query
-/

namespace RowShape

open Sql

/-- The state of a walk. -/
structure Walk where
  /-- How many queries are open. -/
  depth : Nat
  /-- The references that have been found. -/
  found : List ColumnRef

namespace Walk

/-- No query is open and nothing has been found. -/
def start : Walk := ⟨0, []⟩

/-- A query is entered. -/
def enter (w : Walk) : Walk := { w with depth := w.depth + 1 }

/-- A query is left. -/
def leave (w : Walk) : Walk := { w with depth := w.depth - 1 }

/-- References are come across, which count if no query is open. -/
def add (w : Walk) (references : List ColumnRef) : Walk :=
  if 0 < w.depth then w else { w with found := w.found ++ references }

theorem leave_enter (w : Walk) : w.enter.leave = w := rfl

theorem depth_enter_pos (w : Walk) : 0 < w.enter.depth := Nat.succ_pos _

theorem add_of_open {w : Walk} (h : 0 < w.depth) (references : List ColumnRef) :
    w.add references = w := if_pos h

@[simp]
theorem add_nil (w : Walk) : w.add [] = w := by
  rw [add, List.append_nil]
  split <;> rfl

theorem add_append (w : Walk) (rs ss : List ColumnRef) : w.add (rs ++ ss) = (w.add rs).add ss := by
  by_cases h : 0 < w.depth
  · simp only [add_of_open h]
  · simp [add, h]

theorem found_start_add (rs : List ColumnRef) : (start.add rs).found = rs := rfl

/-- References that are come across one after another. -/
theorem foldl_add {α : Type} {f : Walk → α → Walk} {g : α → List ColumnRef} (xs : List α)
    (h : ∀ x ∈ xs, ∀ w, f w x = w.add (g x)) (w : Walk) :
    xs.foldl f w = w.add (xs.flatMap g) := by
  induction xs generalizing w with
  | nil => exact w.add_nil.symm
  | cons x xs ih =>
    obtain ⟨hx, hxs⟩ := List.forall_mem_cons.mp h
    rw [List.foldl_cons, hx, ih hxs, List.flatMap_cons, add_append]

end Walk

/-! ### Walks -/

namespace Sql

theorem sizeOf_lt_of_mem_projection {s : Select} {i : SelectItem} (h : i ∈ s.projection) :
    sizeOf i < sizeOf s := by
  obtain ⟨quantifier, projection, into, tables, filter, groupBy, having, windows, leads⟩ := s
  have small := List.sizeOf_lt_of_mem h
  simp only [Select.projection, Select.mk.sizeOf_spec] at small ⊢
  omega

theorem sizeOf_expr_lt (e : Expr) (aliased : Option Ident) :
    sizeOf (Node.expr e) < sizeOf (SelectItem.expr e aliased) := by
  cases aliased <;> simp +arith

mutual

/-- The references of a query, read in walks. -/
def Query.walked (marks : SourceMarks) : Query → List ColumnRef
  | .mk _ b _ _ => b.walked marks
termination_by q => sizeOf q

/-- The references of what a query returns, read in walks. -/
def QueryBody.walked (marks : SourceMarks) : QueryBody → List ColumnRef
  | .select s => s.walked marks
  | .nested q => q.walked marks
  | .setOperation left _ right => left.walked marks ++ right.walked marks
  | .other _ => []
termination_by b => sizeOf b

/-- The references of a `SELECT`, read in walks. -/
def Select.walked (marks : SourceMarks) (s : Select) : List ColumnRef :=
  s.projection.attach.flatMap fun i => i.1.walked marks (Scope.ofTables s.tables)
termination_by sizeOf s
decreasing_by exact sizeOf_lt_of_mem_projection i.2

/-- The references of an item, read in a walk if the item is an expression. -/
def SelectItem.walked (marks : SourceMarks) (scope : Scope) : SelectItem → List ColumnRef
  | .expr e _ => ((Node.expr e).walk marks scope e.aggregate? .start).found
  | .wildcard _ => scope.tables.map (ColumnRef.plain · "*")
  | .qualifiedWildcard name _ => [.plain (scope.sourceFor name.baseName) "*"]
  | .exprWildcard _ _ => []
termination_by i => sizeOf i
decreasing_by exact sizeOf_expr_lt _ _

/-- A walk through a node and everything below it.  A scalar subquery is read when the walk comes to
it, and walked through afterwards. -/
def Node.walk (marks : SourceMarks) (scope : Scope) (aggregate : Option String) (n : Node)
    (w : Walk) : Walk :=
  -- nothing is left out below, not even where nothing can count
  let inside := fun w => n.parts.attach.foldl (fun w part =>
    part.1.2.walk marks scope aggregate w) w
  match _h : n with
  | .query _ => (inside w.enter).leave
  | .expr (.scalar q) => inside (w.add (q.walked marks))
  | .expr e => inside (w.add ((Node.expr e).ownReferences marks scope aggregate))
  | _ => inside w
termination_by sizeOf n
decreasing_by
  · exact Node.sizeOf_lt_of_mem_parts n _ part.2
  · subst _h
    simp +arith

end

namespace Node

variable {marks : SourceMarks} {scope : Scope} {aggregate : Option String}

/-- A walk through everything below a node. -/
def walkParts (marks : SourceMarks) (scope : Scope) (aggregate : Option String) (n : Node)
    (w : Walk) : Walk :=
  n.parts.foldl (fun w part => part.2.walk marks scope aggregate w) w

theorem foldl_attach_parts (n : Node) (w : Walk) :
    n.parts.attach.foldl (fun w part => part.1.2.walk marks scope aggregate w) w =
      n.walkParts marks scope aggregate w :=
  List.foldl_attach (f := fun w (part : Role × Node) => part.2.walk marks scope aggregate w)

theorem walk_query_eq (q : Query) (w : Walk) :
    (Node.query q).walk marks scope aggregate w =
      ((Node.query q).walkParts marks scope aggregate w.enter).leave := by
  simp only [walk, foldl_attach_parts]

theorem walk_scalar_eq (q : Query) (w : Walk) :
    (Node.expr (.scalar q)).walk marks scope aggregate w =
      (Node.expr (.scalar q)).walkParts marks scope aggregate (w.add (q.walked marks)) := by
  simp only [walk, foldl_attach_parts]

theorem walk_expr_eq {e : Expr} (h : ∀ q, e ≠ .scalar q) (w : Walk) :
    (Node.expr e).walk marks scope aggregate w = (Node.expr e).walkParts marks scope aggregate
      (w.add ((Node.expr e).ownReferences marks scope aggregate)) := by
  rw [walk]
  · simp only [foldl_attach_parts]
  · exact h

/-- **While a query is open, a walk finds nothing and comes back to the same depth.** -/
theorem walk_of_open (n : Node) {w : Walk} (hw : 0 < w.depth) :
    n.walk marks scope aggregate w = w := by
  induction n using Node.induction generalizing w with
  | step n ih =>
  have inside : ∀ w : Walk, 0 < w.depth → n.walkParts marks scope aggregate w = w := by
    intro w hw
    rw [walkParts, ← List.foldl_attach]
    exact List.foldl_fixed' (fun part => ih part.1 part.2 hw) _
  -- whatever the node is, its parts are walked through with a query open
  unfold walk
  simp only [foldl_attach_parts]
  split
  · rw [inside _ w.depth_enter_pos, w.leave_enter]
  · rw [w.add_of_open hw, inside w hw]
  · rw [w.add_of_open hw, inside w hw]
  · exact inside w hw

theorem walkParts_of_open (n : Node) {w : Walk} (hw : 0 < w.depth) :
    n.walkParts marks scope aggregate w = w := by
  rw [walkParts]
  exact List.foldl_fixed' (fun part => part.2.walk_of_open hw) _

/-- **A walk through a query finds nothing**, whatever the query holds, and leaves no query open. -/
theorem walk_query (q : Query) (w : Walk) : (Node.query q).walk marks scope aggregate w = w := by
  rw [walk_query_eq, walkParts_of_open _ w.depth_enter_pos, w.leave_enter]

/-! ### What walks find -/

/-- The parts of an expression are operands and, unless it is a scalar subquery, queries that stand
for no value of it. -/
theorem eq_of_mem_parts_expr {e : Expr} (hs : ∀ q, e ≠ .scalar q) {part : Role × Node}
    (h : part ∈ (Node.expr e).parts) :
    (∃ o, part = (.operand, .expr o)) ∨ ∃ q, part = (.subquery, .query q) := by
  obtain ⟨role, n⟩ := part
  cases e with
  | scalar q => exact absurd rfl (hs q)
  | _ => grind [parts, mem_phraseParts]

/-- What reading in walks finds at a node is what is collected from it. -/
def IsWalked (marks : SourceMarks) : Node → Prop
  | .query q => q.walked marks = q.references marks
  | .body b => b.walked marks = b.references marks
  | .select s => s.walked marks = s.references marks
  | .item i => ∀ scope, i.walked marks scope = i.references marks scope
  | .expr e => ∀ scope aggregate w,
    (Node.expr e).walk marks scope aggregate w = w.add (e.references marks scope aggregate)
  | _ => True

/-- The operands of an expression are come across one after another, and its queries in between
leave no trace. -/
theorem walkParts_expr {e : Expr} (hs : ∀ q, e ≠ .scalar q)
    (ih : ∀ part ∈ (Node.expr e).parts, part.2.IsWalked marks) (w : Walk) :
    (Node.expr e).walkParts marks scope aggregate w =
      w.add ((Node.expr e).parts.flatMap (passed marks scope aggregate)) := by
  refine Walk.foldl_add _ (fun part hp w => ?_) w
  rcases eq_of_mem_parts_expr hs hp with ⟨o, rfl⟩ | ⟨q, rfl⟩
  · exact ih _ hp scope aggregate w
  · rw [walk_query]
    exact w.add_nil.symm

theorem itemReferences_eq (items : List SelectItem) :
    itemReferences marks scope items = items.flatMap (·.references marks scope) := by
  induction items with
  | nil => rfl
  | cons item rest ih => rw [itemReferences, ih, List.flatMap_cons]

/-- **Step**: what is read in walks at a node is collected from it, if that is so at its parts. -/
theorem isWalked_of_parts {n : Node} (ih : ∀ part ∈ n.parts, part.2.IsWalked marks) :
    n.IsWalked marks := by
  cases n with
  | query q =>
    obtain ⟨withClause, b, orderBy, limit⟩ := q
    have body : (Node.body b).IsWalked marks := ih (.body, .body b) (by simp [parts])
    rwa [IsWalked, Query.walked, Query.references]
  | body b =>
    rw [IsWalked]
    cases b with
    | select s =>
      rw [QueryBody.walked, QueryBody.references]
      exact ih (.select, .select s) (by simp [parts])
    | nested q =>
      rw [QueryBody.walked, QueryBody.references]
      exact ih (.parenthesised, .query q) (by simp [parts])
    | setOperation left operator right =>
      have hl : (Node.body left).IsWalked marks := ih (.branch, .body left) (by simp [parts])
      have hr : (Node.body right).IsWalked marks := ih (.branch, .body right) (by simp [parts])
      rw [QueryBody.walked, QueryBody.references, hl, hr]
    | other pieces => rw [QueryBody.walked, QueryBody.references]
  | select s =>
    obtain ⟨quantifier, projection, into, tables, filter, groupBy, having, windows, leads⟩ := s
    -- the items are read in the scope of this `SELECT`, whatever stands around it
    have items : ∀ i ∈ projection, (Node.item i).IsWalked marks :=
      fun i hi => ih (.item, .item i) (by simp [parts, hi])
    rw [IsWalked, Select.walked, Select.references, itemReferences_eq,
      List.flatMap_subtype (g := fun i => i.walked marks (Scope.ofTables tables)) fun _ _ => rfl,
      List.unattach_attach]
    exact List.flatMap_congr fun i hi => items i hi _
  | item i =>
    intro scope
    cases i with
    | expr e aliased =>
      -- the walk begins with no query open, so that all of it counts
      have walked : (Node.expr e).IsWalked marks := ih (.value, .expr e) (by simp [parts])
      rw [SelectItem.walked, walked, Walk.found_start_add, SelectItem.references]
    | _ => rw [SelectItem.walked, SelectItem.references]
  | expr e =>
    intro scope aggregate w
    by_cases hs : ∃ q, e = .scalar q
    · -- the subquery is read apart, and walking through it afterwards adds nothing
      obtain ⟨q, rfl⟩ := hs
      have query : (Node.query q).IsWalked marks := ih (.scalar, .query q) (by simp [parts])
      rw [walk_scalar_eq, query]
      exact walk_query q _
    · have hs : ∀ q, e ≠ .scalar q := fun q h => hs ⟨q, h⟩
      have collected : (Node.expr e).collected marks scope aggregate = _ := collected_eq _
      rw [walk_expr_eq hs, walkParts_expr hs ih, ← Walk.add_append]
      exact congrArg w.add collected.symm
  | _ => trivial

theorem isWalked (n : Node) : n.IsWalked marks := by
  induction n using Node.induction with
  | step n ih => exact isWalked_of_parts ih

/-- **A walk through an expression finds the references of the expression**, and leaves no query
open. -/
theorem walk_expr (e : Expr) (w : Walk) :
    (Node.expr e).walk marks scope aggregate w = w.add (e.references marks scope aggregate) :=
  isWalked (.expr e) scope aggregate w

end Node

/-- **Run**: reading a query in walks finds the references of the query. -/
theorem Query.walked_eq (marks : SourceMarks) (q : Query) : q.walked marks = q.references marks :=
  Node.isWalked (.query q)

/-- The references of a statement, read in walks: those of a query. -/
def Statement.walked (marks : SourceMarks) : Statement → List ColumnRef
  | .query q => q.walked marks
  | .other _ => []

theorem Statement.walked_eq (marks : SourceMarks) (s : Statement) :
    s.walked marks = s.references marks := by
  cases s with
  | query q => exact q.walked_eq marks
  | other => rfl

end Sql

end RowShape
