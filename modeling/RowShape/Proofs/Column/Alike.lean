import RowShape.Proofs.Column.Walk
import Mathlib.Data.List.Forall2

/-!
# Statements that return alike

Most of what is written in a query does not shape its rows: common table expressions, conditions,
grouping, order and limits, how tables are joined, what derived tables are made of, and every query
inside an expression that stands for no value of it.  Two trees are alike if they differ in such
parts only, at however many places: there is one rule for every constructor of the syntax, and what
does not shape the rows is free in it.

Parts that shape the rows have to be alike in turn.  That leads from a query into its branches, into
the operands of its items and through scalar subqueries, but never into a query under `EXISTS` or
`IN`, into an argument or below `FROM`, where any two trees will do.

## Main definitions

* `Relation.Alike`: relations that bring the same tables into scope
* `Expr.Alike`, `Query.Alike`, `Statement.Alike`: trees that differ in unreturned parts only
* `ReadAlike`: what reading alike statements has in common

## Main results

* `Query.Alike.refl`: a query is like itself
* `scope_eq_of_alike`: alike `FROM` clauses have one scope
* `Query.Alike.references_eq`: alike queries have the same references
* `readAlike_of_alike`: alike statements are read alike
-/

namespace RowShape

open Sql

namespace Sql

/-! ### `FROM` clauses -/

mutual

/-- Relations that are alike: the same tables under the same names.  What is said about a table
besides, and what a derived table is made of, is free. -/
inductive Relation.Alike : Relation → Relation → Prop
  | table {name : QualifiedName} {aliased : Option TableAlias}
      {details details' hints hints' : List Piece} :
      Relation.Alike (.table name details aliased hints) (.table name details' aliased hints')
  | nested {aliased : Option TableAlias} {tables tables' : JoinedTable} :
      JoinedTable.Alike tables tables' →
      Relation.Alike (.nested tables aliased) (.nested tables' aliased)
  | derived {aliased : Option TableAlias} {pieces pieces' : List Piece} :
      Relation.Alike (.derived pieces aliased) (.derived pieces' aliased)

/-- Joined tables that are alike. -/
inductive JoinedTable.Alike : JoinedTable → JoinedTable → Prop
  | mk {first first' : Relation} {joins joins' : List Join} :
      Relation.Alike first first' → JoinsAlike joins joins' →
      JoinedTable.Alike (.mk first joins) (.mk first' joins')

/-- Joins that are alike.  Conditions are free, and with them the kinds of joins, which tell of
conditions that are not written out. -/
inductive JoinsAlike : List Join → List Join → Prop
  | nil : JoinsAlike [] []
  | cons {kind kind' : String} {second second' : Relation} {condition condition' : List Piece}
      {joins joins' : List Join} :
      Relation.Alike second second' → JoinsAlike joins joins' →
      JoinsAlike (.mk kind second condition :: joins) (.mk kind' second' condition' :: joins')

end

/-! ### Queries -/

mutual

/-- Expressions that are alike: the same names, values and calls of alike operands. -/
inductive Expr.Alike : Expr → Expr → Prop
  | ident {name : Ident} : Expr.Alike (.ident name) (.ident name)
  | compound {parts : List Ident} : Expr.Alike (.compound parts) (.compound parts)
  | literal {value : Literal} : Expr.Alike (.literal value) (.literal value)
  | binary {left left' right right' : Expr} {operator : String} :
      Expr.Alike left left' → Expr.Alike right right' →
      Expr.Alike (.binary left operator right) (.binary left' operator right')
  | scalar {q q' : Query} : Query.Alike q q' → Expr.Alike (.scalar q) (.scalar q')
  | call {name : QualifiedName}
      {arguments arguments' options options' withinGroup withinGroup' : List Piece} :
      PiecesAlike arguments arguments' → PiecesAlike options options' →
      PiecesAlike withinGroup withinGroup' →
      Expr.Alike (.call name arguments options withinGroup)
        (.call name arguments' options' withinGroup')
  | trim {subject subject' : Expr} {side : Option String} {characters characters' : List Piece} :
      Expr.Alike subject subject' → PiecesAlike characters characters' →
      Expr.Alike (.trim subject side none characters) (.trim subject' side none characters')
  | trimWhat {subject subject' what what' : Expr} {side : Option String}
      {characters characters' : List Piece} :
      Expr.Alike subject subject' → Expr.Alike what what' → PiecesAlike characters characters' →
      Expr.Alike (.trim subject side (some what) characters)
        (.trim subject' side (some what') characters')
  | optionalSide {e e' : Expr} : Expr.Alike e e' → Expr.Alike (.optionalSide e) (.optionalSide e')
  | phrase {pieces pieces' : List Piece} :
      PiecesAlike pieces pieces' → Expr.Alike (.phrase pieces) (.phrase pieces')

/-- Phrases that are alike.  In the place of a query under `EXISTS` or `IN`, or as an argument, any
other may stand. -/
inductive PiecesAlike : List Piece → List Piece → Prop
  | nil : PiecesAlike [] []
  | text {s : String} {rest rest' : List Piece} :
      PiecesAlike rest rest' → PiecesAlike (.text s :: rest) (.text s :: rest')
  | expr {e e' : Expr} {rest rest' : List Piece} :
      Expr.Alike e e' → PiecesAlike rest rest' → PiecesAlike (.expr e :: rest) (.expr e' :: rest')
  | query {q q' : Query} {rest rest' : List Piece} :
      PiecesAlike rest rest' → PiecesAlike (.query q :: rest) (.query q' :: rest')

/-- Queries that are alike.  The clauses around their bodies are free. -/
inductive Query.Alike : Query → Query → Prop
  | mk {withClause withClause' orderBy orderBy' limit limit' : List Piece}
      {body body' : QueryBody} :
      QueryBody.Alike body body' →
      Query.Alike (.mk withClause body orderBy limit) (.mk withClause' body' orderBy' limit')

/-- Bodies that are alike.  Rows that come from no `SELECT` are free. -/
inductive QueryBody.Alike : QueryBody → QueryBody → Prop
  | select {s s' : Select} : Select.Alike s s' → QueryBody.Alike (.select s) (.select s')
  | nested {q q' : Query} : Query.Alike q q' → QueryBody.Alike (.nested q) (.nested q')
  | setOperation {left left' right right' : QueryBody} {operator : String} :
      QueryBody.Alike left left' → QueryBody.Alike right right' →
      QueryBody.Alike (.setOperation left operator right) (.setOperation left' operator right')
  | other {pieces pieces' : List Piece} : QueryBody.Alike (.other pieces) (.other pieces')

/-- `SELECT`s that are alike: alike items of alike tables.  All other clauses are free. -/
inductive Select.Alike : Select → Select → Prop
  | mk {quantifier quantifier' into into' filter filter' groupBy groupBy' having having' windows
        windows' : List Piece} {fromLeads : Bool}
      {items items' : List SelectItem} {tables tables' : List JoinedTable} :
      ItemsAlike items items' → List.Forall₂ JoinedTable.Alike tables tables' →
      Select.Alike (.mk quantifier items into tables filter groupBy having windows fromLeads)
        (.mk quantifier' items' into' tables' filter' groupBy' having' windows' fromLeads)

/-- Items that are alike.  The options of wildcards are free, and so is the expression before
`.*`. -/
inductive ItemsAlike : List SelectItem → List SelectItem → Prop
  | nil : ItemsAlike [] []
  | expr {e e' : Expr} {aliased : Option Ident} {rest rest' : List SelectItem} :
      Expr.Alike e e' → ItemsAlike rest rest' →
      ItemsAlike (.expr e aliased :: rest) (.expr e' aliased :: rest')
  | wildcard {options options' : List Piece} {rest rest' : List SelectItem} :
      ItemsAlike rest rest' → ItemsAlike (.wildcard options :: rest) (.wildcard options' :: rest')
  | qualifiedWildcard {name : QualifiedName} {options options' : List Piece}
      {rest rest' : List SelectItem} :
      ItemsAlike rest rest' →
      ItemsAlike (.qualifiedWildcard name options :: rest)
        (.qualifiedWildcard name options' :: rest')
  | exprWildcard {e e' : Expr} {options options' : List Piece} {rest rest' : List SelectItem} :
      ItemsAlike rest rest' →
      ItemsAlike (.exprWildcard e options :: rest) (.exprWildcard e' options' :: rest')

end

/-- Statements that are alike.  Those that are no queries return nothing and are free. -/
inductive Statement.Alike : Statement → Statement → Prop
  | query {q q' : Query} : q.Alike q' → Statement.Alike (.query q) (.query q')
  | other {pieces pieces' : List Piece} : Statement.Alike (.other pieces) (.other pieces')

/-! ### Every tree is like itself -/

mutual

theorem Relation.Alike.refl : (r : Relation) → r.Alike r
  | .table _ _ _ _ => .table
  | .nested tables _ => .nested (JoinedTable.Alike.refl tables)
  | .derived _ _ => .derived

theorem JoinedTable.Alike.refl : (t : JoinedTable) → t.Alike t
  | .mk first joins => .mk (Relation.Alike.refl first) (JoinsAlike.refl joins)

theorem JoinsAlike.refl : (joins : List Join) → JoinsAlike joins joins
  | [] => .nil
  | .mk _ second _ :: rest => .cons (Relation.Alike.refl second) (JoinsAlike.refl rest)

end

mutual

theorem Expr.Alike.refl : (e : Expr) → e.Alike e
  | .ident _ => .ident
  | .compound _ => .compound
  | .literal _ => .literal
  | .binary left _ right => .binary (Expr.Alike.refl left) (Expr.Alike.refl right)
  | .scalar q => .scalar (Query.Alike.refl q)
  | .call _ arguments options withinGroup =>
    .call (PiecesAlike.refl arguments) (PiecesAlike.refl options) (PiecesAlike.refl withinGroup)
  | .trim subject _ none characters =>
    .trim (Expr.Alike.refl subject) (PiecesAlike.refl characters)
  | .trim subject _ (some what) characters =>
    .trimWhat (Expr.Alike.refl subject) (Expr.Alike.refl what) (PiecesAlike.refl characters)
  | .optionalSide e => .optionalSide (Expr.Alike.refl e)
  | .phrase pieces => .phrase (PiecesAlike.refl pieces)

theorem PiecesAlike.refl : (pieces : List Piece) → PiecesAlike pieces pieces
  | [] => .nil
  | .text _ :: rest => .text (PiecesAlike.refl rest)
  | .expr e :: rest => .expr (Expr.Alike.refl e) (PiecesAlike.refl rest)
  | .query _ :: rest => .query (PiecesAlike.refl rest)

theorem Query.Alike.refl : (q : Query) → q.Alike q
  | .mk _ b _ _ => .mk (QueryBody.Alike.refl b)

theorem QueryBody.Alike.refl : (b : QueryBody) → b.Alike b
  | .select s => .select (Select.Alike.refl s)
  | .nested q => .nested (Query.Alike.refl q)
  | .setOperation left _ right =>
    .setOperation (QueryBody.Alike.refl left) (QueryBody.Alike.refl right)
  | .other _ => .other

theorem Select.Alike.refl : (s : Select) → s.Alike s
  | .mk _ items _ _ _ _ _ _ _ =>
    .mk (ItemsAlike.refl items) (List.forall₂_same.mpr fun t _ => JoinedTable.Alike.refl t)

theorem ItemsAlike.refl : (items : List SelectItem) → ItemsAlike items items
  | [] => .nil
  | .expr e _ :: rest => .expr (Expr.Alike.refl e) (ItemsAlike.refl rest)
  | .wildcard _ :: rest => .wildcard (ItemsAlike.refl rest)
  | .qualifiedWildcard _ _ :: rest => .qualifiedWildcard (ItemsAlike.refl rest)
  | .exprWildcard _ _ :: rest => .exprWildcard (ItemsAlike.refl rest)

end

/-! ### Alike clauses have one scope -/

mutual

theorem Relation.Alike.addRelation_eq {r r' : Relation} (h : r.Alike r') (scope : Scope) :
    scope.addRelation r = scope.addRelation r' := by
  cases h with
  | table => rfl
  | nested ht => exact ht.addJoined_eq scope
  | derived => rfl

theorem JoinedTable.Alike.addJoined_eq {t t' : JoinedTable} (h : t.Alike t') (scope : Scope) :
    scope.addJoined t = scope.addJoined t' := by
  cases h with
  | mk hr hj => rw [Scope.addJoined, Scope.addJoined, hr.addRelation_eq, hj.addJoins_eq]

theorem JoinsAlike.addJoins_eq {joins joins' : List Join} (h : JoinsAlike joins joins')
    (scope : Scope) : scope.addJoins joins = scope.addJoins joins' := by
  cases h with
  | nil => rfl
  | cons hr hj => rw [Scope.addJoins, Scope.addJoins, hr.addRelation_eq, hj.addJoins_eq]

end

/-- **Alike `FROM` clauses have one scope.** -/
theorem scope_eq_of_alike {tables tables' : List JoinedTable}
    (h : List.Forall₂ JoinedTable.Alike tables tables') :
    Scope.ofTables tables = Scope.ofTables tables' := by
  rw [Scope.ofTables, Scope.ofTables]
  generalize Scope.empty = scope
  induction h generalizing scope with
  | nil => rfl
  | cons ht _ ih => rw [List.foldl_cons, List.foldl_cons, ht.addJoined_eq, ih]

/-! ### Alike queries have the same references -/

section References

variable (marks : SourceMarks)

/-- Alike expressions are calls of one function, or no calls. -/
theorem Expr.Alike.aggregate?_eq {e e' : Expr} (h : e.Alike e') :
    e.aggregate? = e'.aggregate? := by
  cases h <;> rfl

-- By recursion on derivations, one case for each rule: free clauses do not occur in what is
-- collected, and alike parts have shorter derivations.
mutual

theorem Expr.Alike.references_eq {e e' : Expr} (h : e.Alike e') (scope : Scope)
    (aggregate : Option String) :
    e.references marks scope aggregate = e'.references marks scope aggregate := by
  cases h with
  | ident => rfl
  | compound => rfl
  | literal => rfl
  | binary hl hr =>
    rw [Expr.references, Expr.references, hl.references_eq, hr.references_eq]
  | scalar hq => rw [Expr.references, Expr.references, hq.references_eq]
  | call ha ho hw =>
    rw [Expr.references, Expr.references, ha.references_eq, ho.references_eq, hw.references_eq]
  | trim hs hc => rw [Expr.references, Expr.references, hs.references_eq, hc.references_eq]
  | trimWhat hs hw hc =>
    -- what is cut off comes between the text and the other characters
    simp only [Expr.references]
    rw [hs.references_eq, hw.references_eq, hc.references_eq]
  | optionalSide he => rw [Expr.references, Expr.references, he.references_eq]
  | phrase hp => rw [Expr.references, Expr.references, hp.references_eq]

theorem PiecesAlike.references_eq {pieces pieces' : List Piece} (h : PiecesAlike pieces pieces')
    (scope : Scope) (aggregate : Option String) :
    pieceReferences marks scope aggregate pieces =
      pieceReferences marks scope aggregate pieces' := by
  cases h with
  | nil => rfl
  | text hr => rw [pieceReferences, pieceReferences, hr.references_eq]
  | expr he hr =>
    rw [pieceReferences, pieceReferences, Piece.references, Piece.references, he.references_eq,
      hr.references_eq]
  | query hr =>
    -- neither of the two queries is looked into
    rw [pieceReferences, pieceReferences, Piece.references, Piece.references, hr.references_eq]

/-- **Alike queries have the same references.** -/
theorem Query.Alike.references_eq {q q' : Query} (h : q.Alike q') :
    q.references marks = q'.references marks := by
  cases h with
  | mk hb => rw [Query.references, Query.references, hb.references_eq]

theorem QueryBody.Alike.references_eq {b b' : QueryBody} (h : b.Alike b') :
    b.references marks = b'.references marks := by
  cases h with
  | select hs => rw [QueryBody.references, QueryBody.references, hs.references_eq]
  | nested hq => rw [QueryBody.references, QueryBody.references, hq.references_eq]
  | setOperation hl hr =>
    rw [QueryBody.references, QueryBody.references, hl.references_eq, hr.references_eq]
  | other => rfl

theorem Select.Alike.references_eq {s s' : Select} (h : s.Alike s') :
    s.references marks = s'.references marks := by
  cases h with
  | mk hi ht =>
    -- the items can only be compared once they are read in one scope
    rw [Select.references, Select.references, scope_eq_of_alike ht, hi.references_eq]

theorem ItemsAlike.references_eq {items items' : List SelectItem} (h : ItemsAlike items items')
    (scope : Scope) : itemReferences marks scope items = itemReferences marks scope items' := by
  cases h with
  | nil => rfl
  | expr he hr =>
    rw [itemReferences, itemReferences, SelectItem.references, SelectItem.references,
      he.aggregate?_eq, he.references_eq, hr.references_eq]
  | wildcard hr => rw [itemReferences, itemReferences, hr.references_eq]; rfl
  | qualifiedWildcard hr => rw [itemReferences, itemReferences, hr.references_eq]; rfl
  | exprWildcard hr => rw [itemReferences, itemReferences, hr.references_eq]; rfl

end

end References

/-! ### Alike statements -/

section Statements

variable {ss ss' : List Statement}

theorem Statement.Alike.isQuery_eq {s s' : Statement} (h : s.Alike s') :
    s.isQuery = s'.isQuery := by
  cases h <;> rfl

theorem Statement.Alike.references_eq (marks : SourceMarks) {s s' : Statement} (h : s.Alike s') :
    s.references marks = s'.references marks := by
  cases h with
  | query hq => exact hq.references_eq marks
  | other => rfl

/-- If one of two alike lists holds queries only, so does the other. -/
theorem forall_isQuery_iff_of_alike (h : List.Forall₂ Statement.Alike ss ss') :
    (∀ s ∈ ss, s.isQuery) ↔ ∀ s ∈ ss', s.isQuery := by
  induction h with
  | nil => rfl
  | cons hs _ ih => rw [List.forall_mem_cons, List.forall_mem_cons, hs.isQuery_eq, ih]

/-- Statements that are alike one by one have the same references one by one. -/
theorem map_references_of_alike (marks : SourceMarks) (h : List.Forall₂ Statement.Alike ss ss') :
    ss.map (Statement.references marks) = ss'.map (Statement.references marks) := by
  induction h with
  | nil => rfl
  | cons hs _ ih => rw [List.map_cons, List.map_cons, hs.references_eq, ih]

end Statements

end Sql

/-- What reading has in common for two lists of statements. -/
structure ReadAlike (marks : SourceMarks) (ss ss' : List Statement) : Prop where
  /-- The same columns are found for both lists, or none for either. -/
  columns : ∀ columns,
    statementReferences marks ss = .ok columns ↔ statementReferences marks ss' = .ok columns
  /-- So it is for texts that the statements are parsed from, in whatever dialects they are
  written. -/
  texts : ∀ dialect dialect' text text', parseStatements dialect text = .ok ss →
    parseStatements dialect' text' = .ok ss' →
      ∀ columns, sqlColumns dialect marks text = .ok columns ↔
        sqlColumns dialect' marks text' = .ok columns
  /-- Statement by statement, walks find the same, although they also pass through the queries in
  which the statements differ. -/
  walks : ss.map (Statement.walked marks) = ss'.map (Statement.walked marks)

/-- **Only what is returned matters**: alike statements are read alike. -/
theorem readAlike_of_alike {ss ss' : List Statement} (h : List.Forall₂ Statement.Alike ss ss')
    (marks : SourceMarks) : ReadAlike marks ss ss' := by
  have each := map_references_of_alike marks h
  have columns : ∀ columns,
      statementReferences marks ss = .ok columns ↔
        statementReferences marks ss' = .ok columns := by
    intro columns
    -- reading fails on both sides at once, at a statement that is no query
    rw [statementReferences_eq_ok_iff, statementReferences_eq_ok_iff,
      forall_isQuery_iff_of_alike h, List.flatMap_def, List.flatMap_def, each]
  refine ⟨columns, ?_, ?_⟩
  · intro dialect dialect' text text' ht ht' cs
    rw [sqlColumns, sqlColumns, ht, ht']
    exact columns cs
  · rw [funext (Statement.walked_eq marks)]
    exact each

/-! ### A report -/

namespace Sql.Query

/-- The largest total of an invoice: `clause` stands for every clause, and `asked` is an argument
of the function. -/
def largestTotal (clause : List Piece) (asked : Query) : Query :=
  .mk clause
    (.select (.mk clause
      [.expr (.call (.single (.bare "MAX"))
        [.expr (.ident (.bare "total")), .text ", ", .query asked] [] []) none]
      clause [.mk (.table (.single (.bare "invoices")) clause none clause) []]
      clause clause clause clause false))
    clause clause

/-- A report on orders: `clause` stands for every clause, and `asked` is a derived table and the
query under an `EXISTS`.  In between is the largest total. -/
def report (clause : List Piece) (asked : Query) : Query :=
  .mk clause
    (.select (.mk clause
      [.expr (.compound [.bare "o", .bare "id"]) none,
        .expr (.scalar (largestTotal clause asked)) none,
        .expr (.phrase [.text "EXISTS (", .query asked, .text ")"]) (some (.bare "invoiced"))]
      clause
      [.mk (.table (.single (.bare "orders")) clause (some ⟨.bare "o", []⟩) clause)
        [.mk " JOIN " (.derived [.text "(", .query asked, .text ")"] none) clause]]
      clause clause clause clause false))
    clause clause

variable (clause clause' : List Piece) (asked asked' : Query)

theorem largestTotal_alike : (largestTotal clause asked).Alike (largestTotal clause' asked') :=
  .mk (.select (.mk (.expr (.call (.expr .ident (.text (.query .nil))) .nil .nil) .nil)
    (.cons (.mk .table .nil) .nil)))

theorem report_alike : (report clause asked).Alike (report clause' asked') := by
  refine .mk (.select (.mk ?items (.cons (.mk .table (.cons .derived .nil)) .nil)))
  refine .expr .compound (.expr (.scalar ?total) (.expr (.phrase ?invoiced) .nil))
  case total => exact largestTotal_alike clause clause' asked asked'
  case invoiced => exact .text (.query (.text .nil))

/-- A report without clauses, where all that is asked for is written out. -/
def brief : Query := report [] (.mk [] (.other [.text "VALUES (1)"]) [] [])

/-- A report that names a column in every clause and asks for another report. -/
def detailed : Query := report [.expr (.ident (.bare "secret"))] brief

end Sql.Query

/-- The brief report is read like the detailed one, also if the same statement follows both. -/
theorem readAlike_of_alike_reports :
    List.Forall₂ Statement.Alike [.query .brief, .query .brief] [.query .detailed, .query .brief] ∧
      ReadAlike ⟨"null", "@"⟩ [.query .brief, .query .brief]
        [.query .detailed, .query .brief] := by
  have alike : List.Forall₂ Statement.Alike [.query .brief, .query .brief]
      [.query .detailed, .query .brief] :=
    .cons (.query (Query.report_alike _ _ _ _)) (.cons (.query (Query.Alike.refl _)) .nil)
  exact ⟨alike, readAlike_of_alike alike _⟩

example : statementReferences ⟨"null", "@"⟩ [.query .detailed] =
    .ok [⟨none, "orders", "id"⟩, ⟨some "MAX", "invoices", "total"⟩] := by
  decide +kernel

end RowShape
