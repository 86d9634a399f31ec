import RowShape.Sql.Syntax
import Mathlib.Data.List.Basic

/-!
# Occurrences in syntax trees

A statement is one tree.  Its nodes are queries, their bodies, items of projections, expressions and
what a `FROM` clause is made of, and every node says which part it is of the node above it.  A
occurrence is a node together with the way down to it, and the occurrences of a tree are listed in
depth-first order: a node first, then what is below its parts from left to right.

## Main definitions

* `Node`, `Role`, `Node.parts`: the nodes of a tree, and their parts in the order of the syntax
* `Occurrence`, `Occurrence.below`: a node and the way to it; all occurrences at and below one
* `Occurrence.at?`: the occurrence that is found by going down

## Main results

* `mem_below_iff`: the list holds all occurrences below
* `below_pairwise`: it holds each of them once, in depth-first order
-/

namespace RowShape.Sql

/-! ### Nodes and their parts -/

/-- A node of a syntax tree. -/
inductive Node where
  | script (statements : List Statement)
  | statement (s : Statement)
  | query (q : Query)
  | body (b : QueryBody)
  | select (s : Select)
  | item (i : SelectItem)
  | expr (e : Expr)
  | joined (t : JoinedTable)
  | join (j : Join)
  | relation (r : Relation)

/-- What a part is to the node it is a part of. -/
inductive Role where
  /-- A statement of a script. -/
  | statement
  /-- The query that a statement is. -/
  | query
  /-- The body of a query. -/
  | body
  /-- The `SELECT` that a body is. -/
  | select
  /-- The query in parentheses that a body is. -/
  | parenthesised
  /-- A branch of a set operation. -/
  | branch
  /-- An item of a projection. -/
  | item
  /-- The expression of such an item, with or without an alias. -/
  | value
  /-- An operand of an expression. -/
  | operand
  /-- The query of a scalar subquery. -/
  | scalar
  /-- A query inside an expression that stands for no value of it: under `EXISTS` or `IN`, or as an
  argument. -/
  | subquery
  /-- A part of the `FROM` clause. -/
  | source
  /-- A part of any other clause of a query, of a join or of a wildcard. -/
  | clause
  /-- The expression before `.*`. -/
  | starred

/-- The expressions and queries of a phrase, each in the role that it has there. -/
def phraseParts (ofExpr ofQuery : Role) (pieces : List Piece) : List (Role × Node) :=
  pieces.filterMap fun
    | .text _ => none
    | .expr e => some (ofExpr, .expr e)
    | .query q => some (ofQuery, .query q)

/-- The parts of an expression that is a phrase. -/
abbrev operands (pieces : List Piece) : List (Role × Node) := phraseParts .operand .subquery pieces

/-- The parts of a clause. -/
abbrev clauseParts (pieces : List Piece) : List (Role × Node) := phraseParts .clause .clause pieces

/-- The parts of a node, in the order of the syntax. -/
def Node.parts : Node → List (Role × Node)
  | .script statements => statements.map fun s => (.statement, .statement s)
  | .statement (.query q) => [(.query, .query q)]
  | .statement (.other pieces) => clauseParts pieces
  | .query (.mk withClause b orderBy limit) =>
    clauseParts withClause ++ (.body, .body b) :: (clauseParts orderBy ++ clauseParts limit)
  | .body (.select s) => [(.select, .select s)]
  | .body (.nested q) => [(.parenthesised, .query q)]
  | .body (.setOperation left _ right) => [(.branch, .body left), (.branch, .body right)]
  | .body (.other pieces) => clauseParts pieces
  | .select (.mk quantifier projection into tables filter groupBy having windows _) =>
    clauseParts quantifier ++ projection.map (fun i => (.item, .item i)) ++ clauseParts into ++
      tables.map (fun t => (.source, .joined t)) ++ clauseParts filter ++ clauseParts groupBy ++
      clauseParts having ++ clauseParts windows
  | .item (.expr e _) => [(.value, .expr e)]
  | .item (.wildcard options) => clauseParts options
  | .item (.qualifiedWildcard _ options) => clauseParts options
  | .item (.exprWildcard e options) => (.starred, .expr e) :: clauseParts options
  | .expr (.ident _) => []
  | .expr (.compound _) => []
  | .expr (.literal _) => []
  | .expr (.binary left _ right) => [(.operand, .expr left), (.operand, .expr right)]
  | .expr (.scalar q) => [(.scalar, .query q)]
  | .expr (.call _ arguments options withinGroup) =>
    operands arguments ++ operands options ++ operands withinGroup
  | .expr (.trim subject _ what characters) =>
    (.operand, .expr subject) ::
      (what.toList.map (fun e => (.operand, .expr e)) ++ operands characters)
  | .expr (.optionalSide e) => [(.operand, .expr e)]
  | .expr (.phrase pieces) => operands pieces
  | .joined (.mk first joins) =>
    (.source, .relation first) :: joins.map fun j => (.source, .join j)
  | .join (.mk _ second condition) => (.source, .relation second) :: clauseParts condition
  | .relation (.table _ details _ hints) => clauseParts details ++ clauseParts hints
  | .relation (.nested tables _) => [(.source, .joined tables)]
  | .relation (.derived pieces _) => clauseParts pieces

theorem mem_phraseParts {a b role : Role} {pieces : List Piece} {n : Node} :
    (role, n) ∈ phraseParts a b pieces ↔
      (∃ e, .expr e ∈ pieces ∧ role = a ∧ n = .expr e) ∨
        ∃ q, .query q ∈ pieces ∧ role = b ∧ n = .query q := by
  rw [phraseParts, List.mem_filterMap]
  constructor
  · rintro ⟨piece, hm, hp⟩
    cases piece with
    | text s => cases hp
    | expr e =>
      cases hp
      exact .inl ⟨e, hm, rfl, rfl⟩
    | query q =>
      cases hp
      exact .inr ⟨q, hm, rfl, rfl⟩
  · rintro (⟨e, hm, rfl, rfl⟩ | ⟨q, hm, rfl, rfl⟩)
    · exact ⟨_, hm, rfl⟩
    · exact ⟨_, hm, rfl⟩

/-- Items stand in a `SELECT`. -/
theorem Node.eq_select_of_mem_parts {n : Node} {role : Role} {i : SelectItem}
    (h : (role, .item i) ∈ n.parts) : ∃ s, n = .select s := by
  fun_cases parts n <;> simp_all [parts, mem_phraseParts]

/-! ### The size of parts -/

theorem sizeOf_lt_of_mem_phraseParts {a b : Role} {pieces : List Piece} {size : Nat}
    (h : sizeOf pieces < size) : ∀ part ∈ phraseParts a b pieces, sizeOf part.2 < size := by
  rintro ⟨role, n⟩ hp
  obtain ⟨e, hm, -, rfl⟩ | ⟨q, hm, -, rfl⟩ := mem_phraseParts.mp hp
  · have small := List.sizeOf_lt_of_mem hm
    simp only [Piece.expr.sizeOf_spec, Node.expr.sizeOf_spec] at small ⊢
    omega
  · have small := List.sizeOf_lt_of_mem hm
    simp only [Piece.query.sizeOf_spec, Node.query.sizeOf_spec] at small ⊢
    omega

theorem sizeOf_lt_of_mem_map {α : Type} [SizeOf α] {role : Role} {wrap : α → Node}
    (hw : ∀ a, sizeOf (wrap a) = 1 + sizeOf a) {xs : List α} {size : Nat} (h : sizeOf xs < size) :
    ∀ part ∈ xs.map (fun a => (role, wrap a)), sizeOf part.2 < size := by
  intro part hp
  obtain ⟨a, ha, rfl⟩ := List.mem_map.mp hp
  have small := List.sizeOf_lt_of_mem ha
  have := hw a
  dsimp only
  omega

theorem sizeOf_toList_le (what : Option Expr) : sizeOf what.toList ≤ sizeOf what + 1 := by
  cases what <;> simp +arith

/-- A part is smaller than the node it is a part of. -/
theorem Node.sizeOf_lt_of_mem_parts (n : Node) : ∀ part ∈ n.parts, sizeOf part.2 < sizeOf n := by
  fun_cases Node.parts n
  -- the parts are phrases, lists of nodes under one constructor, and single nodes
  all_goals
    try simp only [List.forall_mem_append, List.forall_mem_cons]
    try and_intros
  all_goals first
    | apply sizeOf_lt_of_mem_phraseParts
    | apply sizeOf_lt_of_mem_map (fun _ => rfl)
    | skip
  all_goals simp +arith
  case case20 subject side what characters =>
    -- the text to cut off may be missing
    have := sizeOf_toList_le what
    omega

/-- What holds of a node as soon as it holds of its parts holds of every node. -/
theorem Node.induction {P : Node → Prop} (step : ∀ n : Node, (∀ part ∈ n.parts, P part.2) → P n)
    (n : Node) : P n :=
  step n fun part hp =>
    have := Node.sizeOf_lt_of_mem_parts n part hp
    induction step part.2
termination_by sizeOf n

/-! ### Occurrences -/

/-- **An occurrence**: a node, the number of the part at every step down to it, and the nodes above
it, the nearest first, each with the role of its part on the way. -/
structure Occurrence where
  /-- The numbers of the parts on the way down. -/
  address : List Nat
  /-- The nodes above, from the nearest up, with the roles of the parts on the way. -/
  trail : List (Node × Role)
  /-- The node. -/
  node : Node

namespace Occurrence

variable {p q c : Occurrence}

/-- The occurrence of a whole script. -/
def root (statements : List Statement) : Occurrence := ⟨[], [], .script statements⟩

/-- The occurrence of a part with its number. -/
def part (p : Occurrence) (i : Nat) (part : Role × Node) : Occurrence :=
  ⟨p.address ++ [i], (p.node, part.1) :: p.trail, part.2⟩

/-- The occurrences one step down, in the order of the syntax. -/
def parts (p : Occurrence) : List Occurrence := p.node.parts.mapIdx p.part

theorem mem_parts (h : c ∈ p.parts) :
    ∃ i, ∃ part ∈ p.node.parts, c = p.part i part := by
  obtain ⟨i, hi, rfl⟩ := List.mem_mapIdx.mp h
  exact ⟨i, _, List.getElem_mem hi, rfl⟩

theorem flatMap_parts {α : Type} {f : Occurrence → List α} {g : Role × Node → List α}
    (h : ∀ i part, f (p.part i part) = g part) : p.parts.flatMap f = p.node.parts.flatMap g := by
  have hg : (fun numbered => f (p.part numbered.2 numbered.1)) = g ∘ Prod.fst :=
    funext fun numbered => h _ _
  rw [parts, List.mapIdx_eq_zipIdx_map, List.flatMap_map, hg]
  conv_rhs => rw [← List.zipIdx_map_fst 0 p.node.parts, List.flatMap_map]
  rfl

theorem sizeOf_node_lt (h : c ∈ p.parts) : sizeOf c.node < sizeOf p.node := by
  obtain ⟨i, part, hpart, rfl⟩ := mem_parts h
  exact Node.sizeOf_lt_of_mem_parts p.node part hpart

/-- What holds of an occurrence as soon as it holds of its parts holds of every occurrence. -/
theorem induction {P : Occurrence → Prop} (step : ∀ p, (∀ c ∈ p.parts, P c) → P p)
    (p : Occurrence) : P p :=
  step p fun c hc =>
    have := sizeOf_node_lt hc
    induction step c
termination_by sizeOf p.node

/-- The occurrences at and below an occurrence, in depth-first order. -/
def below (p : Occurrence) : List Occurrence :=
  p :: p.parts.attach.flatMap fun c => c.1.below
termination_by sizeOf p.node
decreasing_by exact sizeOf_node_lt c.2

/-- What is below an occurrence is the occurrence and what is below its parts. -/
theorem below_eq (p : Occurrence) : p.below = p :: p.parts.flatMap below := by
  rw [below, List.flatMap_subtype (g := below) fun _ _ => rfl, List.unattach_attach]

/-- The occurrence that is found by going down. -/
def at? (p : Occurrence) : List Nat → Option Occurrence
  | [] => some p
  | i :: rest => p.parts[i]?.bind (·.at? rest)

theorem at?_cons (p : Occurrence) (i : Nat) (rest : List Nat) :
    p.at? (i :: rest) = p.parts[i]?.bind (·.at? rest) := rfl

theorem getElem?_parts_eq_some {i : Nat} (h : p.parts[i]? = some c) :
    c.address = p.address ++ [i] := by
  rw [parts, List.getElem?_mapIdx, Option.map_eq_some_iff] at h
  obtain ⟨part, -, rfl⟩ := h
  rfl

/-- Going down makes the address longer by the way that was gone. -/
theorem address_of_at? {a : List Nat} (h : p.at? a = some q) : q.address = p.address ++ a := by
  induction a generalizing p with
  | nil =>
    obtain rfl := Option.some.inj h
    rw [List.append_nil]
  | cons i rest ih =>
    rw [at?_cons] at h
    obtain ⟨c, hc, hq⟩ := Option.bind_eq_some_iff.mp h
    rw [ih hq, getElem?_parts_eq_some hc, List.append_assoc, List.singleton_append]

/-- **Completeness**: the occurrences below an occurrence are those that are found by going down. -/
theorem mem_below_iff (p q : Occurrence) : q ∈ p.below ↔ ∃ a, p.at? a = some q := by
  induction p using induction with
  | step p ih =>
  rw [below_eq, List.mem_cons, List.mem_flatMap]
  constructor
  · rintro (rfl | ⟨c, hc, hq⟩)
    · exact ⟨[], rfl⟩
    · -- one step down, and then the way that is known below the part
      obtain ⟨a, ha⟩ := (ih c hc).mp hq
      obtain ⟨i, hi⟩ := List.mem_iff_getElem?.mp hc
      exact ⟨i :: a, by rw [at?_cons, hi, Option.bind_some, ha]⟩
  · rintro ⟨_ | ⟨i, a⟩, h⟩
    · exact .inl (Option.some.inj h).symm
    · rw [at?_cons] at h
      obtain ⟨c, hi, hq⟩ := Option.bind_eq_some_iff.mp h
      have hc := List.mem_of_getElem? hi
      exact .inr ⟨c, hc, (ih c hc).mpr ⟨a, hq⟩⟩

/-- What is below a part has the number of the part in its address. -/
theorem exists_address_of_mem_below {i : Nat} (hi : p.parts[i]? = some c) (hq : q ∈ c.below) :
    ∃ a, q.address = p.address ++ i :: a := by
  obtain ⟨a, ha⟩ := (mem_below_iff c q).mp hq
  refine ⟨a, ?_⟩
  rw [address_of_at? ha, getElem?_parts_eq_some hi, List.append_assoc, List.singleton_append]

/-- **Order**: the addresses of the occurrences below an occurrence increase, so that a node comes
before its parts and what is below one part before what is below the next. -/
theorem below_pairwise (p : Occurrence) : p.below.Pairwise (·.address < ·.address) := by
  induction p using induction with
  | step p ih =>
  rw [below_eq, List.pairwise_cons, List.pairwise_flatMap]
  refine ⟨?_, ih, ?_⟩
  · intro q hq
    obtain ⟨c, hc, hq⟩ := List.mem_flatMap.mp hq
    obtain ⟨i, hi⟩ := List.mem_iff_getElem?.mp hc
    obtain ⟨a, ha⟩ := exists_address_of_mem_below hi hq
    calc p.address
      _ = p.address ++ [] := (List.append_nil _).symm
      _ < p.address ++ i :: a := List.append_left_lt (List.nil_lt_cons i a)
      _ = q.address := ha.symm
  · rw [List.pairwise_iff_getElem]
    intro i j hi hj hij q hq q' hq'
    obtain ⟨a, ha⟩ := exists_address_of_mem_below (List.getElem?_eq_getElem hi) hq
    obtain ⟨b, hb⟩ := exists_address_of_mem_below (List.getElem?_eq_getElem hj) hq'
    rw [ha, hb]
    -- the addresses part at the numbers of the two parts
    exact List.append_left_lt (List.cons_lt_cons_iff.mpr (.inl hij))

/-- A list of occurrences **traverses** what is below an occurrence: it holds all that is found by
going down, in the order of the addresses. -/
structure Traverses (p : Occurrence) (occurrences : List Occurrence) : Prop where
  /-- The list holds exactly the occurrences that are found by going down. -/
  complete : ∀ q, q ∈ occurrences ↔ ∃ a, p.at? a = some q
  /-- A node comes before its parts, and what is below one part before what is below the next. -/
  ordered : occurrences.Pairwise (·.address < ·.address)

theorem traverses_below (p : Occurrence) : p.Traverses p.below where
  complete := p.mem_below_iff
  ordered := p.below_pairwise

end Occurrence

end RowShape.Sql
