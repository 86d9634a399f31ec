import RowShape.Proofs.Resolution
import RowShape.Proofs.Text.Search

/-!
# Bodies of several parts

The body of a procedure that begins with the first `BEGIN` and ends with the last `END` may hold
these words itself.  A semicolon in it separates two parts, wherever it stands, and what is inferred
for the whole is what is inferred for either part alone: the columns of the first part and those of
the second, and of the diagnostics first the statements of both that cannot be read, then the
references of both that give no column.

Three steps lead from the definition to the references.  The body is found whatever it holds
(`bodySpan_enclose`); a semicolon cuts its statements, since the blanks at the seam are trimmed
anyway (`selectStatements_cut`); statements are read one by one (`collectAll_append`).  Resolving
references one by one is `resolve_append`.

## Main definitions

* `enclose`: a definition with a body between a header and a tail
* `Resolution.merge`: two inferences put together, diagnostics of one kind side by side

## Main results

* `procedureBody_enclose`: the body of a definition is found
* `collect_cut`: what the statements of a body of two parts give
* `Pipeline.inferProcedure_cut`: what is inferred for a body of two parts
-/

namespace RowShape

/-! ### The body of a definition -/

/-- A definition with a body between a header and a tail. -/
def enclose (header tail body : String) : String := header ++ "BEGIN" ++ body ++ "END" ++ tail

theorem toList_enclose (header tail body : String) :
    (enclose header tail body).toList =
      header.toList ++ bodyStart ++ (body.toList ++ bodyEnd ++ tail.toList) := by
  simp [enclose, bodyStart, bodyEnd]

/-- A body is what stands between its ends. -/
theorem procedureBody_eq_of_bodySpan (before after : List Char) {definition part : String}
    (split : definition.toList = before ++ part.toList ++ after)
    (span : bodySpan definition.toList = (before.length, before.length + part.toList.length)) :
    procedureBody definition = Text.trim part := by
  have inside : (definition.toList.take (before.length + part.toList.length)).drop before.length =
      part.toList := by
    rw [split, ← List.length_append, List.take_left, List.drop_left]
  rw [procedureBody, bodyChars, span, Text.trim]
  exact congrArg (fun cs => String.ofList (Text.trimChars cs)) inside

section Body

variable {header tail : String}

/-- The body is found between the first `BEGIN` and the last `END`, even if it holds these words
itself. -/
theorem bodySpan_enclose (hh : ¬ bodyStart <:+: header.toList) (ht : ¬ bodyEnd <:+: tail.toList)
    (body : String) :
    bodySpan (enclose header tail body).toList =
      (header.toList.length + bodyStart.length,
        header.toList.length + bodyStart.length + body.toList.length) := by
  -- `BEGIN` and `END` cannot overlap with themselves, so that the words around the body are not
  -- found any earlier or later than they stand
  have first : Text.firstIndex? bodyStart (enclose header tail body).toList =
      some header.toList.length := by
    rw [toList_enclose]
    exact Text.firstIndex?_append (by decide) hh _
  have last : Text.lastIndex? bodyEnd (enclose header tail body).toList =
      some (header.toList ++ bodyStart ++ body.toList).length := by
    rw [toList_enclose, ← List.append_assoc, ← List.append_assoc]
    exact Text.lastIndex?_append (by decide) ht _
  rw [bodySpan, first, last]
  simp [Nat.add_assoc]

/-- **The body of a definition is found**, and trimmed. -/
theorem procedureBody_enclose (hh : ¬ bodyStart <:+: header.toList)
    (ht : ¬ bodyEnd <:+: tail.toList) (body : String) :
    procedureBody (enclose header tail body) = Text.trim body := by
  refine procedureBody_eq_of_bodySpan (header.toList ++ bodyStart) (bodyEnd ++ tail.toList) ?_ ?_
  · rw [toList_enclose]
    simp only [List.append_assoc]
  · rw [bodySpan_enclose hh ht, List.length_append]

end Body

/-! ### Statements -/

/-- Trimming a body first does not change its statements. -/
theorem selectStatements_trim (body : String) :
    selectStatements (Text.trim body) = selectStatements body := by
  rw [selectStatements, Text.toList_trim, Text.map_trimChars_segments (by decide)]
  rfl

/-- A semicolon cuts the statements of a body. -/
theorem selectStatements_cut (first second : String) :
    selectStatements (first ++ ";" ++ second) =
      selectStatements first ++ selectStatements second := by
  -- every semicolon separates statements, whatever block it stands in
  have cut : (first ++ ";" ++ second).toList = first.toList ++ terminator :: second.toList := by
    simp [terminator]
  simp only [selectStatements, cut, Text.segments_append_cons, List.map_append, List.filter_append]

/-! ### References -/

variable {entity : String} {parser : ColumnParser}

attribute [ext] Collection

/-- Statements are read one by one. -/
theorem collectAll_append (ss ts : List String) :
    collectAll entity parser (ss ++ ts) =
      collectAll entity parser ss ++ collectAll entity parser ts := by
  induction ss with
  | nil => ext1 <;> simp [collectAll, Collection.empty]
  | cons s ss ih =>
    rw [List.cons_append, collectAll, ih, collectAll]
    ext1 <;> simp

/-- **What the statements of a body of two parts give** is what those of its parts give. -/
theorem collect_cut (first second : String) :
    collect entity parser (first ++ ";" ++ second) =
      collect entity parser first ++ collect entity parser second := by
  rw [collect, selectStatements_cut, collectAll_append]
  rfl

/-! ### Inferences -/

/-- The diagnostic is about a reference that gives no column. -/
def Diagnostic.isUnresolved : Diagnostic → Bool
  | unresolvedColumn .. => true
  | _ => false

namespace Resolution

/-- The statements that could not be read. -/
def parseFailures (r : Resolution) : List Diagnostic := r.diagnostics.filter (·.isParseFailure)

/-- The references that gave no column. -/
def unresolved (r : Resolution) : List Diagnostic := r.diagnostics.filter (·.isUnresolved)

/-- Two inferences put together: the columns of the first and of the second, the statements of both
that could not be read, and then the references of both that gave no column. -/
def merge (r s : Resolution) : Resolution :=
  ⟨r.columns ++ s.columns,
    r.parseFailures ++ s.parseFailures ++ (r.unresolved ++ s.unresolved)⟩

end Resolution

namespace Pipeline

variable {p : Pipeline} {catalog : Catalog} {q : ProcedureDefinition}

/-- The parse failures of an inference are what its statements give. -/
theorem parseFailures_inferProcedure :
    (p.inferProcedure q catalog).parseFailures =
      (collect q.name p.parser (procedureBody q.definition)).diagnostics := by
  -- resolving finds no statements that cannot be read
  have others : (resolve q.name p.config catalog
      (collect q.name p.parser (procedureBody q.definition)).columns).diagnostics.filter
        (·.isParseFailure) = [] := by
    refine List.filter_eq_nil_iff.mpr fun x hx => ?_
    obtain ⟨r, reason, rfl⟩ := mem_diagnostics_resolve hx
    exact Bool.false_ne_true
  rw [Resolution.parseFailures, inferProcedure, List.filter_append, others, List.append_nil,
    List.filter_eq_self]
  intro x hx
  obtain ⟨statement, reason, rfl⟩ := mem_diagnostics_collect hx
  rfl

/-- The references of an inference that give no column are what resolving finds. -/
theorem unresolved_inferProcedure :
    (p.inferProcedure q catalog).unresolved =
      (resolve q.name p.config catalog
        (collect q.name p.parser (procedureBody q.definition)).columns).diagnostics := by
  have others : (collect q.name p.parser (procedureBody q.definition)).diagnostics.filter
      (·.isUnresolved) = [] := by
    refine List.filter_eq_nil_iff.mpr fun x hx => ?_
    obtain ⟨statement, reason, rfl⟩ := mem_diagnostics_collect hx
    exact Bool.false_ne_true
  rw [Resolution.unresolved, inferProcedure, List.filter_append, others, List.nil_append,
    List.filter_eq_self]
  intro x hx
  obtain ⟨r, reason, rfl⟩ := mem_diagnostics_resolve hx
  rfl

/-- The statements of an enclosed body, without the trimming of the body. -/
theorem collect_procedureBody_enclose {entity : String} {parser : ColumnParser}
    {header tail : String} (hh : ¬ bodyStart <:+: header.toList)
    (ht : ¬ bodyEnd <:+: tail.toList) (body : String) :
    collect entity parser (procedureBody (enclose header tail body)) =
      collect entity parser body := by
  rw [procedureBody_enclose hh ht, collect, selectStatements_trim]
  rfl

/-- **What is inferred for a body of two parts** is what is inferred for the first and for the
second, put together.  The parts are any texts: they may hold blocks and further semicolons, and
they need not be SQL. -/
theorem inferProcedure_cut (p : Pipeline) (catalog : Catalog) (q : ProcedureDefinition)
    {header tail : String} (hh : ¬ bodyStart <:+: header.toList)
    (ht : ¬ bodyEnd <:+: tail.toList) (first second : String) :
    p.inferProcedure { q with definition := enclose header tail (first ++ ";" ++ second) } catalog =
      (p.inferProcedure { q with definition := enclose header tail first } catalog).merge
        (p.inferProcedure { q with definition := enclose header tail second } catalog) := by
  have whole : collect q.name p.parser
        (procedureBody (enclose header tail (first ++ ";" ++ second))) =
      collect q.name p.parser (procedureBody (enclose header tail first)) ++
        collect q.name p.parser (procedureBody (enclose header tail second)) := by
    simp only [collect_procedureBody_enclose hh ht, collect_cut]
  ext1
  -- the columns, and then the diagnostics, which have to be taken apart by kind
  · simp only [inferProcedure, Resolution.merge, whole, Collection.columns_append, resolve_append,
      Resolution.columns_append]
  · rw [Resolution.merge]
    simp only [parseFailures_inferProcedure, unresolved_inferProcedure]
    simp only [inferProcedure, whole, Collection.columns_append, Collection.diagnostics_append,
      resolve_append, Resolution.diagnostics_append]

/-- Of two parts, the second with a block of its own, the first is no SQL and the second reads a
table that no catalog has. -/
theorem inferProcedure_cut_block :
    ¬ bodyStart <:+: "CREATE PROC p AS ".toList ∧ ¬ bodyEnd <:+: " -- done".toList ∧
      (standard .default).inferProcedure (.undated "p" (enclose "CREATE PROC p AS " " -- done"
          (" SELECT FROM " ++ ";" ++ " SELECT id FROM ghosts; BEGIN SELECT 1 END "))) .empty =
        ((standard .default).inferProcedure (.undated "p" (enclose "CREATE PROC p AS " " -- done"
            " SELECT FROM ")) .empty).merge
          ((standard .default).inferProcedure (.undated "p" (enclose "CREATE PROC p AS " " -- done"
            " SELECT id FROM ghosts; BEGIN SELECT 1 END ")) .empty) := by
  have hh : ¬ bodyStart <:+: "CREATE PROC p AS ".toList := by decide
  have ht : ¬ bodyEnd <:+: " -- done".toList := by decide
  exact ⟨hh, ht, inferProcedure_cut (standard .default) .empty (.undated "p" "") hh ht _ _⟩

end Pipeline

end RowShape
