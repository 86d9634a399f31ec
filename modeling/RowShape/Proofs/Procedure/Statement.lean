import RowShape.Proofs.Procedure.Body
import Mathlib.Data.List.Forall2

/-!
# Statements of a body

A body is a list of segments with semicolons between them, and its statements are those of the
trimmed segments that begin with `SELECT`, each as often and in the order as it is written.  Nothing
of a statement is left to split, so that statements are the statements of the body they make when
they are put together again.

The letters of `SELECT` are looked for in the first six bytes.  A character that takes up several
bytes is none of them, so that they are the first six characters as well, and a text whose sixth
byte lies inside a character does not begin with them.

Statements are read one by one.  One that is rejected leaves a diagnostic in its place and costs no
column of any other.

## Main definitions

* `BeginsWithSelect`: a text begins with the letters of `SELECT`
* `AreSegments`: the parts of a body between semicolons
* `ReportsFailure`: the diagnostic of a statement that is rejected

## Main results

* `AreSegments.selectStatements_eq`: the statements of a body by its segments
* `selectStatements_exact`: how a body is split
* `collect_exact`: what the statements of a body give
-/

namespace RowShape

/-! ### The first letters -/

/-- The text begins with six bytes that are the letters of `SELECT`, each in either case. -/
def BeginsWithSelect (s : String) : Prop :=
  ∃ word rest, s = word ++ rest ∧ word.utf8ByteSize = 6 ∧ word.toUpper = "SELECT"

/-- A letter takes up as many bytes in upper case. -/
theorem Text.utf8Size_toUpper (c : Char) : c.toUpper.utf8Size = c.utf8Size := by
  delta Char.toUpper
  grind [Char.utf8Size]

/-- A text takes up as many bytes in upper case. -/
theorem Text.utf8ByteSize_toUpper (s : String) : s.toUpper.utf8ByteSize = s.utf8ByteSize := by
  have chars (cs : List Char) : (String.ofList (cs.map Char.toUpper)).utf8ByteSize =
      (String.ofList cs).utf8ByteSize := by
    induction cs with
    | nil => rfl
    | cons c cs ih =>
      rw [List.map_cons, String.ofList_cons, String.ofList_cons, String.utf8ByteSize_append,
        String.utf8ByteSize_append, ih, String.utf8ByteSize_singleton,
        String.utf8ByteSize_singleton, utf8Size_toUpper]
  rw [← String.ofList_toList (s := s.toUpper), String.toUpper, String.toList_map, chars,
    String.ofList_toList]

/-- The letters are looked for among characters. -/
theorem beginsWithSelect_iff {s : String} :
    beginsWithSelect s.toList ↔ BeginsWithSelect s := by
  have letters : "SELECT".toList.map Char.toUpper = "SELECT".toList := by decide
  rw [beginsWithSelect, Text.sameLettersAscii, beq_iff_eq, letters]
  constructor
  · intro h
    have upper : (String.ofList (s.toList.take 6)).toUpper = "SELECT" := by
      rw [← String.toList_inj, String.toUpper, String.toList_map, String.toList_ofList, h]
    refine ⟨String.ofList (s.toList.take 6), String.ofList (s.toList.drop 6), ?_, ?_, upper⟩
    · rw [← String.ofList_append, List.take_append_drop, String.ofList_toList]
    · rw [← Text.utf8ByteSize_toUpper, upper]
      rfl
  · rintro ⟨word, rest, rfl, -, upper⟩
    rw [← String.toList_inj, String.toUpper, String.toList_map] at upper
    have six : word.toList.length = 6 := by
      rw [← List.length_map Char.toUpper, upper]
      rfl
    rw [String.toList_append, ← six, List.take_left, upper]

instance (s : String) : Decidable (BeginsWithSelect s) :=
  decidable_of_iff _ beginsWithSelect_iff

theorem decide_beginsWithSelect (s : String) :
    decide (BeginsWithSelect s) = beginsWithSelect s.toList := by
  rw [Bool.eq_iff_iff, decide_eq_true_iff, beginsWithSelect_iff]

/-! ### Segments -/

variable {body : String} {segments : List String}

/-- The segments of a body: it is put together from them, and they cannot be split. -/
structure AreSegments (segments : List String) (body : String) : Prop where
  /-- Between two segments stands a semicolon. -/
  joined : ";".intercalate segments = body
  /-- No segment holds one. -/
  uncut : ∀ s ∈ segments, terminator ∉ s.toList
  /-- An empty body is one segment. -/
  ne_nil : segments ≠ []

/-- A body has no other segments than those it is split into. -/
theorem AreSegments.map_toList (h : AreSegments segments body) :
    segments.map String.toList = Text.segments terminator body.toList := by
  have mark : ";".toList = [terminator] := rfl
  rw [← h.joined, String.toList_intercalate, mark, Text.segments_eq_splitOn,
    List.splitOn_intercalate]
  · simpa using h.uncut
  · simpa using h.ne_nil

/-- **Every body has segments.** -/
theorem exists_areSegments (body : String) : ∃ segments, AreSegments segments body := by
  have mark : ";".toList = [terminator] := rfl
  have same : ((Text.segments terminator body.toList).map String.ofList).map String.toList =
      Text.segments terminator body.toList := by
    rw [List.map_map]
    exact List.map_id'' (fun _ => String.toList_ofList) _
  refine ⟨(Text.segments terminator body.toList).map String.ofList, ?_, ?_, ?_⟩
  · rw [← String.toList_inj, String.toList_intercalate, same, mark, Text.segments_eq_splitOn,
      List.intercalate_splitOn]
  · intro s hs
    obtain ⟨cs, hcs, rfl⟩ := List.mem_map.mp hs
    rw [String.toList_ofList]
    exact Text.notMem_of_mem_segments hcs
  · simpa using Text.segments_ne_nil terminator body.toList

/-- **The statements of a body by its segments**: those that begin with `SELECT` once they are
trimmed. -/
theorem AreSegments.selectStatements_eq (h : AreSegments segments body) :
    selectStatements body = (segments.map Text.trim).filter (BeginsWithSelect ·) := by
  rw [selectStatements, ← h.map_toList, List.map_map, List.filter_map, List.map_map,
    List.filter_map]
  have kept : beginsWithSelect ∘ Text.trimChars ∘ String.toList =
      (fun s => decide (BeginsWithSelect s)) ∘ Text.trim := by
    funext s
    simp only [Function.comp_apply, decide_beginsWithSelect, Text.toList_trim]
  rw [kept]
  rfl

/-! ### Single statements -/

/-- A statement is a trimmed segment that begins with `SELECT`. -/
theorem AreSegments.mem_selectStatements_iff (h : AreSegments segments body) {s : String} :
    s ∈ selectStatements body ↔ (∃ t ∈ segments, Text.trim t = s) ∧ BeginsWithSelect s := by
  rw [h.selectStatements_eq, List.mem_filter, List.mem_map, decide_eq_true_iff]

/-- What a single statement of a body is like. -/
structure IsStatementOf (body s : String) : Prop where
  /-- It is a part of the body. -/
  part : ∃ before after, body = before ++ s ++ after
  /-- It cannot be split. -/
  uncut : terminator ∉ s.toList
  /-- There are no blanks at its ends. -/
  trimmed : Text.IsTrimmed s.toList
  /-- It begins with `SELECT`. -/
  begins : BeginsWithSelect s

/-- A segment is a part of the body. -/
theorem AreSegments.isInfix (h : AreSegments segments body) {s : String} (hs : s ∈ segments) :
    s.toList <:+: body.toList := by
  have segment : s.toList ∈ Text.segments terminator body.toList := by
    rw [← h.map_toList]
    exact List.mem_map_of_mem hs
  exact Text.isInfix_of_mem_segments segment

theorem isStatementOf_of_mem {s : String} (hs : s ∈ selectStatements body) :
    IsStatementOf body s := by
  obtain ⟨segments, h⟩ := exists_areSegments body
  obtain ⟨⟨t, ht, rfl⟩, begins⟩ := h.mem_selectStatements_iff.mp hs
  have inside : (Text.trim t).toList <:+: t.toList := by
    rw [Text.toList_trim]
    exact Text.isInfix_trimChars _
  refine ⟨?_, fun cut => h.uncut t ht (inside.subset cut), ?_, begins⟩
  · obtain ⟨before, after, split⟩ := inside.trans (h.isInfix ht)
    refine ⟨String.ofList before, String.ofList after, ?_⟩
    rw [← String.toList_inj, String.toList_append, String.toList_append, String.toList_ofList,
      String.toList_ofList, split]
  · rw [Text.toList_trim]
    exact Text.isTrimmed_trimChars _

/-! ### Putting statements together again -/

/-- Statements of a body are segments of the body they make when they are put together. -/
theorem areSegments_selectStatements (h : selectStatements body ≠ []) :
    AreSegments (selectStatements body) (";".intercalate (selectStatements body)) where
  joined := rfl
  uncut _ hs := (isStatementOf_of_mem hs).uncut
  ne_nil := h

/-- **Splitting is stable.** -/
theorem selectStatements_intercalate (body : String) :
    selectStatements (";".intercalate (selectStatements body)) = selectStatements body := by
  by_cases none : selectStatements body = []
  · rw [none]
    rfl
  · -- trimming leaves the statements alone, and they begin with `SELECT`
    have trim : ∀ s ∈ selectStatements body, Text.trim s = s := by
      intro s hs
      have ends := (isStatementOf_of_mem hs).trimmed
      rw [Text.trim, Text.trimChars_eq_self ends.first ends.last, String.ofList_toList]
    rw [(areSegments_selectStatements none).selectStatements_eq, List.map_congr_left trim,
      List.map_id', List.filter_eq_self]
    exact fun s hs => decide_eq_true (isStatementOf_of_mem hs).begins

/-- **How a body is split.** -/
structure SplitsExactly (body : String) : Prop where
  /-- A semicolon cuts the statements of a body. -/
  cut : ∀ a b, body = a ++ ";" ++ b → selectStatements body =
    selectStatements a ++ selectStatements b
  /-- A body has segments. -/
  covered : ∃ segments, AreSegments segments body
  /-- Its statements are those segments that begin with `SELECT` once they are trimmed, each as
  often and in the order as it is written. -/
  kept : ∀ segments, AreSegments segments body →
    selectStatements body = (segments.map Text.trim).filter (BeginsWithSelect ·)
  /-- What a single statement is like. -/
  single : ∀ s ∈ selectStatements body, IsStatementOf body s
  /-- Splitting is stable. -/
  stable : selectStatements (";".intercalate (selectStatements body)) = selectStatements body

/-- **Every body is split exactly.** -/
theorem selectStatements_exact (body : String) : SplitsExactly body where
  cut := by
    rintro a b rfl
    exact selectStatements_cut a b
  covered := exists_areSegments body
  kept _ h := h.selectStatements_eq
  single _ hs := isStatementOf_of_mem hs
  stable := selectStatements_intercalate body

/-- The first segment begins with a blank, the second has a long character among its first six
bytes, and the third is empty. -/
example : selectStatements "\u00a0Select 1;SELEKT 2;;select 3 " = ["Select 1", "select 3"] := by
  decide +kernel

/-! ### What statements give -/

variable {entity : String} {parser : ColumnParser}

theorem collectOne_of_ok {s : String} {columns : List ColumnRef} (h : parser s = .ok columns) :
    collectOne entity parser s = ⟨columns, []⟩ := by
  rw [collectOne, h]

theorem collectOne_of_error {s : String} {e : Error} (h : parser s = .error e) :
    collectOne entity parser s =
      ⟨[], [.statementParseFailure entity (preview s) e.message]⟩ := by
  rw [collectOne, h]

/-- A preview shows the first characters of a statement. -/
theorem preview_prefix (s : String) : (preview s).toList <+: s.toList := by
  rw [preview, String.toList_ofList]
  exact List.take_prefix _ _

theorem length_preview (s : String) : (preview s).length = min 50 s.length := by
  rw [preview, String.length_ofList, List.length_take, String.length_toList, previewLength]

/-- The diagnostic of a rejected statement: it names the entity, shows the first fifty characters of
the statement, and tells the error. -/
def ReportsFailure (entity : String) (parser : ColumnParser) (s : String) (x : Diagnostic) :
    Prop :=
  ∃ shown e, parser s = .error e ∧ x = .statementParseFailure entity shown e.message ∧
    shown.toList <+: s.toList ∧ shown.length = min 50 s.length

/-- The columns are those of the statements that are accepted, one after another. -/
theorem columns_collectAll (ss : List String) :
    (collectAll entity parser ss).columns =
      (ss.filterMap fun s => (parser s).toOption).flatten := by
  induction ss with
  | nil => rfl
  | cons s ss ih =>
    rw [collectAll, Collection.columns_append, ih, List.filterMap_cons]
    cases h : parser s with
    | ok columns => rw [collectOne_of_ok h]; rfl
    | error e => rw [collectOne_of_error h]; rfl

/-- **There is one diagnostic for each statement that is rejected**, in the order of the
statements. -/
theorem diagnostics_collectAll (ss : List String) :
    List.Forall₂ (ReportsFailure entity parser) (ss.filter fun s => !(parser s).isOk)
      (collectAll entity parser ss).diagnostics := by
  induction ss with
  | nil => exact .nil
  | cons s ss ih =>
    rw [collectAll, Collection.diagnostics_append, List.filter_cons]
    cases h : parser s with
    | ok columns =>
      rw [collectOne_of_ok h]
      exact ih
    | error e =>
      rw [collectOne_of_error h]
      exact .cons ⟨_, e, h, rfl, preview_prefix s, length_preview s⟩ ih

/-- A statement is accepted or leaves a diagnostic. -/
theorem length_eq_accepted_add_diagnostics (ss : List String) :
    ss.length = (ss.filter fun s => (parser s).isOk).length +
      (collectAll entity parser ss).diagnostics.length := by
  rw [← (diagnostics_collectAll ss).length_eq]
  exact List.length_eq_length_filter_add _

/-- **What the statements of a body give.** -/
structure CollectsExactly (entity : String) (parser : ColumnParser) (body : String) : Prop where
  /-- A body of two parts gives the columns and the diagnostics of the first, followed by those of
  the second. -/
  cut : ∀ a b, body = a ++ ";" ++ b →
    (collect entity parser body).columns =
        (collect entity parser a).columns ++ (collect entity parser b).columns ∧
      (collect entity parser body).diagnostics =
        (collect entity parser a).diagnostics ++ (collect entity parser b).diagnostics
  /-- The columns are those of the statements that are accepted. -/
  columns : (collect entity parser body).columns =
    ((selectStatements body).filterMap fun s => (parser s).toOption).flatten
  /-- There is one diagnostic for each statement that is rejected. -/
  diagnostics : List.Forall₂ (ReportsFailure entity parser)
    ((selectStatements body).filter fun s => !(parser s).isOk)
    (collect entity parser body).diagnostics
  /-- No statement is lost. -/
  counted : (selectStatements body).length =
    ((selectStatements body).filter fun s => (parser s).isOk).length +
      (collect entity parser body).diagnostics.length

/-- **A rejected statement is contained**, whatever the parser rejects. -/
theorem collect_exact (entity : String) (parser : ColumnParser) (body : String) :
    CollectsExactly entity parser body where
  cut := by
    rintro a b rfl
    rw [collect_cut]
    exact ⟨rfl, rfl⟩
  columns := columns_collectAll _
  diagnostics := diagnostics_collectAll _
  counted := length_eq_accepted_add_diagnostics _

end RowShape
