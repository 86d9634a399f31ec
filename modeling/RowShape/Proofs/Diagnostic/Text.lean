import RowShape.Diagnostic.Json
import RowShape.Proofs.Json.Order

/-!
# Diagnostics as texts

A diagnostic is an object whose member `kind` tells how the others are read.  That member may stand
anywhere among them: members that stand before it are kept until the kind is known, and so are those
behind it.  What is kept is then read as the fields of the kind, whose order does not matter.

The members are read one by one.  The kind is read where it has not been read before
(`takes_readMember_kind`), and any other member is kept (`takes_readMember_other`), so that by
induction over the members in front of the kind all of them are read (`takesMembers_tagged`).

## Main definitions

* `Diagnostic.kindName`, `Diagnostic.fields`, `Diagnostic.format`: the kind of a diagnostic, its
  other members, and how these are read
* `DiagnosticText`: the ways to write a diagnostic

## Main results

* `ColumnRef.regular_format`, `Diagnostic.regular_format`: members may be read in any order
* `Diagnostic.exists_tagged_of_reordered`: the kind among the other members
* `Diagnostic.reads_reader`: a diagnostic is read from its members in any order
* `Diagnostic.reader_exact`: diagnostics and their texts
-/

namespace RowShape

open Json Json.Reader

/-! ### References and reasons -/

theorem SkipReason.decode_word (reason : SkipReason) :
    SkipReason.words.decode (.string reason.word) = .ok reason := by
  cases reason <;> rfl

/-- The members of a reference may be read in any order. -/
theorem ColumnRef.regular_format : ColumnRef.format.Regular := by
  have text := Decoder.orderFree_string
  -- what is read of a member has a place of its own
  refine .of_three rfl (.of text.nullable ?_) (.of text ?_) (.of text ?_) (.of ?_ ?_ ?_)
    (.of ?_ ?_ ?_) (.of ?_ ?_ ?_) <;> intros <;> rfl

theorem ColumnRef.decode_toJson (r : ColumnRef) : ColumnRef.format.decode r.toJson = .ok r := by
  obtain ⟨f | f, source, column⟩ := r <;> rfl

/-! ### Fields -/

namespace Diagnostic

/-- The word for the kind of a diagnostic. -/
def kindName : Diagnostic → String
  | statementParseFailure .. => "statement_parse_failure"
  | unresolvedColumn .. => "unresolved_column"
  | schemaSelfCheckFailure .. => "schema_self_check_failure"

/-- How a diagnostic is read once its kind is known. -/
def format : Diagnostic → RecordFormat Decoder PartialDiagnostic Diagnostic
  | statementParseFailure .. => parseFailureFormat
  | unresolvedColumn .. => unresolvedFormat
  | schemaSelfCheckFailure .. => selfCheckFormat

/-- The members of a diagnostic besides its kind. -/
def fields : Diagnostic → List (String × Json)
  | statementParseFailure entity statement reason =>
    [("entity", .string entity), ("statement", .string statement), ("reason", .string reason)]
  | unresolvedColumn entity reference reason =>
    [("entity", .string entity), ("reference", reference.toJson), ("reason", .string reason.word)]
  | schemaSelfCheckFailure schemaId reason =>
    [("schema_id", .string schemaId), ("reason", .string reason)]

theorem toJson_eq (d : Diagnostic) :
    d.toJson = .object (("kind", .string d.kindName) :: d.fields) := by
  cases d <;> rfl

theorem lookup_kindName (d : Diagnostic) : kinds.lookup d.kindName = some d.format := by
  cases d <;> rfl

theorem name_ne_kind (d : Diagnostic) : ∀ m ∈ d.fields, m.1 ≠ "kind" := by
  cases d <;> simp [fields]

/-- A diagnostic is read from its members in the order in which they are written. -/
theorem decode_fields (d : Diagnostic) : d.format.decode (.object d.fields) = .ok d := by
  cases d with
  | statementParseFailure => rfl
  | unresolvedColumn entity r reason =>
    have reference (p : PartialDiagnostic) (unread : p.reference = none) :
        unresolvedFormat.decodeMember p ("reference", r.toJson) =
          .ok { p with reference := some r } :=
      RecordFormat.decodeMember_eq_ok_iff.mpr (.inr ⟨_, rfl, congrArg Option.isSome unread,
        Field.read_of_eq_ok_iff.mpr ⟨r, r.decode_toJson, rfl⟩⟩)
    have word (p : PartialDiagnostic) (unread : p.skipped = none) :
        unresolvedFormat.decodeMember p ("reason", .string reason.word) =
          .ok { p with skipped := some reason } :=
      RecordFormat.decodeMember_eq_ok_iff.mpr (.inr ⟨_, rfl, congrArg Option.isSome unread,
        Field.read_of_eq_ok_iff.mpr ⟨reason, reason.decode_word, rfl⟩⟩)
    simp only [format, fields, RecordFormat.decode, List.foldlM_cons, bind_eq_ok_iff]
    exact ⟨_, ⟨_, rfl, _, reference _ rfl, _, word _ rfl, rfl⟩, rfl⟩
  | schemaSelfCheckFailure => rfl

/-- The members of a diagnostic may be read in any order. -/
theorem regular_format (d : Diagnostic) : d.format.Regular := by
  have text := Decoder.orderFree_string
  cases d with
  | statementParseFailure =>
    refine .of_three rfl (.of text ?_) (.of text ?_) (.of text ?_) (.of ?_ ?_ ?_) (.of ?_ ?_ ?_)
      (.of ?_ ?_ ?_) <;> intros <;> rfl
  | unresolvedColumn =>
    have reference := ColumnRef.regular_format.orderFree_decode
    have word := SkipReason.words.orderFree_decode
    refine .of_three rfl (.of text ?_) (.of reference ?_) (.of word ?_) (.of ?_ ?_ ?_)
      (.of ?_ ?_ ?_) (.of ?_ ?_ ?_) <;> intros <;> rfl
  | schemaSelfCheckFailure =>
    refine .of_two rfl (.of text ?_) (.of text ?_) (.of ?_ ?_ ?_) <;> intros <;> rfl

/-- **The members of a diagnostic in another order**: among them stands the kind, and what stands
around it is read as the diagnostic. -/
theorem exists_tagged_of_reordered {d : Diagnostic} {v : Json} (h : d.toJson.Reordered v) :
    ∃ before behind, v = .object (before ++ ("kind", .string d.kindName) :: behind) ∧
      (∀ m ∈ before ++ behind, m.1 ≠ "kind") ∧
        d.format.decode (.object (before ++ behind)) = .ok d := by
  rw [toJson_eq] at h
  obtain ⟨ns, ns', rfl, each, order⟩ := reordered_object_iff.mp h
  obtain ⟨⟨_, v⟩, fields, ⟨rfl, word⟩, others, rfl⟩ := List.forall₂_cons_left_iff.mp each
  cases word
  obtain ⟨before, behind, rfl⟩ := List.append_of_mem (order.mem_iff.mp List.mem_cons_self)
  have rest : fields.Perm (before ++ behind) := (order.trans List.perm_middle).cons_inv
  refine ⟨before, behind, rfl, fun m hm => ?_, ?_⟩
  · have untagged := forall_mem_of_forall₂ others (q := fun n => n.1 ≠ "kind")
      fun m hm n own => own.1 ▸ d.name_ne_kind m hm
    exact untagged m (rest.mem_iff.mpr hm)
  · exact d.regular_format.orderFree_decode (reordered_object_iff.mpr ⟨_, _, rfl, others, rest⟩)
      d.decode_fields

/-! ### Reading -/

/-- The kind is read where it has not been read before. -/
theorem takes_readMember_kind {n : Nat} {b : Buffered} (unread : b.kind = none)
    {text : List Char} {word : String} {f : RecordFormat Decoder PartialDiagnostic Diagnostic}
    (found : kinds.lookup word = some f) (h : BehindColon (StringText · word) text) :
    Takes (readMember b "kind") n text { b with kind := some f } := by
  have known : kinds.ofWord word = .ok f := by rw [Enumeration.ofWord, found]
  have read : readMember b "kind" = colon >>= fun _ => kindReader >>= fun f =>
      pure { b with kind := some f } := by
    rw [readMember, if_pos rfl, unread]
    rfl
  rw [read]
  exact takes_colon (((skipsSpaces_fromToken _).bind _).bind _) (h.imp fun _ hs =>
    (((reads_stringFor _ hs).bind_except known).bind_pure _).takes)

/-- Any other member is kept. -/
theorem takes_readMember_other {k n : Nat} (b : Buffered) {name : String} (hn : name ≠ "kind")
    {text : List Char} {v : Json} (h : BehindColon (ValueText k · v) text) :
    Takes (readMember b name) (n + k) text { b with members := (name, v) :: b.members } := by
  rw [readMember, if_neg hn]
  exact takes_colon (skipsSpaces_value.bind _) (h.imp fun _ hv =>
    ((reads_value hv (Nat.le_add_left k n)).bind_pure _).takes)

/-- A member with its name and one of the texts of its value. -/
def MemberText (k : Nat) (m : String × List Char) (v : String × Json) : Prop :=
  m.1 = v.1 ∧ BehindColon (ValueText k · v.2) m.2

/-- Members without a kind among them are kept, the latest first. -/
theorem takesMembers_others {k n : Nat} {members : List (String × List Char)}
    {values : List (String × Json)} (each : List.Forall₂ (MemberText k) members values)
    (hn : ∀ v ∈ values, v.1 ≠ "kind") (b : Buffered) :
    TakesMembers readMember (n + k) b members
      { b with members := values.reverse ++ b.members } := by
  induction each generalizing b with
  | nil => exact .nil b
  | @cons m v members values own _ ih =>
    obtain ⟨name, text⟩ := m
    obtain ⟨rfl, own⟩ := own
    obtain ⟨first, others⟩ := List.forall_mem_cons.mp hn
    rw [List.reverse_cons, List.append_assoc]
    exact .cons (takes_readMember_other b first own) (ih others _)

/-- **The kind may stand anywhere** among the members. -/
theorem takesMembers_tagged {k n : Nat} {members : List (String × List Char)}
    {before behind : List (String × Json)} {word : String}
    {f : RecordFormat Decoder PartialDiagnostic Diagnostic} (found : kinds.lookup word = some f)
    (each : List.Forall₂ (MemberText k) members (before ++ ("kind", .string word) :: behind))
    (hn : ∀ v ∈ before ++ behind, v.1 ≠ "kind") (kept : List (String × Json)) :
    TakesMembers readMember (n + k) ⟨none, kept⟩ members
      ⟨some f, (before ++ behind).reverse ++ kept⟩ := by
  induction before generalizing members kept with
  | nil =>
    obtain ⟨⟨_, text⟩, members, ⟨rfl, own⟩, rest, rfl⟩ := List.forall₂_cons_right_iff.mp each
    exact .cons (takes_readMember_kind rfl found (own.imp fun _ h => h.stringText))
      (takesMembers_others rest hn _)
  | cons v before ih =>
    obtain ⟨⟨_, text⟩, members, ⟨rfl, own⟩, rest, rfl⟩ := List.forall₂_cons_right_iff.mp each
    obtain ⟨first, others⟩ := List.forall_mem_cons.mp hn
    rw [List.cons_append, List.reverse_cons, List.append_assoc]
    exact .cons (takes_readMember_other _ first own) (ih rest others _)

/-- **A diagnostic is read from its members**, in whatever order they stand. -/
theorem reads_reader {k n : Nat} {d : Diagnostic} {v : Json} {text : List Char}
    (order : d.toJson.Reordered v) (h : ValueText (k + 1) text v) :
    Reads reader (n + k + 1) text d := by
  obtain ⟨before, behind, rfl, hn, decoded⟩ := exists_tagged_of_reordered order
  obtain ⟨layout, each⟩ := h.objectText
  have taken := takesMembers_tagged (n := n) d.lookup_kindName each hn []
  rw [List.append_nil] at taken
  -- behind the end of the object the kind is known, and nothing else is read
  have inside := (reads_membersText layout taken).bind (t := [])
    (f := fun b => liftM (required "kind" b.kind) >>= fun kind =>
      pure (kind, Json.object b.members.reverse))
    (b := (d.format, Json.object (before ++ behind).reverse.reverse)) fun rest => rfl
  rw [List.append_nil, List.reverse_reverse] at inside
  have tagged : Reads taggedReader (n + k + 1) _ _ :=
    reads_fromToken (c := '{') (by decide) ((reads_skip '{').bind inside.nested)
  exact tagged.bind_except decoded

theorem skipsSpaces_reader : SkipsSpaces reader := (skipsSpaces_fromToken _).bind _

end Diagnostic

/-! ### Texts -/

/-- **The ways to write a diagnostic**: as an object whose members stand in any order, as those of
its reference do, with each value in one of the ways to write it and with blanks around it. -/
inductive DiagnosticText : List Char → Diagnostic → Prop
  | mk {before text behind : List Char} {v : Json} {d : Diagnostic} (h : Blank before)
      (order : d.toJson.Reordered v) (hv : ValueText 2 text v) (h' : Blank behind) :
      DiagnosticText (before ++ (text ++ behind)) d

namespace Diagnostic

theorem reader_run_of_text {text : String} {d : Diagnostic} (h : DiagnosticText text.toList d) :
    reader.run text = .ok d := by
  generalize ht : text.toList = s at h
  obtain ⟨hb, order, hv, hb'⟩ := h
  have read : Reads reader depthLimit _ d :=
    (reads_reader (n := 125) order hv).blank skipsSpaces_reader hb
  rw [← List.append_assoc] at ht
  exact run_of_reads_blank read hb' ht

theorem numberFree (d : Diagnostic) : NumberFree 2 d.toJson := by
  cases d with
  | unresolvedColumn entity r reason =>
    have reference : NumberFree 1 r.toJson := by
      obtain ⟨f | f, source, column⟩ := r <;>
        exact .object (by simp [NumberFree.null, NumberFree.string])
    exact .object (by simp [reference, NumberFree.string])
  | _ => exact .object (by simp [NumberFree.string])

/-- A diagnostic is written in one of the ways to write it, whatever the order of its members. -/
theorem diagnosticText_of_valueText {d : Diagnostic} {v : Json} {text : List Char}
    (order : d.toJson.Reordered v) (h : ValueText 2 text v) : DiagnosticText text d := by
  have whole := DiagnosticText.mk blank_nil order h blank_nil
  rwa [List.append_nil] at whole

/-- **Diagnostics and their texts.**  A diagnostic is read from each of the ways to write it.  In
particular it is read back from its own text, on one line or line by line, whatever the order of its
members and of those of its reference.  No text is written for two diagnostics. -/
theorem reader_exact :
    (∀ (text : String) (d : Diagnostic), DiagnosticText text.toList d → reader.run text = .ok d) ∧
      (∀ (d : Diagnostic) (v : Json), d.toJson.Reordered v →
        reader.run v.compact = .ok d ∧ reader.run v.pretty = .ok d) ∧
      ∀ (text : String) (d e : Diagnostic),
        DiagnosticText text.toList d → DiagnosticText text.toList e → d = e := by
  refine ⟨fun text d h => reader_run_of_text h, fun d v order => ?_, fun text d e hd he => ?_⟩
  · have free := d.numberFree.reordered order
    exact ⟨reader_run_of_text (diagnosticText_of_valueText order free.valueText_compact),
      reader_run_of_text (diagnosticText_of_valueText order (free.valueText_pretty 0))⟩
  · exact Except.ok.inj ((reader_run_of_text hd).symm.trans (reader_run_of_text he))

/-- A column that the catalog does not have. -/
def missingTotal : Diagnostic :=
  .unresolvedColumn "sales" ⟨none, "o", "total"⟩ .unknownColumn

/-- The same with all members in reverse, so that the kind comes last. -/
def reversedTotal : Json :=
  .object [("reason", .string "unknown_column"),
    ("reference", .object [("column_name", .string "total"), ("source_tag", .string "o"),
      ("aggregate_fn", .null)]),
    ("entity", .string "sales"), ("kind", .string "unresolved_column")]

/-- A text of this, in which one letter is escaped. -/
def reversedText : String :=
  " \x7b\"reason\":\"unknown_column\",\"reference\": \x7b \"column_name\": \"total\", " ++
    "\"source_tag\": \"\\u006F\", \"aggregate_fn\": null\x7d,\"entity\":\"sales\"," ++
      "\"kind\":\"unresolved_column\"\x7d"

theorem reordered_reversedTotal : missingTotal.toJson.Reordered reversedTotal := by
  have reference (ms : List (String × Json)) : (Json.object ms).Reordered (.object ms.reverse) :=
    reordered_object_iff.mpr
      ⟨_, _, rfl, forall₂_reorderedMember_refl ms, (List.reverse_perm ms).symm⟩
  refine reordered_object_iff.mpr ⟨_, _, rfl, ?_, List.reverse_perm _⟩
  exact .cons ⟨rfl, .same _⟩ (.cons ⟨rfl, .same _⟩ (.cons ⟨rfl, reference _⟩
    (.cons ⟨rfl, .same _⟩ .nil)))

theorem diagnosticText_reversed : DiagnosticText reversedText.toList missingTotal := by
  have letter : ValueText 0 ['"', '\\', 'u', '0', '0', '6', 'F', '"'] (.string "o") := by
    have number : HexText ['0', '0', '6', 'F'] 'o'.toNat :=
      .mk (i := 0) (j := 0) (k := 6) (l := 15) ⟨by decide, by decide⟩ ⟨by decide, by decide⟩
        ⟨by decide, by decide⟩ ⟨by decide, by decide⟩
    exact .string ⟨_, ⟨_, .cons (.numbered number) .nil, rfl⟩, rfl⟩
  have reference : ValueText 1 _ (.object [("column_name", .string "total"),
      ("source_tag", .string "o"), ("aggregate_fn", .null)]) :=
    .inr (.object (.mk (membersText_memberLines blank_space blank_nil true
        [("column_name", _), ("source_tag", _), ("aggregate_fn", _)])
      (.cons ⟨rfl, .spaced (valueText_quoteChars 0 _)⟩ (.cons ⟨rfl, .spaced letter⟩
        (.cons ⟨rfl, .spaced ScalarText.null⟩ .nil)))))
  have whole : ValueText 2 _ reversedTotal :=
    .inr (.object (.mk (membersText_memberLines blank_nil blank_nil true
        [("reason", _), ("reference", _), ("entity", _), ("kind", _)])
      (.cons ⟨rfl, .tight (valueText_quoteChars 1 _)⟩ (.cons ⟨rfl, .spaced reference⟩
        (.cons ⟨rfl, .tight (valueText_quoteChars 1 _)⟩
          (.cons ⟨rfl, .tight (valueText_quoteChars 1 _)⟩ .nil))))))
  obtain ⟨text, form, same⟩ :
      ∃ text, DiagnosticText text missingTotal ∧ text = reversedText.toList := by
    refine ⟨_, .mk blank_space reordered_reversedTotal whole blank_nil, ?_⟩
    decide +kernel
  exact same ▸ form

/-- The diagnostic is read from this text, and from the text that its members have in reverse. -/
theorem reader_exact_reversed :
    DiagnosticText reversedText.toList missingTotal ∧ reader.run reversedText = .ok missingTotal ∧
      missingTotal.toJson.Reordered reversedTotal ∧
        reader.run reversedTotal.pretty = .ok missingTotal :=
  ⟨diagnosticText_reversed, reader_exact.1 _ _ diagnosticText_reversed, reordered_reversedTotal,
    (reader_exact.2.1 _ _ reordered_reversedTotal).2⟩

end Diagnostic

end RowShape
