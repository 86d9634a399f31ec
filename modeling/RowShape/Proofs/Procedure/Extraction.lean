import RowShape.Proofs.Procedure.Body

/-!
# Where the body of a procedure is

Any text has a body.  It reaches from the first `BEGIN` to the last `END`; a word that is missing
leaves its side open, and nothing is left if the last `END` comes before the first `BEGIN`.  The two
words share no letters at their ends and neither is a part of the other, so that these cases leave
out no text: an `END` stands before the first `BEGIN` or behind it, never across.

The body is cut out between two positions of the text.  Positions count bytes in UTF-8, and a
`BEGIN` is as many bytes long as it has letters, so that behind it a character ends, whatever
characters the text is made of.

## Main definitions

* `HasBody`: which part of a text its body is
* `byteSpan`: where the body begins and ends, in bytes
* `ExtractsBody`: how the body of a text is found

## Main results

* `exists_hasBody`: every text has a body
* `HasBody.procedureBody_eq`: the body that a text has is found, and trimmed
* `byteSpan_eq`, `exists_positions_of_body`: the body in bytes, and how it is cut out
* `exists_eq_append_procedureBody`: the body is a part of the text
* `procedureBody_exact`: how the body of any text is found
-/

namespace RowShape

/-! ### Cases -/

/-- Which part of a definition its body is. -/
inductive HasBody : String → String → Prop
  /-- Between the first `BEGIN` and the last `END`, whatever blocks there are. -/
  | enclosed {header tail : String} (body : String) (hh : ¬ bodyStart <:+: header.toList)
      (ht : ¬ bodyEnd <:+: tail.toList) :
      HasBody (header ++ "BEGIN" ++ body ++ "END" ++ tail) body
  /-- Without `END`, from the first `BEGIN` on. -/
  | unended {header body : String} (hh : ¬ bodyStart <:+: header.toList)
      (he : ¬ bodyEnd <:+: (header ++ "BEGIN" ++ body).toList) :
      HasBody (header ++ "BEGIN" ++ body) body
  /-- Without `BEGIN`, up to the last `END`. -/
  | unbegun {body tail : String} (hs : ¬ bodyStart <:+: (body ++ "END" ++ tail).toList)
      (ht : ¬ bodyEnd <:+: tail.toList) :
      HasBody (body ++ "END" ++ tail) body
  /-- Without both, the whole text. -/
  | bare {text : String} (hs : ¬ bodyStart <:+: text.toList) (he : ¬ bodyEnd <:+: text.toList) :
      HasBody text text
  /-- Nothing, if the last `END` comes before the first `BEGIN`. -/
  | crossed {before between after : String}
      (hs : ¬ bodyStart <:+: (before ++ "END" ++ between).toList)
      (he : ¬ bodyEnd <:+: (between ++ "BEGIN" ++ after).toList) :
      HasBody (before ++ "END" ++ between ++ "BEGIN" ++ after) ""

theorem bodyStart_ne_nil : bodyStart ≠ [] := by decide

theorem bodyEnd_ne_nil : bodyEnd ≠ [] := by decide

/-- An `END` stands on one side of a `BEGIN`. -/
theorem bodyEnd_infix_or {header rest : List Char}
    (h : bodyEnd <:+: header ++ bodyStart ++ rest) :
    bodyEnd <:+: header ∨ bodyEnd <:+: rest := by
  -- the letters of `BEGIN` that `END` does not have keep it on one side of them
  have letters : header ++ bodyStart ++ rest =
      header ++ 'B' :: (['E'] ++ 'G' :: (['I', 'N'] ++ rest)) := by
    simp [bodyStart]
  rw [letters] at h
  rcases Text.infix_or_of_infix_append_cons (by decide) h with left | right
  · exact .inl left
  · right
    rcases Text.infix_or_of_infix_append_cons (by decide) right with e | later
    · exact absurd e (by decide)
    · exact Text.infix_of_infix_append (by decide) later

/-- A text that contains a word is cut at its first occurrence. -/
theorem exists_first_cut {word text : String} (hword : word.toList ≠ [])
    (h : word.toList <:+: text.toList) :
    ∃ before after, text = before ++ word ++ after ∧ ¬ word.toList <:+: before.toList := by
  cases found : Text.firstIndex? word.toList text.toList with
  | none => exact absurd h ((Text.firstIndex?_eq_none_iff hword).mp found)
  | some i =>
    obtain ⟨before, after, split, -, absent⟩ := Text.exists_of_firstIndex? hword found
    refine ⟨String.ofList before, String.ofList after, ?_, by simpa using absent⟩
    rw [← String.toList_inj]
    simpa using split

/-- A text that contains a word is cut at its last occurrence. -/
theorem exists_last_cut {word text : String} (hword : word.toList ≠ [])
    (h : word.toList <:+: text.toList) :
    ∃ before after, text = before ++ word ++ after ∧ ¬ word.toList <:+: after.toList := by
  cases found : Text.lastIndex? word.toList text.toList with
  | none => exact absurd h ((Text.lastIndex?_eq_none_iff hword).mp found)
  | some i =>
    obtain ⟨before, after, split, -, absent⟩ := Text.exists_of_lastIndex? hword found
    refine ⟨String.ofList before, String.ofList after, ?_, by simpa using absent⟩
    rw [← String.toList_inj]
    simpa using split

/-- **Every text has a body.** -/
theorem exists_hasBody (definition : String) : ∃ part, HasBody definition part := by
  by_cases hs : bodyStart <:+: definition.toList
  · obtain ⟨header, rest, rfl, hh⟩ := exists_first_cut bodyStart_ne_nil hs
    by_cases hr : bodyEnd <:+: rest.toList
    · obtain ⟨body, tail, rfl, ht⟩ := exists_last_cut bodyEnd_ne_nil hr
      refine ⟨body, ?_⟩
      have enclosed := HasBody.enclosed body hh ht
      simpa only [String.append_assoc] using enclosed
    · by_cases he : bodyEnd <:+: header.toList
      · -- the last `END` comes before the first `BEGIN`
        obtain ⟨before, between, rfl, hb⟩ := exists_last_cut bodyEnd_ne_nil he
        refine ⟨"", HasBody.crossed hh ?_⟩
        intro h
        rw [String.toList_append, String.toList_append] at h
        rcases bodyEnd_infix_or h with h | h
        · exact hb h
        · exact hr h
      · refine ⟨rest, HasBody.unended hh ?_⟩
        intro h
        rw [String.toList_append, String.toList_append] at h
        rcases bodyEnd_infix_or h with h | h
        · exact he h
        · exact hr h
  · by_cases he : bodyEnd <:+: definition.toList
    · obtain ⟨body, tail, rfl, ht⟩ := exists_last_cut bodyEnd_ne_nil he
      exact ⟨body, HasBody.unbegun hs ht⟩
    · exact ⟨definition, HasBody.bare hs he⟩

/-! ### The body of each case -/

section Found

variable {header body tail : String}

/-- Without `END`, the body reaches to the end of the text. -/
theorem procedureBody_unended (hh : ¬ bodyStart <:+: header.toList)
    (he : ¬ bodyEnd <:+: (header ++ "BEGIN" ++ body).toList) :
    procedureBody (header ++ "BEGIN" ++ body) = Text.trim body := by
  have letters : (header ++ "BEGIN" ++ body).toList =
      header.toList ++ bodyStart ++ body.toList := by
    simp [bodyStart]
  have first : Text.firstIndex? bodyStart (header ++ "BEGIN" ++ body).toList =
      some header.toList.length := by
    rw [letters]
    exact Text.firstIndex?_append (by decide) hh _
  have last := (Text.lastIndex?_eq_none_iff bodyEnd_ne_nil).mpr he
  refine procedureBody_eq_of_bodySpan (header.toList ++ bodyStart) [] ?_ ?_
  · rw [letters, List.append_nil]
  · rw [bodySpan, first, last, letters]
    simp [Nat.add_assoc]

/-- Without `BEGIN`, the body begins with the text. -/
theorem procedureBody_unbegun (hs : ¬ bodyStart <:+: (body ++ "END" ++ tail).toList)
    (ht : ¬ bodyEnd <:+: tail.toList) :
    procedureBody (body ++ "END" ++ tail) = Text.trim body := by
  have letters : (body ++ "END" ++ tail).toList = body.toList ++ bodyEnd ++ tail.toList := by
    simp [bodyEnd]
  have first := (Text.firstIndex?_eq_none_iff bodyStart_ne_nil).mpr hs
  have last : Text.lastIndex? bodyEnd (body ++ "END" ++ tail).toList =
      some body.toList.length := by
    rw [letters]
    exact Text.lastIndex?_append (by decide) ht _
  refine procedureBody_eq_of_bodySpan [] (bodyEnd ++ tail.toList) ?_ ?_
  · rw [letters, List.nil_append, List.append_assoc]
  · rw [bodySpan, first, last]
    simp

/-- Without both, the body is the text. -/
theorem procedureBody_bare (hs : ¬ bodyStart <:+: body.toList) (he : ¬ bodyEnd <:+: body.toList) :
    procedureBody body = Text.trim body := by
  have first := (Text.firstIndex?_eq_none_iff bodyStart_ne_nil).mpr hs
  have last := (Text.lastIndex?_eq_none_iff bodyEnd_ne_nil).mpr he
  refine procedureBody_eq_of_bodySpan [] [] ?_ ?_
  · rw [List.nil_append, List.append_nil]
  · rw [bodySpan, first, last]
    simp

/-- There is no body if the last `END` comes before the first `BEGIN`. -/
theorem procedureBody_crossed {before between after : String}
    (hs : ¬ bodyStart <:+: (before ++ "END" ++ between).toList)
    (he : ¬ bodyEnd <:+: (between ++ "BEGIN" ++ after).toList) :
    procedureBody (before ++ "END" ++ between ++ "BEGIN" ++ after) = "" := by
  have first : Text.firstIndex? bodyStart
      (before ++ "END" ++ between ++ "BEGIN" ++ after).toList =
        some (before ++ "END" ++ between).toList.length := by
    rw [String.toList_append, String.toList_append]
    exact Text.firstIndex?_append (by decide) hs _
  have last : Text.lastIndex? bodyEnd (before ++ "END" ++ between ++ "BEGIN" ++ after).toList =
      some before.toList.length := by
    have letters : (before ++ "END" ++ between ++ "BEGIN" ++ after).toList =
        before.toList ++ bodyEnd ++ (between ++ "BEGIN" ++ after).toList := by
      simp [bodyEnd]
    rw [letters]
    exact Text.lastIndex?_append (by decide) he _
  have none (cs : List Char) : (cs.take before.toList.length).drop
      ((before ++ "END" ++ between).toList.length + bodyStart.length) = [] := by
    rw [List.drop_eq_nil_iff, List.length_take]
    simp
    omega
  rw [procedureBody, bodyChars, bodySpan, first, last]
  simp only [Option.map_some, Option.getD_some, none]
  rfl

end Found

/-- **The body that a text has is found**, and trimmed. -/
theorem HasBody.procedureBody_eq {definition part : String} (h : HasBody definition part) :
    procedureBody definition = Text.trim part := by
  cases h with
  | enclosed _ hh ht => exact procedureBody_enclose hh ht part
  | unended hh he => exact procedureBody_unended hh he
  | unbegun hs ht => exact procedureBody_unbegun hs ht
  | bare hs he => exact procedureBody_bare hs he
  | crossed hs he => exact procedureBody_crossed hs he

/-! ### Positions in bytes -/

/-- The number of bytes, in UTF-8, of the first characters of a text. -/
def Text.byteOffset (text : String) (n : Nat) : Nat :=
  (String.ofList (text.toList.take n)).utf8ByteSize

/-- Where the body of a definition begins and ends, in bytes: behind the first `BEGIN`, and at the
last `END`. -/
def byteSpan (definition : String) : Nat × Nat :=
  (((Text.firstIndex? bodyStart definition.toList).map fun i =>
      Text.byteOffset definition i + "BEGIN".utf8ByteSize).getD 0,
    ((Text.lastIndex? bodyEnd definition.toList).map (Text.byteOffset definition)).getD
      definition.utf8ByteSize)

theorem Text.take_eq_append {cs : List Char} {m n : Nat} (h : m ≤ n) :
    cs.take n = cs.take m ++ (cs.take n).drop m := by
  conv_lhs => rw [← List.take_append_drop m (cs.take n), List.take_take, Nat.min_eq_left h]

/-- Behind a part of a text, the offset has grown by the bytes of the part. -/
theorem Text.byteOffset_eq_add (text : String) {m n : Nat} (h : m ≤ n) :
    byteOffset text n =
      byteOffset text m + (String.ofList ((text.toList.take n).drop m)).utf8ByteSize := by
  conv_lhs => rw [byteOffset, take_eq_append h, String.ofList_append, String.utf8ByteSize_append]
  rfl

/-- **Bytes and characters of the body**: the bytes at its ends are those of whole characters. -/
theorem byteSpan_eq (definition : String) :
    byteSpan definition =
      (Text.byteOffset definition (bodySpan definition.toList).1,
        Text.byteOffset definition (bodySpan definition.toList).2) := by
  rw [byteSpan, bodySpan]
  congr 1
  · cases found : Text.firstIndex? bodyStart definition.toList with
    | none => simp [Text.byteOffset]
    | some i =>
      obtain ⟨before, after, split, rfl, -⟩ := Text.exists_of_firstIndex? bodyStart_ne_nil found
      have word : (definition.toList.take (before.length + bodyStart.length)).drop before.length =
          bodyStart := by
        rw [split, ← List.length_append, List.take_left, List.drop_left]
      simp only [Option.map_some, Option.getD_some]
      rw [Text.byteOffset_eq_add definition (Nat.le_add_right _ _), word]
      rfl
  · cases Text.lastIndex? bodyEnd definition.toList with
    | none => simp [Text.byteOffset]
    | some j => rfl

/-- Behind any number of characters a text has a position. -/
theorem Text.exists_position (text : String) (n : Nat) :
    ∃ p : text.Pos, p.offset.byteIdx = byteOffset text n ∧
      p.Splits (String.ofList (text.toList.take n)) (String.ofList (text.toList.drop n)) := by
  have parts : text = String.ofList (text.toList.take n) ++ String.ofList (text.toList.drop n) := by
    rw [← String.ofList_append, List.take_append_drop, String.ofList_toList]
  have splits := String.Pos.splits_ofEqAppend parts
  refine ⟨String.Pos.ofEqAppend parts, ?_, splits⟩
  rw [splits.offset_eq_rawEndPos]
  rfl

/-- Between two positions of a text stand the characters that are behind the first of them only. -/
theorem Text.extract_eq {text : String} {m n : Nat} (h : m ≤ n) {first last : text.Pos}
    (hf : first.Splits (String.ofList (text.toList.take m)) (String.ofList (text.toList.drop m)))
    (hl : last.Splits (String.ofList (text.toList.take n)) (String.ofList (text.toList.drop n))) :
    String.extract first last = String.ofList ((text.toList.take n).drop m) := by
  have behind : text.toList.drop m = (text.toList.take n).drop m ++ text.toList.drop n := by
    conv_lhs => rw [← List.take_append_drop (n - m) (text.toList.drop m), List.drop_drop,
      Nat.add_sub_cancel' h]
    rw [List.drop_take]
  rw [behind, String.ofList_append] at hf
  rw [take_eq_append h, String.ofList_append] at hl
  obtain ⟨le, copy⟩ := String.copy_slice_eq_iff_splits.mpr ⟨_, _, hf, hl⟩
  rw [String.extract_eq_copy_slice first last le, copy]

/-- No characters are left between two offsets that have changed places. -/
theorem Text.drop_take_eq_nil {text : String} {m n : Nat}
    (h : byteOffset text n ≤ byteOffset text m) : (text.toList.take n).drop m = [] := by
  rcases Nat.le_total m n with le | le
  · -- every character between them would take up some bytes
    have bytes := byteOffset_eq_add text le
    have empty : String.ofList ((text.toList.take n).drop m) = "" := by
      rw [← String.utf8ByteSize_eq_zero_iff]
      omega
    simpa using empty
  · rw [List.drop_eq_nil_iff, List.length_take]
    omega

/-- **The body is cut out** between two positions of the text, unless these have changed places. -/
theorem exists_positions_of_body (definition : String) :
    ∃ first last : definition.Pos,
      (first.offset.byteIdx, last.offset.byteIdx) = byteSpan definition ∧
        procedureBody definition =
          if last ≤ first then "" else Text.trim (String.extract first last) := by
  generalize ends : bodySpan definition.toList = span
  obtain ⟨m, n⟩ := span
  obtain ⟨first, first_byte, hf⟩ := Text.exists_position definition m
  obtain ⟨last, last_byte, hl⟩ := Text.exists_position definition n
  have order : last ≤ first ↔ Text.byteOffset definition n ≤ Text.byteOffset definition m := by
    rw [String.Pos.le_iff, String.Pos.Raw.le_iff, first_byte, last_byte]
  have body : procedureBody definition =
      Text.trim (String.ofList ((definition.toList.take n).drop m)) := by
    rw [procedureBody, bodyChars, ends, Text.trim, String.toList_ofList]
  refine ⟨first, last, ?_, ?_⟩
  · rw [byteSpan_eq, ends, first_byte, last_byte]
  rw [body]
  by_cases moved : last ≤ first
  · rw [if_pos moved, Text.drop_take_eq_nil (order.mp moved)]
    rfl
  · have le : m ≤ n := by
      by_contra gt
      have bytes := Text.byteOffset_eq_add definition (Nat.le_of_not_le gt)
      apply moved
      rw [order]
      omega
    rw [if_neg moved, Text.extract_eq le hf hl]

/-- **The body is a part of the text.** -/
theorem exists_eq_append_procedureBody (definition : String) :
    ∃ before after, definition = before ++ procedureBody definition ++ after := by
  have inside : (procedureBody definition).toList <:+: definition.toList := by
    rw [procedureBody, String.toList_ofList, bodyChars]
    -- trimming takes a part of what is left when both ends are cut off
    refine (Text.isInfix_trimChars _).trans ?_
    exact (List.drop_suffix _ _).isInfix.trans (List.take_prefix _ _).isInfix
  obtain ⟨before, after, split⟩ := inside
  refine ⟨String.ofList before, String.ofList after, ?_⟩
  rw [← String.toList_inj, String.toList_append, String.toList_append, String.toList_ofList,
    String.toList_ofList, split]

/-! ### All texts -/

/-- How the body of a definition is found. -/
structure ExtractsBody (definition : String) : Prop where
  /-- The definition has a body. -/
  covered : ∃ part, HasBody definition part
  /-- Whichever part it is, this part is found, and trimmed. -/
  found : ∀ part, HasBody definition part → procedureBody definition = Text.trim part
  /-- It is cut out between two positions of the text, unless these have changed places. -/
  cut : ∃ first last : definition.Pos,
    (first.offset.byteIdx, last.offset.byteIdx) = byteSpan definition ∧
      procedureBody definition =
        if last ≤ first then "" else Text.trim (String.extract first last)
  /-- It is a part of the text. -/
  contiguous : ∃ before after, definition = before ++ procedureBody definition ++ after
  /-- There are no blanks at its ends. -/
  trimmed : Text.IsTrimmed (procedureBody definition).toList

/-- **How the body of any text is found.** -/
theorem procedureBody_exact (definition : String) : ExtractsBody definition where
  covered := exists_hasBody definition
  found _ h := h.procedureBody_eq
  cut := exists_positions_of_body definition
  contiguous := exists_eq_append_procedureBody definition
  trimmed := by
    rw [procedureBody, String.toList_ofList]
    exact Text.isTrimmed_trimChars _

/-- A body that holds the words around it, in a text whose characters differ in their bytes. -/
example : byteSpan "→ BEGIN é BEGIN END END ←" = (9, 23) := by
  decide

end RowShape
