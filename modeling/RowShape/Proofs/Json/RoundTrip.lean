import RowShape.Json.Printer
import RowShape.Proofs.Json.Reading

/-!
# Values read back

A value that holds no numbers is written, on one line or line by line, in one of the ways to write
it.  If it is not nested too deep, it is read back from there: the members of every object in their
order, and every text with the characters that it had.

## Main definitions

* `NumberFree`: values without numbers that are nested at most so deep

## Main results

* `toList_prettyAt_array`, `toList_prettyAt_object`: the lines of arrays and objects
* `NumberFree.valueText_compact`, `NumberFree.valueText_pretty`: values are written in one of the
  ways to write them
* `parse_pretty`: the text of a value is read back
-/

namespace RowShape.Json

open Reader

/-! ### Lines -/

@[simp] theorem toList_quote (s : String) : (quote s).toList = quoteChars s.toList := by
  simp [quote]

/-- A new line of a nesting level, as characters. -/
def lineBreak (level : Nat) : List Char := (newLine level).toList

theorem isSpace_of_mem_lineBreak (level : Nat) : ∀ c ∈ lineBreak level, isSpace c := by
  intro c hc
  rw [lineBreak, newLine, String.toList_ofList, List.mem_cons, List.mem_replicate] at hc
  rcases hc with rfl | ⟨-, rfl⟩ <;> decide

/-- The break before the end of an array or object, which is not there if that is empty. -/
def closingBreak {α : Type} (level : Nat) : List α → List Char
  | [] => []
  | _ :: _ => lineBreak level

theorem isSpace_of_mem_closingBreak {α : Type} (level : Nat) (xs : List α) :
    ∀ c ∈ closingBreak level xs, isSpace c := by
  cases xs with
  | nil => exact List.forall_mem_nil _
  | cons x xs => exact isSpace_of_mem_lineBreak level

/-- The text of a member behind its name. -/
def memberText (level : Nat) (v : Json) : List Char := ':' :: ' ' :: (v.prettyAt level).toList

theorem toList_prettyItems (level : Nat) (vs : List Json) :
    (prettyItems level vs).toList =
      itemLines (lineBreak level) false (vs.map fun v => (v.prettyAt level).toList) := by
  induction vs with
  | nil => rfl
  | cons v vs ih => simp [prettyItems, itemLines, ih, lineBreak]

theorem toList_prettyMembers (level : Nat) (ms : List (String × Json)) :
    (prettyMembers level ms).toList =
      memberLines (lineBreak level) false (ms.map fun m => (m.1, memberText level m.2)) := by
  induction ms with
  | nil => rfl
  | cons m ms ih => simp [prettyMembers, memberLines, memberText, ih, lineBreak]

theorem toList_compactItems (vs : List Json) :
    (compactItems vs).toList = itemLines [] false (vs.map fun v => v.compact.toList) := by
  induction vs with
  | nil => rfl
  | cons v vs ih => simp [compactItems, itemLines, ih]

theorem toList_compactMembers (ms : List (String × Json)) :
    (compactMembers ms).toList =
      memberLines [] false (ms.map fun m => (m.1, ':' :: m.2.compact.toList)) := by
  induction ms with
  | nil => rfl
  | cons m ms ih => simp [compactMembers, memberLines, ih]

/-- The items of an array on one line. -/
theorem toList_compact_array (items : List Json) :
    (array items).compact.toList =
      '[' :: (itemLines [] true (items.map fun v => v.compact.toList) ++ ([] ++ [']'])) := by
  cases items with
  | nil => simp [compact, itemLines]
  | cons v rest => simp [compact, itemLines, toList_compactItems]

/-- The members of an object on one line. -/
theorem toList_compact_object (members : List (String × Json)) :
    (object members).compact.toList =
      '{' :: (memberLines [] true (members.map fun m => (m.1, ':' :: m.2.compact.toList)) ++
        ([] ++ ['}'])) := by
  cases members with
  | nil => simp [compact, memberLines]
  | cons m rest => simp [compact, memberLines, toList_compactMembers]

theorem toList_compact_string (s : String) : (string s).compact.toList = quoteChars s.toList := by
  rw [compact, toList_quote]

/-- **The lines of an array.** -/
theorem toList_prettyAt_array (level : Nat) (items : List Json) :
    ((array items).prettyAt level).toList =
      '[' :: (itemLines (lineBreak (level + 1)) true
        (items.map fun v => (v.prettyAt (level + 1)).toList) ++ closingBreak level items ++
          [']']) := by
  cases items with
  | nil => simp [prettyAt, itemLines, closingBreak]
  | cons v rest => simp [prettyAt, itemLines, toList_prettyItems, closingBreak, lineBreak]

/-- **The lines of an object.** -/
theorem toList_prettyAt_object (level : Nat) (members : List (String × Json)) :
    ((object members).prettyAt level).toList =
      '{' :: (memberLines (lineBreak (level + 1)) true
        (members.map fun m => (m.1, memberText (level + 1) m.2)) ++ closingBreak level members ++
          ['}']) := by
  cases members with
  | nil => simp [prettyAt, memberLines, closingBreak]
  | cons m rest =>
    simp [prettyAt, memberLines, memberText, toList_prettyMembers, closingBreak, lineBreak]

/-! ### Arrays and objects as texts -/

section Lines

variable {β : Type} {V : List Char → β → Prop} (json : β → Json) {bs : List β}
  {ms : List (String × β)}

/-- An array is written on one line. -/
theorem arrayText_compact (h : ∀ b ∈ bs, V (json b).compact.toList b) :
    ArrayText V (array (bs.map json)).compact.toList bs := by
  rw [toList_compact_array, List.map_map]
  refine .mk (itemsText_itemLines blank_nil blank_nil true _) ?_
  rw [List.forall₂_map_left_iff]
  exact List.forall₂_same.mpr h

/-- An array is written line by line. -/
theorem arrayText_pretty (level : Nat) (h : ∀ b ∈ bs, V ((json b).prettyAt (level + 1)).toList b) :
    ArrayText V ((array (bs.map json)).prettyAt level).toList bs := by
  rw [toList_prettyAt_array, List.append_assoc, List.map_map]
  refine .mk (itemsText_itemLines (isSpace_of_mem_lineBreak (level + 1))
    (isSpace_of_mem_closingBreak level _) true _) ?_
  rw [List.forall₂_map_left_iff]
  exact List.forall₂_same.mpr h

/-- An object is written on one line. -/
theorem objectText_compact (h : ∀ m ∈ ms, V (json m.2).compact.toList m.2) :
    ObjectText V (object (ms.map fun m => (m.1, json m.2))).compact.toList ms := by
  rw [toList_compact_object, List.map_map]
  refine .mk (membersText_memberLines blank_nil blank_nil true _) ?_
  rw [List.forall₂_map_left_iff]
  exact List.forall₂_same.mpr fun m hm => ⟨rfl, .tight (h m hm)⟩

/-- An object is written line by line. -/
theorem objectText_pretty (level : Nat)
    (h : ∀ m ∈ ms, V ((json m.2).prettyAt (level + 1)).toList m.2) :
    ObjectText V ((object (ms.map fun m => (m.1, json m.2))).prettyAt level).toList ms := by
  rw [toList_prettyAt_object, List.append_assoc, List.map_map]
  refine .mk (membersText_memberLines (isSpace_of_mem_lineBreak (level + 1))
    (isSpace_of_mem_closingBreak level _) true _) ?_
  rw [List.forall₂_map_left_iff]
  exact List.forall₂_same.mpr fun m hm => ⟨rfl, .spaced (h m hm)⟩

end Lines

/-! ### Values -/

/-- Values without numbers, in which arrays and objects are nested at most so deep. -/
inductive NumberFree : Nat → Json → Prop
  | null {k : Nat} : NumberFree k .null
  | bool {k : Nat} (b : Bool) : NumberFree k (.bool b)
  | string {k : Nat} (s : String) : NumberFree k (.string s)
  | array {k : Nat} {items : List Json} (h : ∀ v ∈ items, NumberFree k v) :
      NumberFree (k + 1) (.array items)
  | object {k : Nat} {members : List (String × Json)} (h : ∀ m ∈ members, NumberFree k m.2) :
      NumberFree (k + 1) (.object members)

theorem toList_prettyAt_null (level : Nat) :
    (null.prettyAt level).toList = ['n', 'u', 'l', 'l'] := by
  simp [prettyAt]

theorem toList_compact_null : null.compact.toList = ['n', 'u', 'l', 'l'] := by simp [compact]

theorem toList_prettyAt_bool (level : Nat) (b : Bool) :
    ((bool b).prettyAt level).toList =
      if b then ['t', 'r', 'u', 'e'] else ['f', 'a', 'l', 's', 'e'] := by
  cases b <;> simp [prettyAt]

theorem toList_prettyAt_string (level : Nat) (s : String) :
    ((string s).prettyAt level).toList = quoteChars s.toList := by
  rw [prettyAt, toList_quote]

/-- A truth value is written as its word. -/
theorem boolText_pretty (level : Nat) (b : Bool) : BoolText ((bool b).prettyAt level).toList b := by
  rw [toList_prettyAt_bool]
  cases b
  · exact .false
  · exact .true

theorem boolText_compact (b : Bool) : BoolText (bool b).compact.toList b := by
  have same : (bool b).compact = (bool b).prettyAt 0 := by rw [compact, prettyAt]
  rw [same]
  exact boolText_pretty 0 b

/-- **A value is written line by line** in one of the ways to write it. -/
theorem NumberFree.valueText_pretty {k : Nat} {v : Json} (h : NumberFree k v) (level : Nat) :
    ValueText k (v.prettyAt level).toList v := by
  induction h generalizing level with
  | @null k =>
    rw [toList_prettyAt_null]
    exact ScalarText.null.valueText k
  | @bool k b => exact (ScalarText.bool (boolText_pretty level b)).valueText k
  | @string k s =>
    rw [toList_prettyAt_string]
    exact valueText_quoteChars k s
  | @array k items _ ih =>
    have text := arrayText_pretty (V := ValueText k) id level fun v hv => ih v hv (level + 1)
    rw [List.map_id] at text
    exact .inr (.array text)
  | @object k members _ ih =>
    have text := objectText_pretty (V := ValueText k) id level fun m hm => ih m hm (level + 1)
    simp only [id_eq, List.map_id'] at text
    exact .inr (.object text)

/-- **A value is written on one line** in one of the ways to write it. -/
theorem NumberFree.valueText_compact {k : Nat} {v : Json} (h : NumberFree k v) :
    ValueText k v.compact.toList v := by
  induction h with
  | @null k =>
    rw [toList_compact_null]
    exact ScalarText.null.valueText k
  | @bool k b => exact (ScalarText.bool (boolText_compact b)).valueText k
  | @string k s =>
    rw [toList_compact_string]
    exact valueText_quoteChars k s
  | @array k items _ ih =>
    have text := arrayText_compact (V := ValueText k) id ih
    rw [List.map_id] at text
    exact .inr (.array text)
  | @object k members _ ih =>
    have text := objectText_compact (V := ValueText k) id ih
    simp only [id_eq, List.map_id'] at text
    exact .inr (.object text)

/-- **The text of a value is read back**, if the value holds no numbers and is not nested too
deep. -/
theorem parse_pretty {v : Json} (h : NumberFree depthLimit v) : parse v.pretty = .ok v :=
  run_of_reads (reads_value (h.valueText_pretty 0) (Nat.le_refl depthLimit))

end RowShape.Json
