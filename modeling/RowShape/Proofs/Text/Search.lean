import RowShape.Text.Search
import Mathlib.Data.List.Infix
import Mathlib.Data.List.TakeWhile

/-!
# Occurrences, segments and blanks

A word whose first letter does not come again in it cannot overlap with itself.  Such a word is
found first behind a text that does not contain it, and last before one that does not, whatever
stands on the other side.

A text is either a piece without separators or two texts with a separator between them; its segments
are cut accordingly.  Blanks at the ends of a text are blanks at the ends of its segments.

## Main results

* `firstIndex?_append`, `lastIndex?_append`: where a word is found
* `segments_induction`: texts by their separators
* `map_trimChars_segments`: trimming a text first does not change its trimmed segments
-/

namespace RowShape.Text

/-! ### Occurrences -/

variable {c : Char} {word before after : List Char}

theorem firstIndex?_eq_none_iff (hword : word ≠ []) :
    firstIndex? word after = none ↔ ¬ word <:+: after := by
  induction after with
  | nil => simp [firstIndex?, hword]
  | cons d ds ih =>
    rw [List.infix_cons_iff, not_or, ← ih, ← List.isPrefixOf_iff_prefix, firstIndex?]
    by_cases start : word.isPrefixOf (d :: ds) <;> simp [start]

theorem lastIndex?_eq_none_iff (hword : word ≠ []) :
    lastIndex? word after = none ↔ ¬ word <:+: after := by
  induction after with
  | nil => simp [lastIndex?, hword]
  | cons d ds ih =>
    rw [List.infix_cons_iff, not_or, ← ih, ← List.isPrefixOf_iff_prefix, lastIndex?]
    cases lastIndex? word ds with
    | some i => simp
    | none => by_cases start : word.isPrefixOf (d :: ds) <;> simp [start]

/-- **Where a word is found first**, it stands behind a text that does not contain it. -/
theorem exists_of_firstIndex? {cs : List Char} {i : Nat} (hword : word ≠ [])
    (h : firstIndex? word cs = some i) :
    ∃ before after, cs = before ++ word ++ after ∧ before.length = i ∧ ¬ word <:+: before := by
  induction cs generalizing i with
  | nil => simp [firstIndex?, hword] at h
  | cons d ds ih =>
    rw [firstIndex?] at h
    by_cases start : word.isPrefixOf (d :: ds)
    · rw [if_pos start, Option.some_inj] at h
      obtain ⟨after, split⟩ := List.isPrefixOf_iff_prefix.mp start
      exact ⟨[], after, split.symm, h, by simpa using hword⟩
    · rw [if_neg start, Option.map_eq_some_iff] at h
      obtain ⟨j, found, rfl⟩ := h
      obtain ⟨before, after, rfl, rfl, absent⟩ := ih found
      refine ⟨d :: before, after, rfl, rfl, ?_⟩
      rw [List.infix_cons_iff, not_or]
      refine ⟨fun here => start (List.isPrefixOf_iff_prefix.mpr ?_), absent⟩
      rw [List.append_assoc, ← List.cons_append]
      exact here.trans (List.prefix_append _ _)

/-- **Where a word is found last**, it stands before a text that does not contain it. -/
theorem exists_of_lastIndex? {cs : List Char} {i : Nat} (hword : word ≠ [])
    (h : lastIndex? word cs = some i) :
    ∃ before after, cs = before ++ word ++ after ∧ before.length = i ∧ ¬ word <:+: after := by
  induction cs generalizing i with
  | nil => simp [lastIndex?, hword] at h
  | cons d ds ih =>
    rw [lastIndex?] at h
    cases found : lastIndex? word ds with
    | some j =>
      rw [found] at h
      obtain rfl := Option.some.inj h
      obtain ⟨before, after, rfl, rfl, absent⟩ := ih found
      exact ⟨d :: before, after, rfl, rfl, absent⟩
    | none =>
      rw [found] at h
      simp only [Option.ite_none_right_eq_some, Option.some_inj] at h
      obtain ⟨start, rfl⟩ := h
      obtain ⟨after, split⟩ := List.isPrefixOf_iff_prefix.mp start
      refine ⟨[], after, split.symm, rfl, fun later => ?_⟩
      -- what stands behind the word is a part of what stands behind its first letter
      obtain ⟨e, letters, rfl⟩ := List.exists_cons_of_ne_nil hword
      obtain ⟨-, rfl⟩ := List.cons.inj split
      exact (lastIndex?_eq_none_iff hword).mp found (List.infix_append_of_infix_right later)

/-- A word does not run across a letter that is none of its own. -/
theorem infix_or_of_infix_append_cons (hc : c ∉ word) (h : word <:+: before ++ c :: after) :
    word <:+: before ∨ word <:+: after := by
  rcases List.infix_append_iff.mp h with left | right | ⟨start, rest, rfl, hstart, hrest⟩
  · exact .inl left
  · rcases List.infix_cons_iff.mp right with here | later
    · cases word with
      | nil => exact .inr (List.nil_infix)
      | cons d letters =>
        obtain rfl := (List.cons_prefix_cons.mp here).1
        exact absurd List.mem_cons_self hc
    · exact .inr later
  · cases rest with
    | nil =>
      rw [List.append_nil]
      exact .inl hstart.isInfix
    | cons d letters =>
      obtain rfl := (List.cons_prefix_cons.mp hrest).1
      exact absurd (List.mem_append_right _ List.mem_cons_self) hc

/-- Behind letters that are not its first one, a word begins no earlier than the text does. -/
theorem infix_of_infix_append {letters : List Char} (hc : c ∉ letters)
    (h : c :: word <:+: letters ++ after) : c :: word <:+: after := by
  induction letters with
  | nil => exact h
  | cons d ds ih =>
    obtain ⟨hd, hds⟩ := not_or.mp (mt List.mem_cons.mpr hc)
    rcases List.infix_cons_iff.mp h with here | later
    · exact absurd (List.cons_prefix_cons.mp here).1 hd
    · exact ih hds later

/-- **The first occurrence of a word** stands behind a text that does not contain it. -/
theorem firstIndex?_append (hc : c ∉ word) (h : ¬ c :: word <:+: before) (after : List Char) :
    firstIndex? (c :: word) (before ++ c :: word ++ after) = some before.length := by
  induction before with
  | nil => simp [firstIndex?]
  | cons d ds ih =>
    obtain ⟨here, later⟩ := not_or.mp (mt List.infix_cons_iff.mpr h)
    have start : ¬ (c :: word).isPrefixOf (d :: (ds ++ c :: word ++ after)) := by
      rw [List.isPrefixOf_iff_prefix, List.append_assoc, ← List.cons_append]
      intro hp
      -- the word is no part of the text before it, so that it would run into its own beginning
      rcases List.prefix_or_prefix_of_prefix hp (List.prefix_append _ _) with hp' | ⟨rest, hrest⟩
      · exact here hp'
      obtain ⟨more, hmore⟩ := hp
      conv_lhs at hmore => rw [← hrest, List.append_assoc]
      rw [List.append_right_inj] at hmore
      cases rest with
      | nil => exact here (by simp [← hrest])
      | cons e rest =>
        obtain ⟨rfl, -⟩ := List.cons.inj hmore
        have tail : word = ds ++ e :: rest := (List.cons.inj hrest).2.symm
        exact hc (by simp [tail])
    rw [List.cons_append, List.cons_append, firstIndex?, if_neg start, ih later]
    rfl

/-- **The last occurrence of a word** stands before a text that does not contain it. -/
theorem lastIndex?_append (hc : c ∉ word) (h : ¬ c :: word <:+: after) (before : List Char) :
    lastIndex? (c :: word) (before ++ c :: word ++ after) = some before.length := by
  induction before with
  | nil =>
    have later : lastIndex? (c :: word) (word ++ after) = none :=
      (lastIndex?_eq_none_iff (by simp)).mpr (mt (infix_of_infix_append hc) h)
    simp [lastIndex?, later]
  | cons d ds ih =>
    rw [List.cons_append, List.cons_append, lastIndex?, ih]
    rfl

/-! ### Segments -/

variable {separator : Char}

/-- A text without separators is its only segment. -/
theorem segments_of_notMem {cs : List Char} (h : separator ∉ cs) :
    segments separator cs = [cs] := by
  induction cs with
  | nil => rfl
  | cons c cs ih =>
    obtain ⟨hc, hcs⟩ := not_or.mp (mt List.mem_cons.mpr h)
    rw [segments, if_neg (Ne.symm hc), ih hcs]

/-- Texts by their separators: a text is a piece without any, or two texts with one between them. -/
theorem segments_induction (separator : Char) {motive : List Char → Prop}
    (piece : ∀ cs, separator ∉ cs → motive cs)
    (cut : ∀ a b, motive a → motive b → motive (a ++ separator :: b)) (cs : List Char) :
    motive cs := by
  induction h : cs.length using Nat.strong_induction_on generalizing cs with
  | _ n ih =>
    by_cases hs : separator ∈ cs
    · obtain ⟨a, b, rfl⟩ := List.append_of_mem hs
      rw [List.length_append, List.length_cons] at h
      exact cut a b (ih a.length (by omega) a rfl) (ih b.length (by omega) b rfl)
    · exact piece cs hs

/-- The segments of a text are what the text is split into. -/
theorem segments_eq_splitOn (cs : List Char) : segments separator cs = cs.splitOn separator := by
  induction cs using segments_induction separator with
  | piece cs hcs => rw [segments_of_notMem hcs, List.splitOn_eq_singleton hcs]
  | cut a b iha ihb => rw [segments_append_cons, List.splitOn_append_cons_self, iha, ihb]

/-- A segment holds no separator. -/
theorem notMem_of_mem_segments {cs s : List Char} (h : s ∈ segments separator cs) :
    separator ∉ s := by
  induction cs using segments_induction separator with
  | piece cs hcs =>
    rw [segments_of_notMem hcs, List.mem_singleton] at h
    rwa [h]
  | cut a b iha ihb =>
    rw [segments_append_cons, List.mem_append] at h
    exact h.elim iha ihb

/-- A segment is a part of the text. -/
theorem isInfix_of_mem_segments {cs s : List Char} (h : s ∈ segments separator cs) :
    s <:+: cs := by
  induction cs using segments_induction separator with
  | piece cs hcs =>
    rw [segments_of_notMem hcs, List.mem_singleton] at h
    rw [h]
  | cut a b iha ihb =>
    rw [segments_append_cons, List.mem_append] at h
    rcases h with h | h
    · exact (iha h).trans (List.prefix_append _ _).isInfix
    · exact (ihb h).trans ((List.suffix_cons _ _).trans (List.suffix_append _ _)).isInfix

/-! ### Blanks -/

/-- Blanks at the ends of a text are trimmed. -/
theorem trimChars_append {cs before after : List Char} (hb : ∀ c ∈ before, isBlank c)
    (ha : ∀ c ∈ after, isBlank c) : trimChars (before ++ cs ++ after) = trimChars cs := by
  have none : after.dropWhile isBlank = [] := List.dropWhile_eq_nil_iff.mpr ha
  have back : ∀ c ∈ after.reverse, isBlank c := fun c hc => ha c (List.mem_reverse.mp hc)
  rw [trimChars, trimChars, List.append_assoc, List.dropWhile_append_of_pos hb,
    List.dropWhile_append, none]
  split
  · next h => rw [List.isEmpty_iff.mp h]
  · rw [List.reverse_append, List.dropWhile_append_of_pos back]

/-- A text is what trimming leaves of it with blanks on either side. -/
theorem exists_eq_append_trimChars (cs : List Char) :
    ∃ before after, (∀ c ∈ before, isBlank c) ∧ (∀ c ∈ after, isBlank c) ∧
      cs = before ++ trimChars cs ++ after := by
  refine ⟨cs.takeWhile isBlank, ((cs.dropWhile isBlank).reverse.takeWhile isBlank).reverse,
    fun c hc => List.mem_takeWhile_imp hc,
    fun c hc => List.mem_takeWhile_imp (List.mem_reverse.mp hc), ?_⟩
  rw [trimChars, List.append_assoc, ← List.reverse_append, List.takeWhile_append_dropWhile,
    List.reverse_reverse, List.takeWhile_append_dropWhile]

/-- What trimming leaves of a text is a part of it. -/
theorem isInfix_trimChars (cs : List Char) : trimChars cs <:+: cs := by
  obtain ⟨before, after, -, -, split⟩ := exists_eq_append_trimChars cs
  exact ⟨before, after, split.symm⟩

/-- There are no blanks at the ends of a text. -/
structure IsTrimmed (cs : List Char) : Prop where
  first : ∀ c ∈ cs.head?, isBlank c = false
  last : ∀ c ∈ cs.getLast?, isBlank c = false

/-- Trimming a text again changes nothing. -/
theorem trimChars_trimChars (cs : List Char) : trimChars (trimChars cs) = trimChars cs := by
  obtain ⟨before, after, hb, ha, split⟩ := exists_eq_append_trimChars cs
  conv_rhs => rw [split, trimChars_append hb ha]

/-- **Trimming leaves no blanks at the ends of a text.** -/
theorem isTrimmed_trimChars (cs : List Char) : IsTrimmed (trimChars cs) := by
  -- a blank at an end would be trimmed, so that a shorter text were left
  have whole := trimChars_trimChars cs
  constructor
  · intro c hc
    by_contra blank
    rw [Bool.not_eq_false] at blank
    obtain ⟨rest, hrest⟩ := List.head?_eq_some_iff.mp hc
    have shorter : trimChars ([c] ++ rest ++ []) = trimChars rest :=
      trimChars_append (by simpa using blank) (List.forall_mem_nil _)
    rw [hrest] at whole
    rw [List.append_nil, List.singleton_append, whole] at shorter
    have bound := (isInfix_trimChars rest).length_le
    rw [← shorter, List.length_cons] at bound
    omega
  · intro c hc
    by_contra blank
    rw [Bool.not_eq_false] at blank
    obtain ⟨rest, hrest⟩ := List.getLast?_eq_some_iff.mp hc
    have shorter : trimChars ([] ++ rest ++ [c]) = trimChars rest :=
      trimChars_append (List.forall_mem_nil _) (by simpa using blank)
    rw [hrest] at whole
    rw [List.nil_append, whole] at shorter
    have bound := (isInfix_trimChars rest).length_le
    rw [← shorter, List.length_append, List.length_singleton] at bound
    omega

/-- Blanks at the ends of a text are blanks at the ends of its segments. -/
theorem map_trimChars_segments_append (hs : isBlank separator = false) (cs : List Char) :
    ∀ {before after : List Char}, (∀ c ∈ before, isBlank c) → (∀ c ∈ after, isBlank c) →
      (segments separator (before ++ cs ++ after)).map trimChars =
        (segments separator cs).map trimChars := by
  have absent {blanks : List Char} (h : ∀ c ∈ blanks, isBlank c) : separator ∉ blanks :=
    fun hm => by simp [h separator hm] at hs
  induction cs using segments_induction separator with
  | piece cs hcs =>
    intro before after hb ha
    have whole : separator ∉ before ++ cs ++ after := by simp [absent hb, absent ha, hcs]
    rw [segments_of_notMem whole, segments_of_notMem hcs, List.map_singleton, List.map_singleton,
      trimChars_append hb ha]
  | cut a b iha ihb =>
    intro before after hb ha
    -- the blanks of one end go with the text of this end
    have split : before ++ (a ++ separator :: b) ++ after =
        (before ++ a ++ []) ++ separator :: ([] ++ b ++ after) := by simp
    rw [split, segments_append_cons, segments_append_cons, List.map_append, List.map_append,
      iha hb (by simp), ihb (by simp) ha]

/-- **Trimming a text first does not change its trimmed segments**, unless separators are blanks. -/
theorem map_trimChars_segments (hs : isBlank separator = false) (cs : List Char) :
    (segments separator (trimChars cs)).map trimChars =
      (segments separator cs).map trimChars := by
  obtain ⟨before, after, hb, ha, hcs⟩ := exists_eq_append_trimChars cs
  conv_rhs => rw [hcs, map_trimChars_segments_append hs _ hb ha]

end RowShape.Text
