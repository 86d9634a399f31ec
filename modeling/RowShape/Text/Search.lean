/-!
# Searching and trimming text

Occurrences of a word in a text, the segments between separators, and texts without the blanks at
their ends, on lists of characters.  Blanks are the characters of the Unicode property
`White_Space`.

## Main definitions

* `firstIndex?`, `lastIndex?`: where a word occurs first and last.
* `contains`: a word occurs somewhere.
* `startsWith`: a text begins with a word.
* `segments`: the parts of a text between separators.
* `isBlank`: the property `White_Space`, 25 characters.
* `trim`: a text without the blanks at its two ends.

## Main results

* `segments_append_cons`: a separator cuts a text into the segments of its two sides.
* `trimChars_eq_self`: a text whose ends are no blanks is left alone.
-/

namespace RowShape.Text

/-! ### Words -/

/-- The index at which a word occurs first. -/
def firstIndex? (word : List Char) : List Char → Option Nat
  | [] => if word.isEmpty then some 0 else none
  | c :: cs =>
    if word.isPrefixOf (c :: cs) then some 0 else (firstIndex? word cs).map (· + 1)

/-- The index at which a word occurs last. -/
def lastIndex? (word : List Char) : List Char → Option Nat
  | [] => if word.isEmpty then some 0 else none
  | c :: cs =>
    match lastIndex? word cs with
    | some i => some (i + 1)
    | none => if word.isPrefixOf (c :: cs) then some 0 else none

/-- A word occurs somewhere in a text. -/
def contains (word text : String) : Bool :=
  (firstIndex? word.toList text.toList).isSome

/-- A text begins with a word. -/
def startsWith (word text : String) : Bool :=
  word.toList.isPrefixOf text.toList

/-! ### Segments -/

/-- The parts of a text between the separators; one more than there are separators. -/
def segments (separator : Char) : List Char → List (List Char)
  | [] => [[]]
  | c :: cs =>
    if c = separator then [] :: segments separator cs
    else match segments separator cs with
      | [] => [[c]]
      | s :: rest => (c :: s) :: rest

/-- There is always a segment. -/
theorem segments_ne_nil (separator : Char) (cs : List Char) : segments separator cs ≠ [] := by
  cases cs with
  | nil => simp [segments]
  | cons c cs =>
    rw [segments]
    split
    · simp
    · split <;> simp

/-- A separator cuts a text into the segments of its two sides. -/
theorem segments_append_cons (separator : Char) (a b : List Char) :
    segments separator (a ++ separator :: b) = segments separator a ++ segments separator b := by
  induction a with
  | nil => simp [segments]
  | cons c a ih =>
    by_cases h : c = separator
    · simp [segments, h, ih]
    · cases ha : segments separator a with
      | nil => exact absurd ha (segments_ne_nil separator a)
      | cons s rest => simp [segments, h, ih, ha]

/-! ### Blanks -/

/-- The characters of the property `White_Space`. -/
def isBlank (c : Char) : Bool :=
  let n := c.toNat
  (9 ≤ n && n ≤ 13) || n == 32 || n == 0x85 || n == 0xA0 || n == 0x1680 ||
    (0x2000 ≤ n && n ≤ 0x200A) || n == 0x2028 || n == 0x2029 || n == 0x202F ||
    n == 0x205F || n == 0x3000

/-- The characters without the blanks before the first and after the last other character. -/
def trimChars (cs : List Char) : List Char :=
  ((cs.dropWhile isBlank).reverse.dropWhile isBlank).reverse

/-- A text without the blanks at its two ends. -/
def trim (s : String) : String :=
  String.ofList (trimChars s.toList)

@[simp] theorem toList_trim (s : String) : (trim s).toList = trimChars s.toList := by
  simp [trim]

/-- Dropping a blank start changes nothing when the first character is no blank. -/
theorem dropWhile_isBlank_eq_self {cs : List Char} (h : ∀ c ∈ cs.head?, isBlank c = false) :
    cs.dropWhile isBlank = cs := by
  cases cs with
  | nil => rfl
  | cons c cs => simp [List.dropWhile, h c (by simp)]

/-- A text whose ends are no blanks is left alone. -/
theorem trimChars_eq_self {cs : List Char} (first : ∀ c ∈ cs.head?, isBlank c = false)
    (last : ∀ c ∈ cs.getLast?, isBlank c = false) : trimChars cs = cs := by
  rw [trimChars, dropWhile_isBlank_eq_self first, dropWhile_isBlank_eq_self, List.reverse_reverse]
  simpa [List.head?_reverse] using last

end RowShape.Text
