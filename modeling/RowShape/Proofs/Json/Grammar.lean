import RowShape.Json.Printer
import RowShape.Json.Reader.Value
import Mathlib.Data.List.Forall2

/-!
# The form of JSON texts

Which texts stand for strings and values.  A character may be written as itself or in several ways
behind a backslash, and blanks may stand around every token.

Of a value that nobody wants only the form matters: any four digits make an escape, and numbers may
be of any size.  The form of an array or object that is wanted leaves open how the values in it are
written; what is said about this says what it stands for.

## Main definitions

* `CharText`, `StringText`: the ways to write a character and a string
* `NumberForm`, `StringForm`, `ValueForm`: texts that have the form of a value
* `ItemsText`, `MembersText`: the layout of arrays and objects, one item or member after another
* `ArrayText`, `ObjectText`: arrays and objects whose values stand for something
* `ValueText`: the ways to write a value that holds no numbers
-/

namespace RowShape.Json

variable {β γ : Type}

/-! ### Between tokens -/

/-- Nothing but blanks. -/
def Blank (text : List Char) : Prop := ∀ c ∈ text, Reader.isSpace c

theorem blank_nil : Blank [] := List.forall_mem_nil _

theorem blank_space : Blank [' '] := List.forall_mem_singleton.mpr rfl

/-- What stands before an item or a member: blanks, with a comma between them unless it is the first
one. -/
inductive Separator : Bool → List Char → Prop
  | first {blanks : List Char} (h : Blank blanks) : Separator true blanks
  | comma {before behind : List Char} (h : Blank before) (h' : Blank behind) :
      Separator false (before ++ ',' :: behind)

/-- A comma, unless it is the first item or member. -/
def comma (first : Bool) : List Char := if first then [] else [',']

@[simp] theorem comma_true : comma true = [] := rfl

@[simp] theorem comma_false : comma false = [','] := rfl

theorem separator_line {blanks : List Char} (h : Blank blanks) (first : Bool) :
    Separator first (comma first ++ blanks) := by
  cases first with
  | true => exact .first h
  | false => exact .comma blank_nil h

/-! ### Strings and words -/

/-- A hexadecimal digit with its value, in lower or in upper case. -/
def IsHexDigit (c : Char) (k : Nat) : Prop :=
  k < 16 ∧ (c = hexDigit k ∨ c = (hexDigit k).toUpper)

/-- Four hexadecimal digits with their value. -/
inductive HexText : List Char → Nat → Prop
  | mk {a b c d : Char} {i j k l : Nat} (ha : IsHexDigit a i) (hb : IsHexDigit b j)
      (hc : IsHexDigit c k) (hd : IsHexDigit d l) :
      HexText [a, b, c, d] (((i * 16 + j) * 16 + k) * 16 + l)

/-- The letters of escapes with the characters that they stand for. -/
def escapeLetters : List (Char × Char) :=
  [('"', '"'), ('\\', '\\'), ('/', '/'), ('b', '\x08'), ('f', '\x0c'), ('n', '\n'), ('r', '\r'),
    ('t', '\t')]

/-- **The ways to write a character** between quotes: as itself, with the letter of an escape, by
its number, and by a pair of numbers if it is outside the first 65536. -/
inductive CharText : List Char → Char → Prop
  | plain {c : Char} (printable : 0x20 ≤ c.toNat) (quote : c ≠ '"') (backslash : c ≠ '\\') :
      CharText [c] c
  | letter {e c : Char} (h : (e, c) ∈ escapeLetters) : CharText ['\\', e] c
  | numbered {digits : List Char} {c : Char} (h : HexText digits c.toNat) :
      CharText ('\\' :: 'u' :: digits) c
  | pair {high low : List Char} {i j : Nat} {c : Char} (hi : i < 0x400) (hj : j < 0x400)
      (hh : HexText high (0xD800 + i)) (hl : HexText low (0xDC00 + j))
      (hc : c.toNat = 0x10000 + i * 0x400 + j) :
      CharText ('\\' :: 'u' :: (high ++ '\\' :: 'u' :: low)) c

/-- **The ways to write a string** between its quotes: each of its characters, one after another. -/
def CharsText (text : List Char) (s : String) : Prop :=
  ∃ forms, List.Forall₂ CharText forms s.toList ∧ text = forms.flatten

/-- A string, with its quotes. -/
def StringText (text : List Char) (s : String) : Prop :=
  ∃ inner, CharsText inner s ∧ text = '"' :: (inner ++ ['"'])

theorem CharText.length_pos {text : List Char} {c : Char} (h : CharText text c) :
    0 < text.length := by
  cases h <;> exact Nat.succ_pos _

/-- The digits of the number of a control character. -/
theorem hexText_control {k : Nat} (h : k < 0x20) :
    HexText ['0', '0', hexDigit (k / 16), hexDigit (k % 16)] k := by
  have zero : IsHexDigit '0' 0 := ⟨by decide, by decide⟩
  have high : IsHexDigit (hexDigit (k / 16)) (k / 16) := ⟨by omega, .inl rfl⟩
  have low : IsHexDigit (hexDigit (k % 16)) (k % 16) := ⟨by omega, .inl rfl⟩
  have number : ((0 * 16 + 0) * 16 + k / 16) * 16 + k % 16 = k := by omega
  have digits := HexText.mk zero zero high low
  rwa [number] at digits

/-- **Every character is written in one of the ways**, whether it is escaped or not. -/
theorem charText_escapeChar (c : Char) : CharText (escapeChar c) c := by
  unfold escapeChar
  split
  -- the characters with a letter of their own, and all others by their number
  case h_8 quote backslash _ _ _ _ _ =>
    split
    · next control => exact .numbered (hexText_control control)
    · next printable => exact .plain (Nat.le_of_not_lt printable) quote backslash
  all_goals exact .letter (by decide)

theorem charsText_escaped (s : String) : CharsText (s.toList.flatMap escapeChar) s := by
  refine ⟨s.toList.map escapeChar, ?_, rfl⟩
  rw [List.forall₂_map_left_iff]
  exact List.forall₂_same.mpr fun c _ => charText_escapeChar c

/-- A quoted text is one of the ways to write it. -/
theorem stringText_quoteChars (s : String) : StringText (quoteChars s.toList) s :=
  ⟨_, charsText_escaped s, rfl⟩

/-- The text begins with a token, and this does not end an array. -/
def BeginsItem (text : List Char) : Prop :=
  ∃ c more, text = c :: more ∧ Reader.isSpace c = false ∧ c ≠ ']'

/-- The words for true and false. -/
inductive BoolText : List Char → Bool → Prop
  | true : BoolText ['t', 'r', 'u', 'e'] true
  | false : BoolText ['f', 'a', 'l', 's', 'e'] false

theorem BoolText.beginsItem {text : List Char} {b : Bool} (h : BoolText text b) :
    BeginsItem text := by
  cases h <;> exact ⟨_, _, rfl, by decide, by decide⟩

/-! ### The form of values -/

/-- The form of a character between quotes.  Half of a pair, which stands for no character, has the
form of one too. -/
inductive CharForm : List Char → Prop
  | char {text : List Char} {c : Char} (h : CharText text c) : CharForm text
  | half {digits : List Char} {k : Nat} (h : HexText digits k) : CharForm ('\\' :: 'u' :: digits)

/-- The form of a string, with its quotes. -/
def StringForm (text : List Char) : Prop :=
  ∃ forms : List (List Char), (∀ form ∈ forms, CharForm form) ∧
    text = '"' :: (forms.flatten ++ ['"'])

/-- Digits, of which there is one at least. -/
def Digits (text : List Char) : Prop := text ≠ [] ∧ ∀ c ∈ text, c.isDigit

/-- A fraction, or nothing. -/
inductive FractionForm : List Char → Prop
  | none : FractionForm []
  | point {digits : List Char} (h : Digits digits) : FractionForm ('.' :: digits)

/-- An exponent, or nothing. -/
inductive ExponentForm : List Char → Prop
  | none : ExponentForm []
  | letter {e : Char} {sign digits : List Char} (he : e = 'e' ∨ e = 'E')
      (hs : sign ∈ [[], ['-'], ['+']]) (h : Digits digits) : ExponentForm (e :: (sign ++ digits))

/-- **The form of a number.**  A zero in front stands alone. -/
inductive NumberForm : List Char → Prop
  | mk {sign whole fraction exponent : List Char} (hs : sign ∈ [[], ['-']]) (hw : Digits whole)
      (zero : whole.head? = some '0' → whole = ['0']) (hf : FractionForm fraction)
      (he : ExponentForm exponent) : NumberForm (sign ++ (whole ++ (fraction ++ exponent)))

/-- The words that are values. -/
def wordValues : List (List Char) :=
  [['n', 'u', 'l', 'l'], ['t', 'r', 'u', 'e'], ['f', 'a', 'l', 's', 'e']]

/-- The character at the beginning. -/
def Reader.Frame.opening : Frame → Char
  | list => '['
  | object => '{'

/-- What stands before a value inside an array or object, behind the blanks: the name with its
colon, if it has one. -/
inductive NameForm : Reader.Frame → List Char → Prop
  | item : NameForm .list []
  | member {name before behind : List Char} (hn : StringForm name) (h : Blank before)
      (h' : Blank behind) : NameForm .object (name ++ (before ++ ':' :: behind))

/-- What a part of a text is. -/
inductive Part where
  /-- A value. -/
  | value
  /-- The rest of an array or object, with its end: `first` tells that nothing stands in it so
  far. -/
  | rest (frame : Reader.Frame) (first : Bool)

/-- The form of a part of a text. -/
inductive PartForm : Part → List Char → Prop
  | word {text : List Char} (h : text ∈ wordValues) : PartForm .value text
  | number {text : List Char} (h : NumberForm text) : PartForm .value text
  | string {text : List Char} (h : StringForm text) : PartForm .value text
  | frame {f : Reader.Frame} {text : List Char} (h : PartForm (.rest f true) text) :
      PartForm .value (f.opening :: text)
  | close {f : Reader.Frame} {first : Bool} {blanks : List Char} (h : Blank blanks) :
      PartForm (.rest f first) (blanks ++ [f.closing])
  | next {f : Reader.Frame} {first : Bool} {before name text rest : List Char}
      (hs : Separator first before) (hn : NameForm f name) (hv : PartForm .value text)
      (others : PartForm (.rest f false) rest) :
      PartForm (.rest f first) (before ++ (name ++ (text ++ rest)))

/-- **The form of a value** of whatever type. -/
def ValueForm (text : List Char) : Prop := PartForm .value text

/-! ### Arrays -/

/-- **The layout of an array** behind its bracket, up to its end: the texts of its items. -/
inductive ItemsText : Bool → List Char → List (List Char) → Prop
  | close {first : Bool} {blanks : List Char} (h : Blank blanks) :
      ItemsText first (blanks ++ [']']) []
  | next {first : Bool} {before text rest : List Char} {items : List (List Char)}
      (hs : Separator first before) (others : ItemsText false rest items) :
      ItemsText first (before ++ (text ++ rest)) (text :: items)

/-- **An array whose items stand for something**: `V` says how an item may be written. -/
inductive ArrayText (V : List Char → β → Prop) : List Char → List β → Prop
  | mk {text : List Char} {items : List (List Char)} {values : List β}
      (layout : ItemsText true text items) (each : List.Forall₂ V items values) :
      ArrayText V ('[' :: text) values

/-! ### Objects -/

/-- **The layout of an object** behind its brace, up to its end: the names of its members, each with
the text that stands behind it. -/
inductive MembersText : Bool → List Char → List (String × List Char) → Prop
  | close {first : Bool} {blanks : List Char} (h : Blank blanks) :
      MembersText first (blanks ++ ['}']) []
  | next {first : Bool} {before key text rest : List Char} {name : String}
      {members : List (String × List Char)} (hs : Separator first before) (hk : StringText key name)
      (others : MembersText false rest members) :
      MembersText first (before ++ (key ++ (text ++ rest))) ((name, text) :: members)

/-- A value behind a name: a colon with blanks around it, and the text of the value. -/
inductive BehindColon (V : List Char → Prop) : List Char → Prop
  | mk {before behind text : List Char} (h : Blank before) (h' : Blank behind) (hv : V text) :
      BehindColon V (before ++ ':' :: (behind ++ text))

theorem BehindColon.tight {V : List Char → Prop} {text : List Char} (hv : V text) :
    BehindColon V (':' :: text) :=
  .mk blank_nil blank_nil hv

theorem BehindColon.spaced {V : List Char → Prop} {text : List Char} (hv : V text) :
    BehindColon V (':' :: ' ' :: text) :=
  .mk blank_nil blank_space hv

theorem BehindColon.imp {V W : List Char → Prop} (h : ∀ text, V text → W text) {text : List Char}
    (hv : BehindColon V text) : BehindColon W text := by
  obtain ⟨hb, hb', own⟩ := hv
  exact .mk hb hb' (h _ own)

/-- **An object whose values stand for something**: `V` says how a value may be written.  Names may
come more than once. -/
inductive ObjectText (V : List Char → β → Prop) : List Char → List (String × β) → Prop
  | mk {text : List Char} {members : List (String × List Char)} {values : List (String × β)}
      (layout : MembersText true text members)
      (each : List.Forall₂ (fun m v => m.1 = v.1 ∧ BehindColon (V · v.2) m.2) members values) :
      ObjectText V ('{' :: text) values

/-- What the values of an object stand for may be worked on. -/
theorem ObjectText.map {V : List Char → β → Prop} {W : List Char → γ → Prop} (g : β → γ)
    (h : ∀ text b, V text b → W text (g b)) {text : List Char} {values : List (String × β)}
    (hv : ObjectText V text values) : ObjectText W text (values.map fun v => (v.1, g v.2)) := by
  obtain ⟨layout, each⟩ := hv
  refine .mk layout (List.forall₂_map_right_iff.mpr (each.imp ?_))
  exact fun m v own => ⟨own.1, own.2.imp fun text hv => h text v.2 hv⟩

theorem ObjectText.imp {V W : List Char → β → Prop} (h : ∀ text b, V text b → W text b)
    {text : List Char} {values : List (String × β)} (hv : ObjectText V text values) :
    ObjectText W text values := by
  simpa using hv.map id h

/-! ### Values -/

/-- The ways to write a value that is neither an array nor an object nor a number. -/
inductive ScalarText : List Char → Json → Prop
  | null : ScalarText ['n', 'u', 'l', 'l'] .null
  | bool {text : List Char} {b : Bool} (h : BoolText text b) : ScalarText text (.bool b)
  | string {text : List Char} {s : String} (h : StringText text s) : ScalarText text (.string s)

/-- The ways to write an array or object, if `V` says how the values in it may be written. -/
inductive NestedText (V : List Char → Json → Prop) : List Char → Json → Prop
  | array {text : List Char} {items : List Json} (h : ArrayText V text items) :
      NestedText V text (.array items)
  | object {text : List Char} {members : List (String × Json)} (h : ObjectText V text members) :
      NestedText V text (.object members)

/-- **The ways to write a value** that holds no numbers, and in which arrays and objects are nested
at most so deep. -/
def ValueText : Nat → List Char → Json → Prop
  | 0, text, v => ScalarText text v
  | k + 1, text, v => ScalarText text v ∨ NestedText (ValueText k) text v

theorem ScalarText.valueText {text : List Char} {v : Json} (h : ScalarText text v) (k : Nat) :
    ValueText k text v := by
  cases k with
  | zero => exact h
  | succ k => exact .inl h

/-- A quoted text stands for its string. -/
theorem valueText_quoteChars (k : Nat) (s : String) :
    ValueText k (quoteChars s.toList) (.string s) :=
  (ScalarText.string (stringText_quoteChars s)).valueText k

/-- What stands for a string is a string. -/
theorem ValueText.stringText {k : Nat} {text : List Char} {s : String}
    (h : ValueText k text (.string s)) : StringText text s := by
  have scalar (h : ScalarText text (.string s)) : StringText text s := by
    cases h with
    | string own => exact own
  cases k with
  | zero => exact scalar h
  | succ k =>
    rcases h with h | h
    · exact scalar h
    · nomatch h

/-- What stands for an object is an object. -/
theorem ValueText.objectText {k : Nat} {text : List Char} {members : List (String × Json)}
    (h : ValueText (k + 1) text (.object members)) : ObjectText (ValueText k) text members := by
  rcases h with h | h
  · nomatch h
  · cases h with
    | object own => exact own

theorem ScalarText.beginsItem {text : List Char} {v : Json} (h : ScalarText text v) :
    BeginsItem text := by
  cases h with
  | null => exact ⟨_, _, rfl, by decide, by decide⟩
  | bool own => exact own.beginsItem
  | string own =>
    obtain ⟨_, -, rfl⟩ := own
    exact ⟨_, _, rfl, by decide, by decide⟩

/-- The text of a value may stand as an item in an array. -/
theorem ValueText.beginsItem {k : Nat} {text : List Char} {v : Json} (h : ValueText k text v) :
    BeginsItem text := by
  cases k with
  | zero => exact ScalarText.beginsItem h
  | succ k =>
    rcases h with h | ⟨⟨_, _⟩⟩ | ⟨⟨_, _⟩⟩
    · exact h.beginsItem
    · exact ⟨_, _, rfl, by decide, by decide⟩
    · exact ⟨_, _, rfl, by decide, by decide⟩

end RowShape.Json
