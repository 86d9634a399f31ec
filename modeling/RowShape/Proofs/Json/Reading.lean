import RowShape.Json.Record
import RowShape.Proofs.Json.Grammar

/-!
# What readers take

A reader takes a text if it takes exactly the characters of the text from the front of whatever it
stands before.  Readers that do so one after another take one text after another, so that what is
read of an array or an object follows from what is read of its items or members.

Blanks may stand before any token.  Readers that begin with a token pass over them
(`SkipsSpaces`), and the layout of a text is a matter of the blanks between its tokens only.  What
ends a number stands behind it, so that a value is taken only before something that may follow a
value.

## Main definitions

* `Reader.Reads`, `Reader.Takes`: a reader takes a text and gives a value, before anything and
  before what may follow a value
* `Reader.Steps`: the way of a repeated step through a text
* `Reader.TakesItems`, `Reader.TakesMembers`: the items of an array, and the members of an object,
  one after another

## Main results

* `Reader.iterate_of_steps`: a repeated step goes all the way
* `Reader.reads_textRest`: a string is read from each of the ways to write it
* `Reader.reads_itemsText`, `Reader.reads_membersText`: arrays and objects in any layout
* `Reader.reads_valueText`: a value is read from each of the ways to write it
-/

namespace RowShape.Json.Reader

variable {α β : Type} {n : Nat}

/-! ### Readers one after another -/

/-- On nesting level `n`, the reader takes exactly a text from the front of whatever it stands
before, and gives a value. -/
def Reads (p : Reader α) (n : Nat) (text : List Char) (a : α) : Prop :=
  ∀ rest, p n (text ++ rest) = .ok (a, rest)

theorem bind_apply {p : Reader α} {s t : List Char} {a : α} (h : p n s = .ok (a, t))
    (f : α → Reader β) : (p >>= f) n s = f a n t := by
  change (p n s >>= fun x => f x.1 n x.2) = _
  rw [h]
  rfl

theorem Reads.bind {p : Reader α} {f : α → Reader β} {s t : List Char} {a : α} {b : β}
    (h : Reads p n s a) (h' : Reads (f a) n t b) : Reads (p >>= f) n (s ++ t) b := by
  intro rest
  rw [List.append_assoc, bind_apply (h _), h']

theorem reads_pure (a : α) : Reads (pure a) n [] a := fun _ => rfl

/-- What a reader gives may be worked on. -/
theorem Reads.bind_pure {p : Reader α} {s : List Char} {a : α} (h : Reads p n s a) (f : α → β) :
    Reads (p >>= fun a => pure (f a)) n s (f a) := by
  have both := h.bind (f := fun a => pure (f a)) (reads_pure (f a))
  rwa [List.append_nil] at both

theorem Reads.map {p : Reader α} {s : List Char} {a : α} (h : Reads p n s a) (f : α → β) :
    Reads (f <$> p) n s (f a) := by
  intro rest
  change (p n (s ++ rest) >>= fun x => _) = _
  rw [h]
  rfl

/-- What a reader gives may be worked on by what could fail. -/
theorem Reads.bind_except {p : Reader α} {s : List Char} {a : α} {b : β} (h : Reads p n s a)
    {f : α → Except ReadError β} (hf : f a = .ok b) : Reads (p >>= fun a => liftM (f a)) n s b := by
  intro rest
  rw [bind_apply (h rest), hf]
  rfl

/-- A reader takes the same inside an array or object, which takes one level of nesting. -/
theorem Reads.nested {p : Reader α} {s : List Char} {a : α} (h : Reads p n s a) :
    Reads (nested p) (n + 1) s a := h

/-- What may follow a value: a blank, a comma, or the end of an array or object, if anything. -/
def Delimited (rest : List Char) : Prop :=
  ∀ c ∈ rest.head?, isSpace c ∨ c = ',' ∨ c = ']' ∨ c = '}'

/-- On nesting level `n`, the reader takes exactly a text from the front of whatever may follow a
value. -/
def Takes (p : Reader α) (n : Nat) (text : List Char) (a : α) : Prop :=
  ∀ rest, Delimited rest → p n (text ++ rest) = .ok (a, rest)

theorem Reads.takes {p : Reader α} {s : List Char} {a : α} (h : Reads p n s a) : Takes p n s a :=
  fun rest _ => h rest

theorem Reads.bind_takes {p : Reader α} {f : α → Reader β} {s t : List Char} {a : α} {b : β}
    (h : Reads p n s a) (h' : Takes (f a) n t b) : Takes (p >>= f) n (s ++ t) b := by
  intro rest hr
  rw [List.append_assoc, bind_apply (h _), h' rest hr]

theorem Takes.bind_pure {p : Reader α} {s : List Char} {a : α} (h : Takes p n s a) (f : α → β) :
    Takes (p >>= fun a => pure (f a)) n s (f a) := by
  intro rest hr
  rw [bind_apply (h rest hr)]
  rfl

theorem Takes.map {p : Reader α} {s : List Char} {a : α} (h : Takes p n s a) (f : α → β) :
    Takes (f <$> p) n s (f a) := by
  intro rest hr
  change (p n (s ++ rest) >>= fun x => _) = _
  rw [h rest hr]
  rfl

/-- A reader that takes a text up to the blanks at its end gives its value. -/
theorem run_of_reads_blank {p : Reader α} {text : String} {s blanks : List Char} {a : α}
    (h : Reads p depthLimit s a) (hb : Blank blanks) (ht : text.toList = s ++ blanks) :
    p.run text = .ok a := by
  have ended : (blanks.dropWhile isSpace).isEmpty := by
    rw [← List.append_nil blanks, List.dropWhile_append_of_pos hb]
    rfl
  rw [run, ht, h blanks]
  exact if_pos ended

/-- A reader that takes a whole text gives its value. -/
theorem run_of_reads {p : Reader α} {text : String} {a : α}
    (h : Reads p depthLimit text.toList a) : p.run text = .ok a :=
  run_of_reads_blank h blank_nil (List.append_nil _).symm

/-! ### Tokens -/

theorem skip_apply (c : Char) (s : List Char) : skip n (c :: s) = .ok ((), s) := rfl

/-- The next token stands behind blanks. -/
theorem token?_apply {blanks : List Char} (hb : ∀ c ∈ blanks, isSpace c) {c : Char}
    (hc : isSpace c = false) (s : List Char) :
    token? n (blanks ++ c :: s) = .ok (some c, c :: s) := by
  have here : (blanks ++ c :: s).dropWhile isSpace = c :: s := by
    rw [List.dropWhile_append_of_pos hb, List.dropWhile_cons_of_neg (by simp [hc])]
  rw [token?, bind_apply (a := ()) (t := c :: s) (by rw [skipSpaces, here])]
  rfl

theorem token?_cons {c : Char} (hc : isSpace c = false) (s : List Char) :
    token? n (c :: s) = .ok (some c, c :: s) :=
  token?_apply (List.forall_mem_nil _) hc s

/-- The reader passes over blanks that it stands before. -/
def SkipsSpaces (p : Reader α) : Prop := ∀ n c s, isSpace c → p n (c :: s) = p n s

theorem SkipsSpaces.blank {p : Reader α} (hp : SkipsSpaces p) {blanks : List Char}
    (h : Blank blanks) (s : List Char) : p n (blanks ++ s) = p n s := by
  induction blanks with
  | nil => rfl
  | cons c blanks ih =>
    obtain ⟨hc, hb⟩ := List.forall_mem_cons.mp h
    exact (hp n c _ hc).trans (ih hb)

theorem Takes.blank {p : Reader α} (hp : SkipsSpaces p) {blanks s : List Char} {a : α}
    (hb : Blank blanks) (h : Takes p n s a) : Takes p n (blanks ++ s) a := by
  intro rest hr
  rw [List.append_assoc, hp.blank hb, h rest hr]

theorem Reads.blank {p : Reader α} (hp : SkipsSpaces p) {blanks s : List Char} {a : α}
    (hb : Blank blanks) (h : Reads p n s a) : Reads p n (blanks ++ s) a := by
  intro rest
  rw [List.append_assoc, hp.blank hb, h rest]

/-- A reader that begins with a token passes over blanks. -/
theorem skipsSpaces_token? (f : Option Char → Reader α) : SkipsSpaces (token? >>= f) := by
  intro n c s hc
  have here : token? n (c :: s) = token? n s := by
    rw [token?, bind_apply (a := ()) (t := s.dropWhile isSpace) (by
      rw [skipSpaces, List.dropWhile_cons_of_pos hc])]
    rfl
  change (token? n (c :: s) >>= fun x => f x.1 n x.2) = _
  rw [here]
  rfl

theorem skipsSpaces_fromToken (p : Char → Reader α) : SkipsSpaces (fromToken p) :=
  skipsSpaces_token? _

theorem SkipsSpaces.bind {p : Reader α} (hp : SkipsSpaces p) (f : α → Reader β) :
    SkipsSpaces (p >>= f) := by
  intro n c s hc
  change (p n (c :: s) >>= fun x => _) = _
  rw [hp n c s hc]
  rfl

theorem SkipsSpaces.map {p : Reader α} (hp : SkipsSpaces p) (f : α → β) :
    SkipsSpaces (f <$> p) := by
  intro n c s hc
  change (p n (c :: s) >>= fun x => _) = _
  rw [hp n c s hc]
  rfl

theorem fromToken_apply {p : Char → Reader α} {c : Char} (hc : isSpace c = false) (s : List Char) :
    fromToken p n (c :: s) = p c n (c :: s) := by
  rw [fromToken, bind_apply (token?_cons hc s)]

theorem reads_fromToken {p : Char → Reader α} {c : Char} {s : List Char} {a : α}
    (hc : isSpace c = false) (h : Reads (p c) n (c :: s) a) : Reads (fromToken p) n (c :: s) a :=
  fun rest => (fromToken_apply hc (s ++ rest)).trans (h rest)

theorem reads_skip (c : Char) : Reads skip n [c] () := fun _ => rfl

theorem reads_colon : Reads colon n [':'] () := by
  intro rest
  rw [colon, List.cons_append, bind_apply (token?_cons (by decide) _)]
  rfl

theorem skipsSpaces_colon : SkipsSpaces colon := skipsSpaces_token? _

/-- What is behind a name is taken if the value behind the colon is. -/
theorem takes_colon {p : Reader α} (hp : SkipsSpaces p) {text : List Char} {a : α}
    (h : BehindColon (Takes p n · a) text) : Takes (colon >>= fun _ => p) n text a := by
  obtain ⟨hb, hb', own⟩ := h
  rw [List.append_cons]
  exact (reads_colon.blank skipsSpaces_colon hb).bind_takes (own.blank hp hb')

/-! ### Repetition -/

/-- The way of a repeated step: it begins with `a` before one text and ends with `b` before another,
where the step gives nothing.  Every step on the way takes something. -/
inductive Steps (step : α → Reader (Option α)) (n : Nat) : α → List Char → α → List Char → Prop
  | done {a : α} {s t : List Char} (h : step a n s = .ok (none, t)) : Steps step n a s a t
  | next {a b c : α} {s t u : List Char} (h : step a n s = .ok (some b, t))
      (shorter : t.length < s.length) (rest : Steps step n b t c u) : Steps step n a s c u

/-- **A repeated step goes all the way**: there are enough repetitions for every text. -/
theorem iterate_of_steps {step : α → Reader (Option α)} {a b : α} {s t : List Char}
    (h : Steps step n a s b t) : iterate step a n s = .ok (b, t) := by
  -- each repetition takes a character at least, so that one for every character and one for the
  -- end are enough
  have enough : ∀ k, s.length < k → iterateAtMost step k a n s = .ok (b, t) := by
    induction h with
    | done h =>
      intro k hk
      obtain ⟨k, rfl⟩ := Nat.exists_eq_succ_of_ne_zero (Nat.ne_of_gt (Nat.zero_lt_of_lt hk))
      rw [iterateAtMost, bind_apply h]
      rfl
    | next h shorter _ ih =>
      intro k hk
      obtain ⟨k, rfl⟩ := Nat.exists_eq_succ_of_ne_zero (Nat.ne_of_gt (Nat.zero_lt_of_lt hk))
      rw [iterateAtMost, bind_apply h]
      exact ih k (by omega)
  exact enough _ (Nat.lt_succ_self _)

/-! ### Strings -/

theorem hexValue?_hexDigit : ∀ {k : Nat}, k < 16 → hexValue? (hexDigit k) = some k := by
  decide

theorem hexValue?_of_isHexDigit {c : Char} {k : Nat} (h : IsHexDigit c k) :
    hexValue? c = some k := by
  have upper : ∀ k < 16, hexValue? (hexDigit k).toUpper = some k := by decide
  obtain ⟨hk, rfl | rfl⟩ := h
  · exact hexValue?_hexDigit hk
  · exact upper k hk

theorem hexEscape_of_hexText {digits : List Char} {k : Nat} (h : HexText digits k)
    (s : List Char) : hexEscape (digits ++ s) = .ok (k, s) := by
  obtain ⟨ha, hb, hc, hd⟩ := h
  simp only [List.cons_append, List.nil_append, hexEscape, hexValue?_of_isHexDigit ha,
    hexValue?_of_isHexDigit hb, hexValue?_of_isHexDigit hc, hexValue?_of_isHexDigit hd]

/-- The number of a character is no half of a pair. -/
theorem isHalf_toNat (c : Char) : isFirstHalf c.toNat = false ∧ isSecondHalf c.toNat = false := by
  have valid : c.toNat < 0xD800 ∨ 0xDFFF < c.toNat ∧ c.toNat < 0x110000 := c.valid
  simp only [isFirstHalf, isSecondHalf, Bool.and_eq_false_iff, decide_eq_false_iff_not]
  omega

/-- A character is read from the digits of its number. -/
theorem numberedChar_of_hexText {digits : List Char} {c : Char} (h : HexText digits c.toNat)
    (s : List Char) : numberedChar (digits ++ s) = .ok (c, s) := by
  obtain ⟨first, second⟩ := isHalf_toNat c
  simp only [numberedChar, hexEscape_of_hexText h, bind, Except.bind, first, second,
    Bool.false_eq_true, if_false, Char.ofNat_toNat]
  rfl

/-- A character is read from the digits of a pair. -/
theorem numberedChar_of_pair {high low : List Char} {i j : Nat} {c : Char} (hi : i < 0x400)
    (hj : j < 0x400) (hh : HexText high (0xD800 + i)) (hl : HexText low (0xDC00 + j))
    (hc : c.toNat = 0x10000 + i * 0x400 + j) (s : List Char) :
    numberedChar (high ++ '\\' :: 'u' :: (low ++ s)) = .ok (c, s) := by
  have first : isFirstHalf (0xD800 + i) = true := by
    simp only [isFirstHalf, Bool.and_eq_true, decide_eq_true_eq]
    omega
  have other : isSecondHalf (0xD800 + i) = false := by
    simp only [isSecondHalf, Bool.and_eq_false_iff, decide_eq_false_iff_not]
    omega
  have second : isSecondHalf (0xDC00 + j) = true := by
    simp only [isSecondHalf, Bool.and_eq_true, decide_eq_true_eq]
    omega
  have number : 0x10000 + (0xD800 + i - 0xD800) * 0x400 + (0xDC00 + j - 0xDC00) = c.toNat := by
    omega
  simp only [numberedChar, hexEscape_of_hexText hh, hexEscape_of_hexText hl, bind, Except.bind,
    first, other, second, number, Bool.false_eq_true, if_false, if_true, Char.ofNat_toNat]
  rfl

/-- **A character is read from each of the ways to write it.** -/
theorem textChar?_of_charText {text : List Char} {c : Char} (h : CharText text c) (s : List Char) :
    textChar? n (text ++ s) = .ok (some c, s) := by
  cases h with
  | plain printable quote backslash =>
    rw [List.singleton_append, textChar?]
    · rw [if_neg (by omega)]
    · exact quote
    · exact backslash
  | letter h =>
    simp only [escapeLetters, List.mem_cons, Prod.mk.injEq, List.not_mem_nil, or_false] at h
    rcases h with ⟨rfl, rfl⟩ | ⟨rfl, rfl⟩ | ⟨rfl, rfl⟩ | ⟨rfl, rfl⟩ | ⟨rfl, rfl⟩ | ⟨rfl, rfl⟩ |
      ⟨rfl, rfl⟩ | ⟨rfl, rfl⟩ <;> rfl
  | numbered h =>
    change (numberedChar (_ ++ s)).map _ = _
    rw [numberedChar_of_hexText h]
    rfl
  | pair hi hj hh hl hc =>
    rw [List.cons_append, List.cons_append, List.append_assoc, List.cons_append, List.cons_append]
    change (numberedChar (_ ++ _)).map _ = _
    rw [numberedChar_of_pair hi hj hh hl hc]
    rfl

/-- The way through a string, to its closing quote. -/
theorem steps_textRest {forms : List (List Char)} {cs : List Char}
    (h : List.Forall₂ CharText forms cs) (found rest : List Char) :
    Steps (fun found => return (← textChar?).map (· :: found)) n found
      (forms.flatten ++ '"' :: rest) (cs.reverse ++ found) rest := by
  induction h generalizing found with
  | nil => exact .done rfl
  | @cons form c forms cs hc _ ih =>
    rw [List.flatten_cons, List.append_assoc, List.reverse_cons, List.append_assoc]
    refine .next (b := c :: found) ?_ ?_ (ih (c :: found))
    · rw [bind_apply (textChar?_of_charText hc _)]
      rfl
    · have pos := hc.length_pos
      simp only [List.length_append]
      omega

/-- **A string is read from each of the ways to write it**, behind its opening quote. -/
theorem reads_textRest {text : List Char} {s : String} (h : CharsText text s) :
    Reads textRest n (text ++ ['"']) s := by
  obtain ⟨forms, each, rfl⟩ := h
  intro rest
  rw [List.append_assoc, List.singleton_append, textRest,
    bind_apply (iterate_of_steps (steps_textRest each [] rest)), List.append_nil,
    List.reverse_reverse, String.ofList_toList]
  rfl

theorem reads_skip_textRest {text : List Char} {s : String} (h : StringText text s) :
    Reads (skip >>= fun _ => textRest) n text s := by
  obtain ⟨inner, hi, rfl⟩ := h
  exact (reads_skip '"').bind (reads_textRest hi)

/-- A string is read with its quotes. -/
theorem reads_stringFor (expected : String) {text : List Char} {s : String}
    (h : StringText text s) : Reads (stringFor expected) n text s := by
  obtain ⟨inner, hi, rfl⟩ := h
  exact reads_fromToken (by decide) (reads_skip_textRest ⟨inner, hi, rfl⟩)

/-- A truth value is read from its word. -/
theorem reads_boolean {text : List Char} {b : Bool} (h : BoolText text b) :
    Reads boolean n text b := by
  cases h <;> exact fun rest => rfl

/-! ### Arrays -/

/-- The reader takes the texts of items one after another.  None of them begins with a blank or with
the end of an array. -/
inductive TakesItems (p : α → Reader α) (n : Nat) : α → List (List Char) → α → Prop
  | nil (a : α) : TakesItems p n a [] a
  | cons {a b d : α} {c : Char} {text : List Char} {rest : List (List Char)}
      (token : isSpace c = false) (inside : c ≠ ']') (first : Reads (p a) n (c :: text) b)
      (others : TakesItems p n b rest d) : TakesItems p n a ((c :: text) :: rest) d

/-- Items that are read by one reader and added one after another. -/
theorem takesItems_forall₂ {q : Reader β} (f : α → β → α) {texts : List (List Char)} {bs : List β}
    (each : List.Forall₂ (fun text b => BeginsItem text ∧ Reads q n text b) texts bs) (a : α) :
    TakesItems (fun a => q >>= fun b => pure (f a b)) n a texts (bs.foldl f a) := by
  induction each generalizing a with
  | nil => exact .nil a
  | cons own _ ih =>
    obtain ⟨⟨c, more, rfl, token, inside⟩, own⟩ := own
    exact .cons token inside (own.bind_pure (f a)) (ih _)

/-- What is done with each item of an array. -/
def itemStep (p : α → Reader α) : Bool × α → Reader (Option (Bool × α)) := fun (first, a) => do
  if ← nextItem first then
    let b ← p a
    return some (false, b)
  else return none

theorem nextItem_end {blanks : List Char} (hb : ∀ c ∈ blanks, isSpace c) (first : Bool)
    (s : List Char) : nextItem first n (blanks ++ ']' :: s) = .ok (false, ']' :: s) := by
  rw [nextItem, bind_apply (token?_apply hb (by decide) s)]
  rfl

theorem endList_apply {blanks : List Char} (hb : Blank blanks) (s : List Char) :
    endList n (blanks ++ ']' :: s) = .ok ((), s) := by
  rw [endList, bind_apply (token?_apply hb (by decide) s)]
  rfl

theorem nextItem_more {first : Bool} {before : List Char} (h : Separator first before) {c : Char}
    (token : isSpace c = false) (inside : c ≠ ']') (s : List Char) :
    nextItem first n (before ++ c :: s) = .ok (true, c :: s) := by
  cases h with
  | first hb =>
    rw [nextItem, bind_apply (token?_apply hb token s)]
    simp only
    rfl
  | comma hb hb' =>
    rw [List.append_assoc, List.cons_append, nextItem, bind_apply (token?_apply hb (by decide) _)]
    -- behind the comma the reader looks for another token
    change (skip >>= fun _ => token? >>= _) n _ = _
    rw [bind_apply (skip_apply _ _), bind_apply (token?_apply hb' token s)]
    simp only
    rfl

/-- The way through the items of an array, to its end. -/
theorem steps_itemsText {p : α → Reader α} {first : Bool} {text : List Char}
    {items : List (List Char)} (layout : ItemsText first text items) {a b : α}
    (h : TakesItems p n a items b) (rest : List Char) :
    ∃ last, Steps (itemStep p) n (first, a) (text ++ rest) (last, b) (']' :: rest) := by
  induction layout generalizing a with
  | @close first blanks hb =>
    cases h
    refine ⟨first, .done ?_⟩
    rw [List.append_assoc, List.singleton_append, itemStep, bind_apply (nextItem_end hb first rest)]
    rfl
  | @next first before text more items hs others ih =>
    cases h with
    | @cons _ _ _ c text _ token inside own behind =>
      -- behind an item a comma has to follow, whether or not this item is the first one
      obtain ⟨last, way⟩ := ih behind
      refine ⟨last, .next ?_ ?_ way⟩
      · have line : before ++ (c :: text ++ more) ++ rest =
            before ++ c :: (text ++ (more ++ rest)) := by simp
        rw [line, itemStep, bind_apply (nextItem_more hs token inside _)]
        change (p a >>= fun b => pure (some (false, b))) n (c :: text ++ _) = _
        rw [bind_apply (own _)]
        rfl
      · simp only [List.length_append, List.length_cons]
        omega

/-- **The items of an array are read one after another**, in whatever layout, behind the opening
bracket. -/
theorem reads_itemsText {p : α → Reader α} {text : List Char} {items : List (List Char)}
    (layout : ItemsText true text items) {a b : α} (h : TakesItems p n a items b) :
    Reads (foldItems p a) n text b := by
  intro rest
  obtain ⟨last, way⟩ := steps_itemsText layout h rest
  have ending : endList n (']' :: rest) = .ok ((), rest) := endList_apply blank_nil rest
  change (iterate (itemStep p) (true, a) >>= fun x => endList >>= fun _ => pure x.2) n _ = _
  rw [bind_apply (iterate_of_steps way), bind_apply ending]
  rfl

/-- The items of an array, each behind its comma and behind blanks. -/
def itemLines (blanks : List Char) : Bool → List (List Char) → List Char
  | _, [] => []
  | first, text :: rest => comma first ++ blanks ++ text ++ itemLines blanks false rest

/-- The items of an array, each on its line. -/
theorem itemsText_itemLines {blanks closing : List Char} (hb : Blank blanks) (hc : Blank closing)
    (first : Bool) (items : List (List Char)) :
    ItemsText first (itemLines blanks first items ++ (closing ++ [']'])) items := by
  induction items generalizing first with
  | nil => exact .close hc
  | cons text items ih =>
    have line : itemLines blanks first (text :: items) ++ (closing ++ [']']) =
        comma first ++ blanks ++
          (text ++ (itemLines blanks false items ++ (closing ++ [']']))) := by
      simp [itemLines]
    rw [line]
    exact .next (separator_line hb first) (ih false)

/-! ### Objects -/

/-- The members of an object, each behind its comma and behind blanks.  A member has a name and a
text behind it. -/
def memberLines (blanks : List Char) : Bool → List (String × List Char) → List Char
  | _, [] => []
  | first, m :: rest =>
    comma first ++ blanks ++ quoteChars m.1.toList ++ m.2 ++ memberLines blanks false rest

/-- The reader takes members one after another, each behind its name. -/
inductive TakesMembers (p : α → String → Reader α) (n : Nat) :
    α → List (String × List Char) → α → Prop
  | nil (a : α) : TakesMembers p n a [] a
  | cons {a b c : α} {name : String} {text : List Char} {rest : List (String × List Char)}
      (first : Takes (p a name) n text b) (others : TakesMembers p n b rest c) :
      TakesMembers p n a ((name, text) :: rest) c

theorem TakesMembers.append {p : α → String → Reader α} {a b c : α}
    {ms ms' : List (String × List Char)} (h : TakesMembers p n a ms b)
    (h' : TakesMembers p n b ms' c) : TakesMembers p n a (ms ++ ms') c := by
  induction h with
  | nil => exact h'
  | cons first _ ih => exact .cons first (ih h')

/-- Members whose values are read by one reader and added one after another. -/
theorem takesMembers_forall₂ {q : Reader β} (hq : SkipsSpaces q) (f : α → String → β → α)
    {members : List (String × List Char)} {values : List (String × β)}
    (each : List.Forall₂ (fun m v => m.1 = v.1 ∧ BehindColon (Takes q n · v.2) m.2) members values)
    (a : α) :
    TakesMembers (fun a name => colon >>= fun _ => q >>= fun b => pure (f a name b)) n a members
      (values.foldl (fun a v => f a v.1 v.2) a) := by
  induction each generalizing a with
  | nil => exact .nil a
  | @cons m v members values own _ ih =>
    obtain ⟨name, text⟩ := m
    obtain ⟨rfl, value⟩ := own
    exact .cons (takes_colon (hq.bind _) (value.imp fun _ h => h.bind_pure (f a v.1))) (ih _)

/-- What is done with each member of an object. -/
def memberStep (p : α → String → Reader α) : Bool × α → Reader (Option (Bool × α)) :=
  fun (first, a) => do
    if ← nextMember first then
      skip
      let name ← textRest
      let b ← p a name
      return some (false, b)
    else return none

theorem nextMember_end {blanks : List Char} (hb : ∀ c ∈ blanks, isSpace c) (first : Bool)
    (s : List Char) : nextMember first n (blanks ++ '}' :: s) = .ok (false, '}' :: s) := by
  rw [nextMember, bind_apply (token?_apply hb (by decide) s)]
  rfl

theorem nextMember_more {first : Bool} {before : List Char} (h : Separator first before)
    (s : List Char) : nextMember first n (before ++ '"' :: s) = .ok (true, '"' :: s) := by
  cases h with
  | first hb =>
    rw [nextMember, bind_apply (token?_apply hb (by decide) s)]
    rfl
  | comma hb hb' =>
    rw [List.append_assoc, List.cons_append, nextMember, bind_apply (token?_apply hb (by decide) _)]
    change (skip >>= fun _ => token? >>= _) n _ = _
    rw [bind_apply (skip_apply _ _), bind_apply (token?_apply hb' (by decide) s)]
    rfl

theorem delimited_blank {blanks : List Char} (hb : Blank blanks) {c : Char}
    (hc : c = ',' ∨ c = ']' ∨ c = '}') (s : List Char) : Delimited (blanks ++ c :: s) := by
  cases blanks with
  | nil => exact fun d hd => .inr (Option.some.inj hd ▸ hc)
  | cons b blanks => exact fun d hd => .inl (Option.some.inj hd ▸ hb b List.mem_cons_self)

/-- Behind a value in an object stands a blank, a comma or the end. -/
theorem delimited_membersText {text : List Char} {members : List (String × List Char)}
    (h : MembersText false text members) (rest : List Char) : Delimited (text ++ rest) := by
  cases h with
  | close hb =>
    rw [List.append_assoc]
    exact delimited_blank hb (.inr (.inr rfl)) rest
  | next hs hk others =>
    cases hs with
    | comma hb hb' =>
      rw [List.append_assoc, List.append_assoc]
      exact delimited_blank hb (.inl rfl) _

/-- The way through the members of an object, to its end. -/
theorem steps_membersText {p : α → String → Reader α} {first : Bool} {text : List Char}
    {members : List (String × List Char)} (layout : MembersText first text members) {a b : α}
    (h : TakesMembers p n a members b) (rest : List Char) :
    ∃ last, Steps (memberStep p) n (first, a) (text ++ rest) (last, b) ('}' :: rest) := by
  induction layout generalizing a with
  | @close first blanks hb =>
    cases h
    refine ⟨first, .done ?_⟩
    rw [List.append_assoc, List.singleton_append, memberStep,
      bind_apply (nextMember_end hb first rest)]
    rfl
  | @next first before key text more name members hs hk others ih =>
    obtain ⟨inner, hi, rfl⟩ := hk
    cases h with
    | cons own behind =>
      obtain ⟨last, way⟩ := ih behind
      refine ⟨last, .next ?_ ?_ way⟩
      · have line : before ++ ('"' :: (inner ++ ['"']) ++ (text ++ more)) ++ rest =
            before ++ '"' :: (inner ++ ['"'] ++ (text ++ (more ++ rest))) := by simp
        rw [line, memberStep, bind_apply (nextMember_more hs _)]
        -- the opening quote, the name, and what belongs to it
        change (skip >>= fun _ => textRest >>= fun name => p a name >>= fun b =>
          pure (some (false, b))) n _ = _
        rw [bind_apply (skip_apply _ _), bind_apply (reads_textRest hi _),
          bind_apply (own _ (delimited_membersText others rest))]
        rfl
      · simp only [List.length_append, List.length_cons]
        omega

/-- **The members of an object are read one after another**, in whatever layout, behind the opening
brace. -/
theorem reads_membersText {p : α → String → Reader α} {text : List Char}
    {members : List (String × List Char)} (layout : MembersText true text members) {a b : α}
    (h : TakesMembers p n a members b) : Reads (foldMembers p a) n text b := by
  intro rest
  obtain ⟨last, way⟩ := steps_membersText layout h rest
  change (iterate (memberStep p) (true, a) >>= fun x => skip >>= fun _ => pure x.2) n _ = _
  rw [bind_apply (iterate_of_steps way), bind_apply (skip_apply _ _)]
  rfl

/-- The members of an object, each on its line. -/
theorem membersText_memberLines {blanks closing : List Char} (hb : Blank blanks)
    (hc : Blank closing) (first : Bool) (members : List (String × List Char)) :
    MembersText first (memberLines blanks first members ++ (closing ++ ['}'])) members := by
  induction members generalizing first with
  | nil => exact .close hc
  | cons m members ih =>
    obtain ⟨name, text⟩ := m
    have line : memberLines blanks first ((name, text) :: members) ++ (closing ++ ['}']) =
        comma first ++ blanks ++ (quoteChars name.toList ++
          (text ++ (memberLines blanks false members ++ (closing ++ ['}'])))) := by
      simp [memberLines]
    rw [line]
    exact .next (separator_line hb first) (stringText_quoteChars name) (ih false)

/-! ### Values of any type -/

theorem skipsSpaces_valueAt (k : Nat) : SkipsSpaces (valueAt k) := by
  cases k <;> exact skipsSpaces_fromToken _

/-- A value that is no array or object is read, whether or not any could be opened. -/
theorem reads_scalarText {inner : Option (Reader Json)} {text : List Char} {v : Json}
    (h : ScalarText text v) : Reads (valueWith inner) n text v := by
  cases h with
  -- what is read of a word is evaluated
  | null => exact fun rest => rfl
  | bool h => cases h <;> exact fun rest => rfl
  | string h =>
    obtain ⟨inner, hi, rfl⟩ := h
    exact reads_fromToken (by decide)
      ((reads_skip_textRest ⟨inner, hi, rfl⟩).bind_pure Json.string)

/-- An array is read behind its bracket, once its items are read. -/
theorem reads_arrayText {p : Reader Json} {V : List Char → Json → Prop} {text : List Char}
    {items : List Json} (h : ArrayText V text items)
    (hv : ∀ text v, V text v → BeginsItem text ∧ Reads p n text v) :
    Reads (valueWith (some p)) n text (.array items) := by
  obtain ⟨layout, each⟩ := h
  -- items are collected in reverse
  have taken := takesItems_forall₂ (fun found v => v :: found) (each.imp hv) []
  rw [List.foldl_flip_cons_eq_append, List.append_nil, List.map_id'] at taken
  have whole := (reads_itemsText layout taken).bind_pure fun found => Json.array found.reverse
  rw [List.reverse_reverse] at whole
  exact reads_fromToken (by decide) ((reads_skip '[').bind whole)

/-- An object is read behind its brace, once the values of its members are read. -/
theorem reads_objectText {p : Reader Json} (hp : SkipsSpaces p) {V : List Char → Json → Prop}
    {text : List Char} {members : List (String × Json)} (h : ObjectText V text members)
    (hv : ∀ text v, V text v → Takes p n text v) :
    Reads (valueWith (some p)) n text (.object members) := by
  obtain ⟨layout, each⟩ := h.imp hv
  have taken := takesMembers_forall₂ hp
    (fun (found : List (String × Json)) name v => (name, v) :: found) each []
  rw [List.foldl_flip_cons_eq_append, List.append_nil, List.map_id'] at taken
  have whole := (reads_membersText layout taken).bind_pure fun found => Json.object found.reverse
  rw [List.reverse_reverse] at whole
  exact reads_fromToken (by decide) ((reads_skip '{').bind whole)

/-- **A value is read from each of the ways to write it**, whatever stands behind it. -/
theorem reads_valueText {k m : Nat} {text : List Char} {v : Json} (h : ValueText k text v)
    (hk : k ≤ m) : Reads (valueAt m) n text v := by
  induction k generalizing m n text v with
  | zero => cases m <;> exact reads_scalarText h
  | succ k ih =>
    obtain ⟨m, rfl⟩ := Nat.exists_eq_add_of_lt hk
    -- an array or object opens a level; what stands in it is nested less deep
    have inner {n : Nat} {text : List Char} {v : Json} (h : ValueText k text v) :
        Reads (valueAt (k + m)) n text v := ih h (Nat.le_add_right k m)
    rcases h with h | h | h
    · exact reads_scalarText h
    · exact reads_arrayText h fun text v own => ⟨own.beginsItem, inner own⟩
    · exact reads_objectText (skipsSpaces_valueAt _) h fun text v own => (inner own).takes

theorem reads_value {k : Nat} {text : List Char} {v : Json} (h : ValueText k text v) (hk : k ≤ n) :
    Reads value n text v :=
  fun rest => reads_valueText h hk rest

theorem skipsSpaces_value : SkipsSpaces value := fun n => skipsSpaces_valueAt n n

end RowShape.Json.Reader
