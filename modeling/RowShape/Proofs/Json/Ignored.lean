import RowShape.Proofs.Json.Reading

/-!
# Values that are passed over

A value that nobody wants is passed over up to its end, whatever it is: only its form has to be
right.  Arrays and objects are not gone into one inside another, but a list is kept of those that
are open.  So what is passed over of a part of a text is said up to what is passed over of the rest,
and follows by induction on the form of the part.

## Main definitions

* `Leads`: a reader goes to a value from where the rest is passed over
* `Passed`: what is passed over of a part of a text

## Main results

* `passed_of_form`: every part of a text is passed over
* `takes_ignored`: so is every value, and the blanks before it
-/

namespace RowShape.Json.Reader

variable {n : Nat}

/-! ### Strings -/

/-- One character of a string after another is passed over. -/
abbrev charStep : Unit → Reader (Option Unit) := fun _ =>
  return if ← ignoredChar then some () else none

theorem charStep_of_ignoredChar {s t : List Char} {more : Bool}
    (h : ignoredChar n s = .ok (more, t)) :
    charStep () n s = .ok (if more then some () else none, t) := by
  rw [charStep, bind_apply h]
  rfl

theorem ignoredChar_hex {digits : List Char} {k : Nat} (h : HexText digits k) (s : List Char) :
    ignoredChar n ('\\' :: 'u' :: (digits ++ s)) = .ok (true, s) := by
  change (hexEscape (digits ++ s)).map _ = _
  rw [hexEscape_of_hexText h]
  rfl

theorem steps_hexText {digits s u : List Char} {k : Nat} (h : HexText digits k)
    (way : Steps charStep n () s () u) :
    Steps charStep n () ('\\' :: 'u' :: digits ++ s) () u := by
  refine .next (charStep_of_ignoredChar (ignoredChar_hex h s)) ?_ way
  simp only [List.length_append, List.length_cons]
  omega

/-- The way through a character goes on behind it. -/
theorem steps_charForm {form s u : List Char} (h : CharForm form)
    (way : Steps charStep n () s () u) : Steps charStep n () (form ++ s) () u := by
  cases h with
  | half h => exact steps_hexText h way
  | @char _ c h =>
    cases h with
    | plain printable quote backslash =>
      have taken : ignoredChar n (c :: s) = .ok (true, s) := by
        rw [ignoredChar]
        · rw [if_neg (by omega)]
        · exact quote
        · exact fun _ h => absurd h backslash
        · exact backslash
      exact .next (charStep_of_ignoredChar taken) (by simp) way
    | @letter e _ h =>
      have taken : ignoredChar n ('\\' :: e :: s) = .ok (true, s) := by
        simp only [escapeLetters, List.mem_cons, Prod.mk.injEq, List.not_mem_nil, or_false] at h
        rcases h with ⟨rfl, -⟩ | ⟨rfl, -⟩ | ⟨rfl, -⟩ | ⟨rfl, -⟩ | ⟨rfl, -⟩ | ⟨rfl, -⟩ | ⟨rfl, -⟩ |
          ⟨rfl, -⟩ <;> rfl
      exact .next (charStep_of_ignoredChar taken) (by simp +arith) way
    | numbered h => exact steps_hexText h way
    | pair hi hj hh hl hc =>
      -- one half is passed over after the other
      simpa using steps_hexText hh (steps_hexText hl way)

/-- A string is passed over behind its opening quote. -/
theorem reads_ignoredText {text : List Char} (h : StringForm text) :
    ∃ inner, text = '"' :: inner ∧ Reads ignoredText n inner () := by
  obtain ⟨forms, each, rfl⟩ := h
  have way (rest : List Char) :
      Steps charStep n () (forms.flatten ++ '"' :: rest) () rest := by
    induction forms with
    | nil => exact .done rfl
    | cons form forms ih =>
      obtain ⟨first, others⟩ := List.forall_mem_cons.mp each
      rw [List.flatten_cons, List.append_assoc]
      exact steps_charForm first (ih others)
  refine ⟨_, rfl, fun rest => ?_⟩
  rw [List.append_assoc]
  exact iterate_of_steps (way rest)

/-! ### Numbers -/

/-- What may follow a value is no part of a number. -/
theorem Delimited.ends_number {rest : List Char} (h : Delimited rest) :
    ∀ c ∈ rest.head?, c.isDigit = false ∧ c ≠ '.' ∧ c ≠ 'e' ∧ c ≠ 'E' := by
  intro c hc
  rcases h c hc with space | rfl | rfl | rfl
  · simp only [isSpace, Bool.or_eq_true, beq_iff_eq] at space
    rcases space with ((rfl | rfl) | rfl) | rfl <;> decide
  all_goals decide

theorem digits_apply {ds rest : List Char} (h : ∀ c ∈ ds, c.isDigit)
    (hr : ∀ c ∈ rest.head?, c.isDigit = false) : digits n (ds ++ rest) = .ok (ds, rest) := by
  have none : rest.takeWhile Char.isDigit = [] ∧ rest.dropWhile Char.isDigit = rest := by
    cases rest with
    | nil => exact ⟨rfl, rfl⟩
    | cons c rest =>
      have hc := hr c rfl
      exact ⟨List.takeWhile_cons_of_neg (by simp [hc]), List.dropWhile_cons_of_neg (by simp [hc])⟩
  rw [digits, List.takeWhile_append_of_pos h, List.dropWhile_append_of_pos h, none.1, none.2,
    List.append_nil]

theorem peek?_apply (s : List Char) : peek? n s = .ok (s.head?, s) := rfl

/-- Digits that have to be there. -/
theorem requireDigits_apply {ds rest : List Char} (h : Digits ds)
    (hr : ∀ c ∈ rest.head?, c.isDigit = false) :
    (do if (← digits).isEmpty then throw .invalidNumber : Reader Unit) n (ds ++ rest) =
      .ok ((), rest) := by
  rw [bind_apply (digits_apply h.2 hr), if_neg (by simpa using h.1)]
  rfl

theorem takes_ignoredExponent {text : List Char} (h : ExponentForm text) :
    Takes ignoredExponent n text () := by
  intro rest hr
  cases h with
  | none =>
    rw [List.nil_append, ignoredExponent, bind_apply (peek?_apply rest)]
    refine congrFun (congrFun (?_ : _ = (pure () : Reader Unit)) n) rest
    split
    · next h => exact absurd rfl (hr.ends_number _ h).2.2.1
    · next h => exact absurd rfl (hr.ends_number _ h).2.2.2
    · rfl
  | @letter e sign digits he hs h =>
    have last := requireDigits_apply (n := n) h fun c hc => (hr.ends_number c hc).1
    have start : ignoredExponent n (e :: (sign ++ (digits ++ rest))) = (do
        let sign ← peek?
        if sign == some '-' || sign == some '+' then skip
        if (← Reader.digits).isEmpty then throw .invalidNumber : Reader Unit) n
          (sign ++ (digits ++ rest)) := by
      rcases he with rfl | rfl <;> rfl
    rw [List.cons_append, List.append_assoc, start, bind_apply (peek?_apply _)]
    simp only [List.mem_cons, List.not_mem_nil, or_false] at hs
    rcases hs with rfl | rfl | rfl
    · -- the first character is a digit
      obtain ⟨d, ds, rfl⟩ := List.exists_cons_of_ne_nil h.1
      have digit := h.2 d List.mem_cons_self
      have minus : d ≠ '-' := by rintro rfl; cases digit
      have plus : d ≠ '+' := by rintro rfl; cases digit
      simpa [minus, plus] using last
    · exact last
    · exact last

/-- The digits of a whole number. -/
theorem ignoredDigits_apply {whole rest : List Char} (h : Digits whole)
    (zero : whole.head? = some '0' → whole = ['0']) (hr : ∀ c ∈ rest.head?, c.isDigit = false) :
    ignoredDigits n (whole ++ rest) = .ok ((), rest) := by
  have alone : ¬ (whole.isEmpty || (whole.head? == some '0' && 1 < whole.length)) := by
    intro bad
    simp only [Bool.or_eq_true, List.isEmpty_iff, h.1, false_or, Bool.and_eq_true, beq_iff_eq,
      decide_eq_true_eq] at bad
    rw [zero bad.1] at bad
    exact absurd bad.2 (by decide)
  rw [ignoredDigits, bind_apply (digits_apply h.2 hr), if_neg alone]
  rfl

/-- An exponent begins like no whole number and no fraction. -/
theorem head_exponentForm {text rest : List Char} (h : ExponentForm text) (hr : Delimited rest) :
    ∀ c ∈ (text ++ rest).head?, c.isDigit = false ∧ c ≠ '.' := by
  cases h with
  | none => exact fun c hc => ⟨(hr.ends_number c hc).1, (hr.ends_number c hc).2.1⟩
  | letter he hs h =>
    intro c hc
    obtain rfl := Option.some.inj hc
    rcases he with rfl | rfl <;> decide

theorem takes_ignoredNumber {whole fraction exponent : List Char} (hw : Digits whole)
    (zero : whole.head? = some '0' → whole = ['0']) (hf : FractionForm fraction)
    (he : ExponentForm exponent) :
    Takes ignoredNumber n (whole ++ (fraction ++ exponent)) () := by
  intro rest hr
  have last := takes_ignoredExponent (n := n) he rest hr
  have behind := head_exponentForm he hr
  rw [List.append_assoc, List.append_assoc, ignoredNumber]
  cases hf with
  | none =>
    rw [List.nil_append, bind_apply (ignoredDigits_apply hw zero fun c hc => (behind c hc).1),
      bind_apply (peek?_apply _), if_neg]
    · exact last
    · exact fun point => absurd rfl (behind _ (by simpa using point)).2
  | @point ds h =>
    have point : ∀ c ∈ ('.' :: (ds ++ (exponent ++ rest))).head?, c.isDigit = false := by
      intro c hc
      obtain rfl := Option.some.inj hc
      decide
    rw [List.cons_append, bind_apply (ignoredDigits_apply hw zero point),
      bind_apply (peek?_apply _), if_pos (by rfl), bind_apply (skip_apply _ _),
      bind_apply (digits_apply h.2 fun c hc => (behind c hc).1), if_neg (by simpa using h.1)]
    exact last

/-! ### Values -/

theorem isSpace_digit {c : Char} (h : c.isDigit) : isSpace c = false := by
  rw [Bool.eq_false_iff]
  intro space
  simp only [isSpace, Bool.or_eq_true, beq_iff_eq] at space
  rcases space with ((rfl | rfl) | rfl) | rfl <;> exact absurd h (by decide)

/-- A value begins with a token that ends neither an array nor an object. -/
theorem exists_cons_of_valueForm {text : List Char} (h : ValueForm text) :
    ∃ c more, text = c :: more ∧ isSpace c = false ∧ c ≠ ']' ∧ c ≠ '}' := by
  cases h with
  | word h =>
    simp only [wordValues, List.mem_cons, List.not_mem_nil, or_false] at h
    rcases h with rfl | rfl | rfl <;> exact ⟨_, _, rfl, by decide, by decide, by decide⟩
  | string h =>
    obtain ⟨forms, -, rfl⟩ := h
    exact ⟨_, _, rfl, by decide, by decide, by decide⟩
  | @frame f _ h => cases f <;> exact ⟨_, _, rfl, by decide, by decide, by decide⟩
  | number h =>
    obtain ⟨hs, hw, -, -, -⟩ := h
    simp only [List.mem_cons, List.not_mem_nil, or_false] at hs
    rcases hs with rfl | rfl
    · obtain ⟨d, ds, rfl⟩ := List.exists_cons_of_ne_nil hw.1
      have digit := hw.2 d List.mem_cons_self
      refine ⟨_, _, rfl, isSpace_digit digit, ?_, ?_⟩ <;>
      · rintro rfl
        exact absurd digit (by decide)
    · exact ⟨_, _, rfl, by decide, by decide, by decide⟩

/-- Where a value begins, a step passes over the blanks before it. -/
theorem skipsSpaces_ignoredStep (frames : List Frame) : SkipsSpaces (ignoredStep frames) :=
  skipsSpaces_fromToken _

/-- From the front of `s` the reader goes to `u`, which is behind the whole value, or it goes to a
value inside from where the rest is passed over up to `u`. -/
def Leads (n : Nat) (p : Reader (Option (List Frame))) (s u : List Char) : Prop :=
  p n s = .ok (none, u) ∨ ∃ frames t b, p n s = .ok (some frames, t) ∧ t.length ≤ s.length ∧
    Steps ignoredStep n frames t b u

theorem Leads.steps {p : Reader (Option (List Frame))} {frames : List Frame} {s t u : List Char}
    (h : Leads n p s u) (first : ignoredStep frames n t = p n s) (shorter : s.length < t.length) :
    ∃ b, Steps ignoredStep n frames t b u := by
  rcases h with h | ⟨others, v, b, h, short, way⟩
  · exact ⟨frames, .done (first.trans h)⟩
  · exact ⟨b, .next (first.trans h) (by omega) way⟩

/-- Goes on with the rest of an array or object, of which the opening has just been found if nothing
stands in it so far. -/
def goOn (f : Frame) (first : Bool) (frames : List Frame) : Reader (Option (List Frame)) :=
  fun n s => if first then openFrame f frames n (f.opening :: s) else closeFrames (f :: frames) n s

/-- What is passed over of a part of a text: a value up to its end, and the rest of an array or
object up to what is left of the arrays and objects around it. -/
def Passed (n : Nat) : Part → List Char → Prop
  | .value, text => ∀ blanks frames rest u, Blank blanks → Delimited rest →
      Leads n (closeFrames frames) rest u →
        ∃ b, Steps ignoredStep n frames (blanks ++ (text ++ rest)) b u
  | .rest f first, text => ∀ frames rest u, Leads n (closeFrames frames) rest u →
      Leads n (goOn f first frames) (text ++ rest) u

/-- A value that a step takes by itself. -/
theorem passed_scalar {text : List Char} (h : ValueForm text)
    (taken : ∀ frames rest, Delimited rest →
      ignoredStep frames n (text ++ rest) = closeFrames frames n rest) :
    Passed n .value text := by
  intro blanks frames rest u hb hr leads
  refine leads.steps (((skipsSpaces_ignoredStep frames).blank hb _).trans (taken frames rest hr)) ?_
  obtain ⟨c, more, rfl, -⟩ := exists_cons_of_valueForm h
  simp only [List.length_append, List.length_cons]
  omega

theorem ignoredStep_word {text : List Char} (h : text ∈ wordValues) (frames : List Frame)
    (rest : List Char) : ignoredStep frames n (text ++ rest) = closeFrames frames n rest := by
  simp only [wordValues, List.mem_cons, List.not_mem_nil, or_false] at h
  rcases h with rfl | rfl | rfl <;> rfl

theorem ignoredStep_string {text : List Char} (h : StringForm text) (frames : List Frame)
    (rest : List Char) : ignoredStep frames n (text ++ rest) = closeFrames frames n rest := by
  obtain ⟨inner, rfl, taken⟩ := reads_ignoredText (n := n) h
  change (ignoredText >>= fun _ => closeFrames frames) n _ = _
  exact bind_apply (taken rest) _

/-- A digit is none of the characters that other values begin with. -/
theorem ignoredStep_digit {c : Char} (h : c.isDigit) (frames : List Frame) (s : List Char) :
    ignoredStep frames n (c :: s) = (ignoredNumber >>= fun _ => closeFrames frames) n (c :: s) := by
  rw [ignoredStep, fromToken_apply (isSpace_digit h)]
  refine congrFun (congrFun (?_ : _ = (ignoredNumber >>= fun _ => closeFrames frames)) n) _
  split
  case h_7 =>
    have minus : (c == '-') = false := by
      rw [beq_eq_false_iff_ne]
      rintro rfl
      exact absurd h (by decide)
    simp [minus, h]
  all_goals exact absurd h (by decide)

theorem ignoredStep_number {text : List Char} (h : NumberForm text) (frames : List Frame)
    {rest : List Char} (hr : Delimited rest) :
    ignoredStep frames n (text ++ rest) = closeFrames frames n rest := by
  obtain ⟨hs, hw, zero, hf, he⟩ := h
  have taken := takes_ignoredNumber (n := n) hw zero hf he rest hr
  simp only [List.mem_cons, List.not_mem_nil, or_false] at hs
  rcases hs with rfl | rfl
  · obtain ⟨d, ds, rfl⟩ := List.exists_cons_of_ne_nil hw.1
    exact (ignoredStep_digit (hw.2 d List.mem_cons_self) frames _).trans (bind_apply taken _)
  · change (ignoredNumber >>= fun _ => closeFrames frames) n _ = _
    exact bind_apply taken _

/-- What stands before a value is passed over up to blanks before it. -/
theorem ignoredName_apply {f : Frame} {name : List Char} (h : NameForm f name) {blanks : List Char}
    (hb : Blank blanks) : ∃ behind, Blank behind ∧ behind.length ≤ (blanks ++ name).length ∧
      ∀ s, ignoredName f n (blanks ++ (name ++ s)) = .ok ((), behind ++ s) := by
  cases h with
  | item => exact ⟨blanks, hb, by simp, fun s => rfl⟩
  | @member name before behind hn h h' =>
    refine ⟨behind, h', ?_, fun s => ?_⟩
    · simp only [List.length_append, List.length_cons]
      omega
    obtain ⟨inner, rfl, taken⟩ := reads_ignoredText (n := n) hn
    have line : blanks ++ ('"' :: inner ++ (before ++ ':' :: behind) ++ s) =
        blanks ++ '"' :: (inner ++ (before ++ ([':'] ++ (behind ++ s)))) := by simp
    rw [line, ignoredName, bind_apply (token?_apply hb (by decide) _)]
    change (skip >>= fun _ => ignoredText >>= fun _ => colon) n _ = _
    rw [bind_apply (skip_apply _ _), bind_apply (taken _), skipsSpaces_colon.blank h, reads_colon]

theorem Leads.of_eq {p q : Reader (Option (List Frame))} {s t u : List Char} (h : Leads n p s u)
    (first : q n t = p n s) (shorter : s.length ≤ t.length) : Leads n q t u := by
  rcases h with h | ⟨frames, v, b, h, short, way⟩
  · exact .inl (first.trans h)
  · exact .inr ⟨frames, v, b, first.trans h, Nat.le_trans short shorter, way⟩

/-- An array or object ends. -/
theorem goOn_close (f : Frame) (first : Bool) (frames : List Frame) {blanks : List Char}
    (hb : Blank blanks) (s : List Char) :
    goOn f first frames n (blanks ++ f.closing :: s) = closeFrames frames n s := by
  have token : isSpace f.closing = false := by cases f <;> rfl
  cases first with
  | true =>
    change openFrame f frames n _ = _
    rw [openFrame, bind_apply (skip_apply _ _), bind_apply (token?_apply hb token s)]
    simp only [BEq.rfl, if_true]
    rfl
  | false =>
    change closeFrames (f :: frames) n _ = _
    rw [closeFrames, bind_apply (token?_apply hb token s)]
    cases f <;> rfl

/-- What comes next inside an array or object does not end it. -/
theorem exists_cons_of_item {f : Frame} {name : List Char} (hn : NameForm f name) {s : List Char}
    (hc : ∃ c more, s = c :: more ∧ isSpace c = false ∧ c ≠ ']' ∧ c ≠ '}') :
    ∃ c more, name ++ s = c :: more ∧ isSpace c = false ∧ c ≠ f.closing := by
  cases hn with
  | item =>
    obtain ⟨c, more, rfl, space, list, -⟩ := hc
    exact ⟨c, more, rfl, space, list⟩
  | member hn h h' =>
    obtain ⟨forms, -, rfl⟩ := hn
    exact ⟨_, _, rfl, by decide, by decide⟩

/-- Another value follows in an array or object. -/
theorem goOn_next {f : Frame} {first : Bool} (frames : List Frame) {before name : List Char}
    (hs : Separator first before) (hn : NameForm f name) {s : List Char}
    (hc : ∃ c more, s = c :: more ∧ isSpace c = false ∧ c ≠ ']' ∧ c ≠ '}') :
    ∃ behind, Blank behind ∧ behind.length ≤ (before ++ name).length ∧
      goOn f first frames n (before ++ (name ++ s)) = .ok (some (f :: frames), behind ++ s) := by
  cases hs with
  | first hb =>
    obtain ⟨behind, hb', short, taken⟩ := ignoredName_apply (n := n) hn blank_nil
    obtain ⟨c, more, token, space, inside⟩ := exists_cons_of_item hn hc
    refine ⟨behind, hb', ?_, ?_⟩
    · simp only [List.nil_append, List.length_append] at short ⊢
      omega
    · change openFrame f frames n _ = _
      rw [openFrame, bind_apply (skip_apply _ _), token, bind_apply (token?_apply hb space more)]
      simp only [beq_false_of_ne inside, Bool.false_eq_true, if_false]
      rw [← token]
      exact bind_apply (taken s) _
  | @comma before blanks hb hb' =>
    obtain ⟨behind, hb'', short, taken⟩ := ignoredName_apply (n := n) hn hb'
    refine ⟨behind, hb'', ?_, ?_⟩
    · simp only [List.length_append, List.length_cons] at short ⊢
      omega
    · change closeFrames (f :: frames) n _ = _
      rw [List.append_assoc, List.cons_append, closeFrames,
        bind_apply (token?_apply hb (by decide) _)]
      simp only [BEq.rfl, if_true]
      rw [bind_apply (skip_apply _ _), bind_apply (taken s)]
      rfl

/-- Behind a value inside an array or object stands a blank, a comma or the end. -/
theorem delimited_partForm {f : Frame} {text : List Char} (h : PartForm (.rest f false) text)
    (rest : List Char) : Delimited (text ++ rest) := by
  cases h with
  | close hb =>
    rw [List.append_assoc]
    refine delimited_blank hb (.inr ?_) rest
    cases f
    · exact .inl rfl
    · exact .inr rfl
  | next hs hn hv others =>
    cases hs with
    | comma hb hb' =>
      rw [List.append_assoc, List.append_assoc]
      exact delimited_blank hb (.inl rfl) _

/-- **A part of a text is passed over.** -/
theorem passed_of_form {part : Part} {text : List Char} (h : PartForm part text) :
    Passed n part text := by
  induction h with
  | word h =>
    exact passed_scalar (.word h) fun frames rest _ => ignoredStep_word h frames rest
  | number h =>
    exact passed_scalar (.number h) fun frames rest hr => ignoredStep_number h frames hr
  | string h =>
    exact passed_scalar (.string h) fun frames rest _ => ignoredStep_string h frames rest
  | @frame f text h ih =>
    intro blanks frames rest u hb hr leads
    have inside := ih frames rest u leads
    have opened : ignoredStep frames n (f.opening :: (text ++ rest)) =
        goOn f true frames n (text ++ rest) := by
      cases f <;> rfl
    refine inside.steps (((skipsSpaces_ignoredStep frames).blank hb _).trans opened) ?_
    simp only [List.cons_append, List.length_append, List.length_cons]
    omega
  | @close f first blanks hb =>
    intro frames rest u leads
    rw [List.append_assoc]
    refine leads.of_eq (goOn_close f first frames hb rest) ?_
    simp only [List.length_append]
    omega
  | @next f first before name text more hs hn hv others ih ih' =>
    intro frames rest u leads
    obtain ⟨c, front, rfl, token⟩ := exists_cons_of_valueForm hv
    obtain ⟨behind, hb, short, first⟩ := goOn_next (n := n) frames hs hn
      ⟨c, front ++ (more ++ rest), rfl, token⟩
    obtain ⟨b, way⟩ := ih behind (f :: frames) (more ++ rest) u hb
      (delimited_partForm others rest) (ih' frames rest u leads)
    refine .inr ⟨_, _, b, ?_, ?_, way⟩
    · have line : before ++ (name ++ (c :: front ++ more)) ++ rest =
          before ++ (name ++ c :: (front ++ (more ++ rest))) := by simp
      rw [line, first, List.cons_append]
    · simp only [List.length_append, List.length_cons] at short ⊢
      omega

/-- **A value is passed over, whatever it is**, and the blanks before it. -/
theorem takes_ignored {blanks text : List Char} (hb : Blank blanks) (h : ValueForm text) :
    Takes ignored n (blanks ++ text) () := by
  intro rest hr
  obtain ⟨b, way⟩ := passed_of_form h blanks [] rest rest hb hr (.inl rfl)
  rw [List.append_assoc, ignored, bind_apply (iterate_of_steps way)]
  rfl

end RowShape.Json.Reader
