import RowShape.Sql.Ident
import Mathlib.Data.List.Basic

/-!
# Identifiers and their written forms

Taking away the outer quotes of a written identifier is to give its value again.  It does unless
more than the value is written between the quotes, or other quotes are written than those that are
taken away.  Brackets hold the value as it is.  Between double quotes or backticks every quote that
stands alone is doubled, and stays so.

Quotes are taken in pairs, run by run, so that a run of quotes is written as it is if its length is
even.  Behind a backslash any run is.

## Main definitions

* `HasLoneQuote`: a text holds a quote that is doubled when it is written
* `IsEnclosed`: a text with quotes around it that are taken away
* `Ident.IsPlain`: an identifier that is written plainly
* `Ident.IsDelimited`: an identifier without quotes, or in quotes that are taken away

## Main results

* `doubleLoneQuotes_eq_self_iff`: the texts that are written as they are
* `Ident.stripQuotes_render_eq_value_iff`: the identifiers whose values are read off their written
  forms
* `Ident.stripQuotes_render_eq_iff`: names without quotes are read off delimited identifiers
-/

namespace RowShape.Sql

/-! ### Lone quotes -/

/-- A run of quotes of odd length that stands neither behind a backslash nor next to a further
quote.  `previous` is the character before the text. -/
def HasLoneQuote (quote previous : Char) (cs : List Char) : Prop :=
  ∃ before n after, cs = before ++ (List.replicate (2 * n + 1) quote ++ after) ∧
    (previous :: before).getLast? ≠ some '\\' ∧ before.getLast? ≠ some quote ∧
      after.head? ≠ some quote

section Lone

variable {quote previous c : Char} {cs : List Char}

theorem not_hasLoneQuote_nil : ¬ HasLoneQuote quote previous [] := by
  rintro ⟨before, n, after, split, -⟩
  simp at split

/-- Behind a backslash, a quote can be left out. -/
theorem hasLoneQuote_escaped_iff :
    HasLoneQuote quote '\\' (quote :: cs) ↔ HasLoneQuote quote '\\' cs := by
  constructor
  · rintro ⟨_ | ⟨b, before⟩, n, after, split, behind, apart, ends⟩
    · exact absurd rfl behind
    · obtain ⟨rfl, rfl⟩ := List.cons.inj split
      cases before with
      | nil => exact absurd rfl apart
      | cons d before => exact ⟨d :: before, n, after, rfl, behind, apart, ends⟩
  · rintro ⟨_ | ⟨b, before⟩, n, after, rfl, behind, apart, ends⟩
    · exact absurd rfl behind
    · exact ⟨quote :: b :: before, n, after, rfl, behind, apart, ends⟩

/-- Everywhere else, a pair of quotes can be left out. -/
theorem hasLoneQuote_pair_iff (hq : quote ≠ '\\') (hp : previous ≠ '\\') :
    HasLoneQuote quote previous (quote :: quote :: cs) ↔ HasLoneQuote quote quote cs := by
  constructor
  · rintro ⟨before, n, after, split, behind, apart, ends⟩
    rcases before with _ | ⟨b, _ | ⟨d, _ | ⟨e, before⟩⟩⟩
    · cases n with
      | zero =>
        obtain ⟨-, rfl⟩ := List.cons.inj split
        exact absurd rfl ends
      | succ n =>
        refine ⟨[], n, after, ?_, by simpa using hq, by simp, ends⟩
        have run : List.replicate (2 * (n + 1) + 1) quote =
            quote :: quote :: List.replicate (2 * n + 1) quote := rfl
        rw [run] at split
        simpa using split
    · obtain ⟨rfl, -⟩ := List.cons.inj split
      exact absurd rfl apart
    · have second : quote = d := (List.cons.inj (List.cons.inj split).2).1
      exact absurd (congrArg some second.symm) apart
    · obtain ⟨-, split⟩ := List.cons.inj split
      obtain ⟨-, rfl⟩ := List.cons.inj split
      exact ⟨e :: before, n, after, rfl, behind, apart, ends⟩
  · rintro ⟨_ | ⟨b, before⟩, n, after, rfl, behind, apart, ends⟩
    · exact ⟨[], n + 1, after, rfl, by simpa using hp, by simp, ends⟩
    · exact ⟨quote :: quote :: b :: before, n, after, rfl, behind, apart, ends⟩

/-- A single quote stands alone. -/
theorem hasLoneQuote_single (hp : previous ≠ '\\') (ends : cs.head? ≠ some quote) :
    HasLoneQuote quote previous (quote :: cs) :=
  ⟨[], 0, cs, rfl, by simpa using hp, by simp, ends⟩

/-- Other characters can be left out. -/
theorem hasLoneQuote_cons_iff (hc : c ≠ quote) :
    HasLoneQuote quote previous (c :: cs) ↔ HasLoneQuote quote c cs := by
  constructor
  · rintro ⟨_ | ⟨b, before⟩, n, after, split, behind, apart, ends⟩
    · exact absurd (List.cons.inj split).1 hc
    · obtain ⟨rfl, rfl⟩ := List.cons.inj split
      cases before with
      | nil => exact ⟨[], n, after, rfl, behind, by simp, ends⟩
      | cons d before => exact ⟨d :: before, n, after, rfl, behind, apart, ends⟩
  · rintro ⟨_ | ⟨b, before⟩, n, after, rfl, behind, apart, ends⟩
    · exact ⟨[c], n, after, rfl, behind, by simpa using hc, ends⟩
    · exact ⟨c :: b :: before, n, after, rfl, behind, apart, ends⟩

end Lone

theorem length_le_length_doubleLoneQuotes (quote previous : Char) (cs : List Char) :
    cs.length ≤ (doubleLoneQuotes quote previous cs).length := by
  fun_induction doubleLoneQuotes quote previous cs <;> grind

/-- **A text is written as it is** if it holds no lone quote. -/
theorem doubleLoneQuotes_eq_self_iff {quote : Char} (hq : quote ≠ '\\') (previous : Char)
    (cs : List Char) :
    doubleLoneQuotes quote previous cs = cs ↔ ¬ HasLoneQuote quote previous cs := by
  fun_induction doubleLoneQuotes quote previous cs with
  | case1 previous => exact ⟨fun _ => not_hasLoneQuote_nil, fun _ => rfl⟩
  | case2 rest ih => rw [List.cons_inj_right, ih, hasLoneQuote_escaped_iff]
  | case3 previous hp =>
    exact ⟨fun same => by simp at same, fun none => absurd (hasLoneQuote_single hp (by simp)) none⟩
  | case4 previous hp rest ih =>
    rw [List.cons_inj_right, List.cons_inj_right, ih, hasLoneQuote_pair_iff hq hp]
  | case5 previous hp d rest hd ih =>
    have alone : HasLoneQuote quote previous (quote :: d :: rest) :=
      hasLoneQuote_single hp (by simpa using hd)
    refine ⟨fun same => absurd (congrArg List.length same) ?_, fun none => absurd alone none⟩
    have longer := length_le_length_doubleLoneQuotes quote quote (d :: rest)
    rw [List.length_cons, List.length_cons, List.length_cons]
    omega
  | case6 previous d rest hd ih => rw [List.cons_inj_right, ih, hasLoneQuote_cons_iff hd]

/-! ### Outer quotes -/

/-- The quotes that are taken away from a written identifier. -/
def outerQuotes : List (Char × Char) := [('[', ']'), ('"', '"'), ('`', '`')]

/-- A text with quotes around it that are taken away. -/
def IsEnclosed (cs : List Char) : Prop :=
  ∃ quotes ∈ outerQuotes, ∃ inner, cs = quotes.1 :: (inner ++ [quotes.2])

theorem insideQuotes?_eq_some_iff {opening closing : Char} {cs inner : List Char} :
    insideQuotes? opening closing cs = some inner ↔ cs = opening :: (inner ++ [closing]) := by
  cases cs with
  | nil => simp [insideQuotes?]
  | cons c rest =>
    rw [insideQuotes?, Option.ite_none_right_eq_some, Option.some_inj, List.cons.injEq, and_assoc]
    refine and_congr_right fun _ => ?_
    constructor
    · rintro ⟨last, rfl⟩
      exact (List.dropLast_append_getLast? closing last).symm
    · rintro rfl
      exact ⟨by simp, by simp⟩

/-- Outer quotes are taken away. -/
theorem stripQuotes_ofList {quotes : Char × Char} (h : quotes ∈ outerQuotes) (inner : List Char) :
    stripQuotes (String.ofList (quotes.1 :: (inner ++ [quotes.2]))) = String.ofList inner := by
  have found : insideQuotes? quotes.1 quotes.2 (quotes.1 :: (inner ++ [quotes.2])) = some inner :=
    insideQuotes?_eq_some_iff.mpr rfl
  have other {opening closing : Char} (hne : quotes.1 ≠ opening) :
      insideQuotes? opening closing (quotes.1 :: (inner ++ [quotes.2])) = none :=
    if_neg fun same => hne same.1
  -- the first character tells which quotes they are
  rw [stripQuotes, String.toList_ofList]
  simp only [outerQuotes, List.mem_cons, List.not_mem_nil, or_false] at h
  rcases h with rfl | rfl | rfl
  · rw [found]
    rfl
  · rw [other (by decide), found]
    rfl
  · rw [other (by decide), other (by decide), found]
    rfl

/-- A text without outer quotes is left alone. -/
theorem stripQuotes_of_not_isEnclosed {s : String} (h : ¬ IsEnclosed s.toList) :
    stripQuotes s = s := by
  have none {opening closing : Char} (hm : (opening, closing) ∈ outerQuotes) :
      insideQuotes? opening closing s.toList = none := by
    rw [Option.eq_none_iff_forall_ne_some]
    exact fun inner found => h ⟨_, hm, inner, insideQuotes?_eq_some_iff.mp found⟩
  rw [stripQuotes, none (by decide), none (by decide), none (by decide)]
  rfl

/-- What is left of a text with outer quotes is shorter. -/
theorem stripQuotes_eq_self_iff {s : String} : stripQuotes s = s ↔ ¬ IsEnclosed s.toList := by
  refine ⟨?_, stripQuotes_of_not_isEnclosed⟩
  rintro same ⟨quotes, hm, inner, split⟩
  have text : s = String.ofList (quotes.1 :: (inner ++ [quotes.2])) := by
    rw [← split, String.ofList_toList]
  rw [text, stripQuotes_ofList hm, ← String.toList_inj, String.toList_ofList,
    String.toList_ofList] at same
  have longer := congrArg List.length same
  simp at longer
  omega

/-! ### Written identifiers -/

/-- **An identifier is written plainly** if nothing but outer quotes is written besides its
value. -/
def Ident.IsPlain (i : Ident) : Prop :=
  match i.quote with
  | none => ¬ IsEnclosed i.value.toList
  | some q => q = '[' ∨ (q = '"' ∨ q = '`') ∧ ¬ HasLoneQuote q '\x00' i.value.toList

theorem Ident.render_bracketed (value : String) :
    (Ident.mk value (some '[')).render = String.ofList ('[' :: (value.toList ++ [']'])) := by
  rw [← String.toList_inj, String.toList_ofList]
  simp [render]

theorem Ident.render_quoted (value : String) {q : Char} (hq : q ≠ '[') :
    (Ident.mk value (some q)).render =
      String.ofList (q :: (doubleLoneQuotes q '\x00' value.toList ++ [q])) := by
  simp [render, quoted]

/-- Quotes that are not taken away stay. -/
theorem Ident.stripQuotes_render_of_kept (value : String) {q : Char}
    (hq : ∀ quotes ∈ outerQuotes, q ≠ quotes.1) :
    stripQuotes (Ident.mk value (some q)).render = (Ident.mk value (some q)).render := by
  refine stripQuotes_of_not_isEnclosed ?_
  rintro ⟨quotes, hm, inner, split⟩
  rw [render_quoted value (hq ('[', ']') (by decide)), String.toList_ofList] at split
  exact hq quotes hm (List.cons.inj split).1

/-- Quotes make a written form longer than its value. -/
theorem Ident.render_ne_value (value : String) {q : Char} (hq : q ≠ '[') :
    (Ident.mk value (some q)).render ≠ value := by
  intro same
  rw [render_quoted value hq, ← String.toList_inj, String.toList_ofList] at same
  have bound := length_le_length_doubleLoneQuotes q '\x00' value.toList
  have longer := congrArg List.length same
  simp at longer bound
  omega

/-- **The value is read off the written form** of an identifier if this is written plainly. -/
theorem Ident.stripQuotes_render_eq_value_iff (i : Ident) :
    stripQuotes i.render = i.value ↔ i.IsPlain := by
  obtain ⟨value, _ | q⟩ := i
  · exact stripQuotes_eq_self_iff
  rw [IsPlain]
  by_cases bracket : q = '['
  · subst bracket
    rw [render_bracketed, stripQuotes_ofList (by decide : ('[', ']') ∈ outerQuotes),
      String.ofList_toList]
    exact ⟨fun _ => .inl rfl, fun _ => rfl⟩
  by_cases outer : q = '"' ∨ q = '`'
  · have hm : (q, q) ∈ outerQuotes := by
      rcases outer with rfl | rfl <;> decide
    have hq : q ≠ '\\' := by
      rcases outer with rfl | rfl <;> decide
    rw [render_quoted value bracket, stripQuotes_ofList hm, ← String.toList_inj,
      String.toList_ofList, doubleLoneQuotes_eq_self_iff hq]
    exact ⟨fun none => .inr ⟨outer, none⟩, fun h => (h.resolve_left bracket).2⟩
  · -- quotes of another kind are not taken away
    obtain ⟨notDouble, notBacktick⟩ := not_or.mp outer
    have kept : ∀ quotes ∈ outerQuotes, q ≠ quotes.1 := by
      simp [outerQuotes, bracket, notDouble, notBacktick]
    rw [stripQuotes_render_of_kept value kept]
    exact ⟨fun same => absurd same (render_ne_value value bracket),
      fun h => absurd (h.resolve_left bracket).1 outer⟩

/-- Of a name of several parts, the last one is read. -/
theorem QualifiedName.baseName_concat (outer : List Ident) (i : Ident) :
    QualifiedName.baseName ⟨outer ++ [i]⟩ = stripQuotes i.render := by
  simp [baseName]

/-! ### Names without quotes -/

/-- A text holds none of the quotes that are taken away. -/
def HasNoQuotes (s : String) : Prop := ∀ quotes ∈ outerQuotes, quotes.1 ∉ s.toList

instance (s : String) : Decidable (HasNoQuotes s) :=
  inferInstanceAs (Decidable (∀ quotes ∈ outerQuotes, quotes.1 ∉ s.toList))

/-- An identifier that is a word, or stands in quotes that are taken away. -/
def Ident.IsDelimited (i : Ident) : Prop :=
  match i.quote with
  | none => ¬ IsEnclosed i.value.toList
  | some q => ∃ quotes ∈ outerQuotes, q = quotes.1

theorem HasNoQuotes.not_isEnclosed {s : String} (h : HasNoQuotes s) : ¬ IsEnclosed s.toList := by
  rintro ⟨quotes, hm, inner, split⟩
  exact h quotes hm (split ▸ List.mem_cons_self)

theorem not_hasLoneQuote_of_notMem {quote previous : Char} {cs : List Char} (h : quote ∉ cs) :
    ¬ HasLoneQuote quote previous cs := by
  rintro ⟨before, n, after, rfl, -⟩
  simp at h

/-- No character is lost when quotes are doubled. -/
theorem mem_doubleLoneQuotes {quote previous c : Char} {cs : List Char} (h : c ∈ cs) :
    c ∈ doubleLoneQuotes quote previous cs := by
  fun_induction doubleLoneQuotes quote previous cs <;> grind

/-- **A name without quotes is read off** the written form of a delimited identifier if it is the
identifier's value. -/
theorem Ident.stripQuotes_render_eq_iff {i : Ident} (hi : i.IsDelimited) {name : String}
    (hn : HasNoQuotes name) : stripQuotes i.render = name ↔ i.value = name := by
  by_cases plain : i.IsPlain
  · rw [i.stripQuotes_render_eq_value_iff.mpr plain]
  -- there is a lone quote in the value, and hence in its written form
  obtain ⟨value, _ | q⟩ := i
  · exact absurd hi plain
  obtain ⟨quotes, hm, rfl⟩ := hi
  obtain ⟨bracket, noLone⟩ := not_or.mp plain
  have outer : quotes.1 = '"' ∨ quotes.1 = '`' := by
    simp only [outerQuotes, List.mem_cons, List.not_mem_nil, or_false] at hm
    rcases hm with rfl | rfl | rfl
    · exact absurd rfl bracket
    · exact .inl rfl
    · exact .inr rfl
  have lone : quotes.1 ∈ value.toList := by
    by_contra absent
    exact noLone ⟨outer, not_hasLoneQuote_of_notMem absent⟩
  have same : (quotes.1, quotes.1) ∈ outerQuotes := by
    rcases outer with h | h <;> rw [h] <;> decide
  rw [render_quoted value bracket, stripQuotes_ofList same]
  constructor
  · rintro rfl
    refine absurd ?_ (hn quotes hm)
    rw [String.toList_ofList]
    exact mem_doubleLoneQuotes lone
  · rintro rfl
    exact absurd lone (hn quotes hm)

end RowShape.Sql
