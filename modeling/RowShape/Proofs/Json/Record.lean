import RowShape.Json.Record
import RowShape.Proofs.Json.Ignored
import RowShape.Proofs.Json.RoundTrip
import RowShape.Proofs.OrderedMap

/-!
# Lists, maps and records read back

What reads a type is measured by how its values are written: a reader reads a value back if it takes
the indented text of the value, wherever that stands.  Lists and maps are read back if their parts
are.  A record is read back if its members fill the partial record that it is read into, one after
another; a member that is left out fills nothing.

## Main definitions

* `ReadsBack`: a value is read from the text that it is written as
* `Enumeration.WordText`: the ways to write a value of an enumeration
* `RecordFormat.Fills`: the members of an object fill a partial record

## Main results

* `Enumeration.WordText.reads`: enumerations
* `reads_list`, `reads_map`, `readsBack_list`, `readsBack_map`: lists and maps
* `RecordFormat.readsBack_of_fills`: records
-/

namespace RowShape.Json

open Reader

variable {α β σ : Type} {k : Nat}

/-- The reader takes the indented text of a value and gives `a`, on every level of indentation and
wherever arrays and objects may still be nested `k` deep. -/
def ReadsBack (p : Reader α) (k : Nat) (v : Json) (a : α) : Prop :=
  ∀ n level, Reads p (n + k) (v.prettyAt level).toList a

/-! ### Words -/

theorem readsBack_string (s : String) : ReadsBack Reader.string k (.string s) s := by
  intro n level
  rw [toList_prettyAt_string]
  exact reads_stringFor _ (stringText_quoteChars s)

/-- **The ways to write a value of an enumeration**: its word, or an object with this word as its
only name and `null` as the value of that. -/
inductive Enumeration.WordText (e : Enumeration α) : List Char → α → Prop
  | word {text : List Char} {word : String} {a : α} (found : e.lookup word = some a)
      (h : StringText text word) : WordText e text a
  | object {before key text behind : List Char} {word : String} {a : α}
      (found : e.lookup word = some a) (hb : Blank before) (hk : StringText key word)
      (hv : BehindColon (· = ['n', 'u', 'l', 'l']) text) (hb' : Blank behind) :
      WordText e ('{' :: (before ++ key ++ text ++ (behind ++ ['}']))) a

theorem Enumeration.reads_word {n : Nat} {e : Enumeration α} {text : List Char} {word : String}
    {a : α} (found : e.lookup word = some a) (h : StringText text word) :
    Reads e.reader n text a := by
  obtain ⟨inner, hi, rfl⟩ := h
  refine reads_fromToken (by decide) ((reads_skip '"').bind ?_)
  exact (reads_textRest hi).bind_except (by rw [ofWord, found])

/-- **A value of an enumeration is read from each of the ways to write it.** -/
theorem Enumeration.WordText.reads {n : Nat} {e : Enumeration α} {text : List Char} {a : α}
    (h : e.WordText text a) : Reads e.reader (n + 1) text a := by
  cases h with
  | word found h => exact e.reads_word found h
  | @object before key text behind name _ found hb hk hv hb' =>
    obtain ⟨hc, hc', rfl⟩ := hv
    have named : Reads (stringFor "variant identifier") n (before ++ key) name :=
      (reads_stringFor _ hk).blank (skipsSpaces_fromToken _) hb
    have unit : Reads (fromToken fun c =>
        if c == 'n' then Reader.word ['u', 'l', 'l'] else mismatch "unit") n
        ['n', 'u', 'l', 'l'] () := fun rest => rfl
    have value := (unit.blank (skipsSpaces_fromToken _) hc').bind_pure fun _ => a
    have known : e.ofWord name = .ok a := by rw [ofWord, found]
    -- behind the brace stand the word, what belongs to it, and the end
    refine reads_fromToken (by decide) ((reads_skip '{').bind ?_)
    refine Reads.bind (Reads.nested (named.bind ?_)) (fun rest => ?_) (a := a)
    · have member := (reads_colon.blank skipsSpaces_colon hc).bind (f := fun _ => _) value
      rw [List.append_cons, known]
      exact member
    · rw [List.append_assoc, List.singleton_append, bind_apply (token?_apply hb' (by decide) _)]
      rfl

/-- A word is read back as what it stands for. -/
theorem Enumeration.readsBack {e : Enumeration α} {word : String} {a : α}
    (h : e.lookup word = some a) : ReadsBack e.reader k (.string word) a := by
  intro n level
  rw [toList_prettyAt_string]
  exact e.reads_word h (stringText_quoteChars word)

/-- What is written as a text is not taken for `null`. -/
theorem ReadsBack.nullable {p : Reader α} {s : String} {a : α} (h : ReadsBack p k (.string s) a) :
    ReadsBack (nullable p) k (.string s) (some a) := by
  intro n level rest
  have own := h n level
  rw [toList_prettyAt_string] at own ⊢
  -- the token that `null` is told by is a quote
  exact (bind_apply (token?_cons (by decide) _) _).trans (own.bind_pure some rest)

/-! ### Lists and maps -/

/-- A list is read from each of the ways to write it. -/
theorem reads_list {n : Nat} {p : Reader β} {text : List Char} {bs : List β}
    (h : ArrayText (fun text b => BeginsItem text ∧ Reads p n text b) text bs) :
    Reads (Reader.list p) (n + 1) text bs := by
  obtain ⟨layout, each⟩ := h
  have items := reads_itemsText layout (takesItems_forall₂ (fun found b => b :: found) each [])
  rw [List.foldl_flip_cons_eq_append, List.append_nil, List.map_id'] at items
  have whole := items.nested.bind_pure List.reverse
  rw [List.reverse_reverse] at whole
  exact reads_fromToken (by decide) ((reads_skip '[').bind whole)

/-- **A list is read back** if its items are. -/
theorem readsBack_list {p : Reader β} (json : β → Json) {bs : List β}
    (h : ∀ b ∈ bs, NumberFree k (json b)) (own : ∀ b ∈ bs, ReadsBack p k (json b) b) :
    ReadsBack (Reader.list p) (k + 1) (.array (bs.map json)) bs := by
  intro n level
  refine reads_list (arrayText_pretty json level fun b hb => ⟨?_, own b hb n (level + 1)⟩)
  exact ((h b hb).valueText_pretty (level + 1)).beginsItem

theorem skipsSpaces_map (p : Reader β) : SkipsSpaces (Reader.map p) := skipsSpaces_fromToken _

/-- **A map is read from each of the ways to write it**: of several values for one key the last one
counts, and the key stands where it came first. -/
theorem reads_map {n : Nat} {p : Reader β} (hp : SkipsSpaces p) {text : List Char}
    {values : List (String × β)} (h : ObjectText (Takes p n) text values) :
    Reads (Reader.map p) (n + 1) text (OrderedMap.ofList values) := by
  obtain ⟨layout, each⟩ := h
  have taken := takesMembers_forall₂ hp OrderedMap.insert each OrderedMap.empty
  exact reads_fromToken (by decide) ((reads_skip '{').bind (reads_membersText layout taken).nested)

/-- **A map is read back** if its values are. -/
theorem readsBack_map {p : Reader β} (hp : SkipsSpaces p) (json : β → Json) {m : OrderedMap β}
    (own : ∀ e ∈ m.entries, ReadsBack p k (json e.2) e.2) :
    ReadsBack (Reader.map p) (k + 1) (m.toJson json) m := by
  intro n level
  have text := objectText_pretty (V := Takes p (n + k)) json level
    fun e he => (own e he n (level + 1)).takes
  have whole := reads_map hp text
  rwa [OrderedMap.ofList_entries] at whole

/-! ### Records -/

namespace RecordFormat

variable {f : RecordFormat Reader σ α}

/-- The members of an object, which are written one after another, fill the partial record `s`, so
that it becomes `t`. -/
def Fills (f : RecordFormat Reader σ α) (k : Nat) (s : σ) (members : List (String × Json)) (t : σ) :
    Prop :=
  ∀ n level, TakesMembers f.readMember (n + k) s
    (members.map fun m => (m.1, memberText level m.2)) t

theorem Fills.nil (s : σ) : f.Fills k s [] s := fun _ _ => .nil s

theorem Fills.append {s t u : σ} {ms ms' : List (String × Json)} (h : f.Fills k s ms t)
    (h' : f.Fills k t ms' u) : f.Fills k s (ms ++ ms') u := by
  intro n level
  rw [List.map_append]
  exact (h n level).append (h' n level)

/-- A member whose field has not been read fills that. -/
theorem takes_readMember_field {n : Nat} {name : String} {hasDefault : Bool} {get : σ → Option β}
    {put : β → σ → σ} {p : Reader β}
    (field : f.fields.find? (·.name == name) = some (.of name hasDefault get put p))
    (hp : SkipsSpaces p) {s : σ} (unread : get s = none) {text : List Char} {b : β}
    (own : BehindColon (Takes p n · b) text) : Takes (f.readMember s name) n text (put b s) := by
  have free : (Field.of name hasDefault get put p : Field Reader σ).isRead s = false := by
    change (get s).isSome = false
    rw [unread]
    rfl
  have value := takes_colon (hp.map fun b => put b s)
    (own.imp fun _ h => h.map fun b => put b s)
  intro rest hr
  rw [readMember, field]
  simp only [free, Bool.false_eq_true, if_false]
  exact value rest hr

/-- A member without a field is passed over. -/
theorem takes_readMember_other {n : Nat} {name : String}
    (unknown : f.fields.find? (·.name == name) = none) (s : σ) {text : List Char}
    (own : BehindColon ValueForm text) : Takes (f.readMember s name) n text s := by
  obtain ⟨hb, hb', form⟩ := own
  rw [List.append_cons, readMember, unknown]
  exact (reads_colon.blank skipsSpaces_colon hb).bind_takes
    ((takes_ignored hb' form).bind_pure fun _ => s)

/-- A member whose field has not been read fills that, and others are filled behind it. -/
theorem fills_field {name : String} {hasDefault : Bool} {get : σ → Option β} {put : β → σ → σ}
    {p : Reader β} (field : f.fields.find? (·.name == name) = some (.of name hasDefault get put p))
    (hp : SkipsSpaces p) {s t : σ} (unread : get s = none) {v : Json} {b : β}
    (own : ReadsBack p k v b) {ms : List (String × Json)} (others : f.Fills k (put b s) ms t) :
    f.Fills k s ((name, v) :: ms) t := by
  intro n level
  -- a blank stands between the colon and the value
  have text : BehindColon (Takes p (n + k) · b) (memberText level v) :=
    .spaced (own n level).takes
  exact .cons (takes_readMember_field field hp unread text) (others n level)

theorem skipsSpaces_reader (f : RecordFormat Reader σ α) : SkipsSpaces f.reader :=
  skipsSpaces_fromToken _

/-! ### Objects and arrays -/

/-- **A record is read from an object** in whatever layout, if the members fill a partial record
that is complete. -/
theorem reads_reader_object {n : Nat} {text : List Char} {members : List (String × List Char)}
    (layout : MembersText true text members) {s : σ} {a : α}
    (h : TakesMembers f.readMember n f.start members s) (complete : f.finish s = .ok a) :
    Reads f.reader (n + 1) ('{' :: text) a := by
  have filled := (reads_membersText layout h).bind_except complete
  exact reads_fromToken (by decide) ((reads_skip '{').bind filled.nested)

/-- **A record is read back** if its members fill a partial record that is complete. -/
theorem readsBack_of_fills {members : List (String × Json)} {s : σ} {a : α}
    (h : f.Fills k f.start members s) (complete : f.finish s = .ok a) :
    ReadsBack f.reader (k + 1) (.object members) a := by
  intro n level
  rw [toList_prettyAt_object, List.append_assoc]
  exact reads_reader_object (membersText_memberLines (isSpace_of_mem_lineBreak (level + 1))
    (isSpace_of_mem_closingBreak level members) true _) (h n (level + 1)) complete

theorem reads_readItems_nil {n : Nat} (i : Nat) (s : σ) : Reads (f.readItems i [] s) n [] s :=
  fun _ => rfl

/-- An item of an array fills the next field. -/
theorem reads_readItems_cons {n i : Nat} {field : Field Reader σ} {fields : List (Field Reader σ)}
    {s t u : σ} {before more : List Char} {c : Char} {text : List Char}
    (hs : Separator (i == 0) before) (token : isSpace c = false) (inside : c ≠ ']')
    (own : Reads (field.read s) n (c :: text) t)
    (others : Reads (f.readItems (i + 1) fields t) n more u) :
    Reads (f.readItems i (field :: fields) s) n (before ++ (c :: text ++ more)) u := by
  intro rest
  have line : before ++ (c :: text ++ more) ++ rest = before ++ c :: (text ++ (more ++ rest)) := by
    simp
  rw [line, readItems, bind_apply (nextItem_more hs token inside _)]
  change (field.read s >>= fun t => f.readItems (i + 1) fields t) n (c :: text ++ _) = _
  rw [bind_apply (own _), others rest]

/-- A record is read from an array, if the items fill a partial record that is complete. -/
theorem reads_reader_list {n : Nat} {text blanks : List Char} (hb : Blank blanks) {s : σ} {a : α}
    (h : Reads (f.readItems 0 f.fields f.start) n text s) (complete : f.finish s = .ok a) :
    Reads f.reader (n + 1) ('[' :: (text ++ (blanks ++ [']']))) a := by
  have filled := (h.bind_except complete).nested
  have ending : Reads Reader.endList (n + 1) (blanks ++ [']']) () := by
    intro rest
    rw [List.append_assoc]
    exact endList_apply hb rest
  exact reads_fromToken (by decide)
    ((reads_skip '[').bind (filled.bind (ending.bind_pure fun _ => a)))

end RecordFormat

end RowShape.Json
