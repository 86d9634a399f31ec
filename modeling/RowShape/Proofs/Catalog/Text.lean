import RowShape.Catalog.Json
import RowShape.Proofs.Json.Record

/-!
# Catalogs as texts

A catalog is an object of tables, each of which is an object of columns.  Names may come again on
both levels: a table or a column stands where its name came first, and what was written for it last
is what counts.  A column is an object or an array; members of the object that nobody asks for may
hold anything.

## Main definitions

* `ColumnText`: the ways to write a column
* `CatalogText`: the ways to write a catalog, with what they hold

## Main results

* `ColumnText.reads`, `reads_columns`: columns and tables are read
* `Catalog.ofJson_exact`: a catalog is read from all the ways to write it
-/

namespace RowShape

open Json Json.Reader

/-! ### Columns -/

/-- What a member of a column is: its type, whether it may hold no value, or something else. -/
inductive ColumnMember where
  | dbType (type : String)
  | nullable (nullable : Bool)
  | other

namespace ColumnMember

/-- The type that a member gives. -/
def dbType? : ColumnMember → Option String
  | dbType type => some type
  | _ => none

/-- The truth value that a member gives. -/
def nullable? : ColumnMember → Option Bool
  | nullable b => some b
  | _ => none

/-- What a member with a name and a text behind it is. -/
inductive IsText : String × List Char → ColumnMember → Prop
  | dbType {text : List Char} {type : String} (h : BehindColon (StringText · type) text) :
      IsText ("db_type", text) (.dbType type)
  | nullable {text : List Char} {b : Bool} (h : BehindColon (BoolText · b) text) :
      IsText ("nullable", text) (.nullable b)
  | other {name : String} {text : List Char} (hn : name ≠ "db_type" ∧ name ≠ "nullable")
      (h : BehindColon ValueForm text) : IsText (name, text) .other

end ColumnMember

/-- **The ways to write a column**: as an object with the type and the truth value once each, among
members that nobody asks for, and as an array of the two. -/
inductive ColumnText : List Char → ColumnInfo → Prop
  | object {text : List Char} {members : List (String × List Char)} {content : List ColumnMember}
      {i : ColumnInfo} (layout : MembersText true text members)
      (each : List.Forall₂ ColumnMember.IsText members content)
      (type : content.filterMap ColumnMember.dbType? = [i.dbType])
      (nullable : content.filterMap ColumnMember.nullable? = [i.nullable]) :
      ColumnText ('{' :: text) i
  | array {before type between nullable behind : List Char} {i : ColumnInfo}
      (hs : Separator true before) (ht : StringText type i.dbType) (hs' : Separator false between)
      (hn : BoolText nullable i.nullable) (hb : Blank behind) :
      ColumnText ('[' :: (before ++ (type ++ (between ++ nullable)) ++ (behind ++ [']']))) i

/-- Where a value is still to come it has not come before. -/
theorem eq_none_of_toList_append {α : Type} {o : Option α} {a b : α} {rest : List α}
    (h : o.toList ++ a :: rest = [b]) : o = none := by
  cases o with
  | none => rfl
  | some c => simp at h

/-- The members of a column fill what is left open, in whatever order they stand. -/
theorem takesMembers_column {n : Nat} {members : List (String × List Char)}
    {content : List ColumnMember} (each : List.Forall₂ ColumnMember.IsText members content)
    {p : PartialColumnInfo} {i : ColumnInfo}
    (type : p.dbType.toList ++ content.filterMap ColumnMember.dbType? = [i.dbType])
    (nullable : p.nullable.toList ++ content.filterMap ColumnMember.nullable? = [i.nullable]) :
    TakesMembers ColumnInfo.format.readMember n p members ⟨some i.dbType, some i.nullable⟩ := by
  induction each generalizing p with
  | nil =>
    obtain ⟨dbType, null⟩ := p
    obtain rfl : dbType = some i.dbType := by simpa using type
    obtain rfl : null = some i.nullable := by simpa using nullable
    exact .nil _
  | cons own _ ih =>
    cases own with
    | dbType h =>
      have unread := eq_none_of_toList_append type
      rw [unread] at type
      exact .cons (RecordFormat.takes_readMember_field rfl (skipsSpaces_fromToken _) unread
        (h.imp fun _ h => (reads_stringFor _ h).takes)) (ih type nullable)
    | nullable h =>
      have unread := eq_none_of_toList_append nullable
      rw [unread] at nullable
      exact .cons (RecordFormat.takes_readMember_field rfl (skipsSpaces_fromToken _) unread
        (h.imp fun _ h => (reads_boolean h).takes)) (ih type nullable)
    | @other name _ hn h =>
      have unknown : ColumnInfo.format.fields.find? (·.name == name) = none := by
        simp [ColumnInfo.format, ColumnInfo.fields, Field.of, hn.1.symm, hn.2.symm]
      exact .cons (RecordFormat.takes_readMember_other unknown p h) (ih type nullable)

/-- **A column is read from each of the ways to write it.** -/
theorem ColumnText.reads {n : Nat} {text : List Char} {i : ColumnInfo} (h : ColumnText text i) :
    Reads ColumnInfo.format.reader (n + 1) text i := by
  cases h with
  | object layout each type nullable =>
    exact RecordFormat.reads_reader_object layout (takesMembers_column each type nullable) rfl
  | array hs ht hs' hn hb =>
    obtain ⟨inner, hi, rfl⟩ := ht
    obtain ⟨c, letters, rfl, token, inside⟩ := hn.beginsItem
    rw [← List.append_nil (c :: letters)]
    -- the type, and then the truth value
    refine RecordFormat.reads_reader_list hb (s := ⟨some i.dbType, some i.nullable⟩) ?_ rfl
    exact RecordFormat.reads_readItems_cons hs (by decide) (by decide)
      ((reads_stringFor _ ⟨inner, hi, rfl⟩).map _)
      (RecordFormat.reads_readItems_cons hs' token inside ((reads_boolean hn).map _)
        (RecordFormat.reads_readItems_nil 2 _))

/-- The columns of a table are read. -/
theorem reads_columns {n : Nat} {text : List Char} {columns : List (String × ColumnInfo)}
    (h : ObjectText ColumnText text columns) :
    Reads (Reader.map ColumnInfo.format.reader) (n + 2) text (OrderedMap.ofList columns) :=
  reads_map (RecordFormat.skipsSpaces_reader ColumnInfo.format)
    (h.imp fun _ _ own => (own.reads (n := n)).takes)

/-! ### Catalogs -/

/-- **The ways to write a catalog**: an object of objects of columns, with blanks around it.  What
it holds are the tables and their columns as they are written, names that come again among them. -/
inductive CatalogText : List Char → List (String × List (String × ColumnInfo)) → Prop
  | mk {before text behind : List Char} {tables : List (String × List (String × ColumnInfo))}
      (h : Blank before) (ht : ObjectText (ObjectText ColumnText) text tables) (h' : Blank behind) :
      CatalogText (before ++ (text ++ behind)) tables

namespace Catalog

/-- The catalog that is written. -/
def ofTables (tables : List (String × List (String × ColumnInfo))) : Catalog :=
  ⟨OrderedMap.ofList (tables.map fun t => (t.1, OrderedMap.ofList t.2))⟩

/-- **A catalog is read from each of the ways to write it.** -/
theorem ofJson_of_text {text : String} {tables : List (String × List (String × ColumnInfo))}
    (h : CatalogText text.toList tables) : ofJson text = .ok (ofTables tables) := by
  generalize ht : text.toList = s at h
  obtain ⟨hb, object, hb'⟩ := h
  have own := ObjectText.map (V := ObjectText ColumnText) OrderedMap.ofList
    (fun _ _ h => (reads_columns (n := 124) h).takes) object
  have read : Reads reader depthLimit _ _ :=
    ((reads_map (skipsSpaces_map _) own).bind_pure mk).blank ((skipsSpaces_map _).bind _) hb
  rw [← List.append_assoc] at ht
  rw [ofJson, run_of_reads_blank read hb' ht]
  rfl

/-- A catalog is written as its tables and columns. -/
def written (c : Catalog) : List (String × List (String × ColumnInfo)) :=
  c.tables.entries.map fun t => (t.1, t.2.entries)

theorem ofTables_written (c : Catalog) : ofTables c.written = c := by
  rw [ofTables, written, List.map_map]
  simp only [Function.comp_def, OrderedMap.ofList_entries, List.map_id']

end Catalog

/-! ### Catalogs as they are written -/

/-- A column is written as an object of its two members. -/
theorem columnText_of_layout {text type nullable : List Char} {i : ColumnInfo}
    (layout : MembersText true text [("db_type", type), ("nullable", nullable)])
    (ht : BehindColon (StringText · i.dbType) type)
    (hn : BehindColon (BoolText · i.nullable) nullable) : ColumnText ('{' :: text) i :=
  .object layout (.cons (.dbType ht) (.cons (.nullable hn) .nil)) rfl rfl

theorem columnText_compact (i : ColumnInfo) : ColumnText i.toJson.compact.toList i := by
  rw [ColumnInfo.toJson, toList_compact_object]
  refine columnText_of_layout (membersText_memberLines blank_nil blank_nil true _) (.tight ?_)
    (.tight ?_)
  · rw [toList_compact_string]
    exact stringText_quoteChars i.dbType
  · exact boolText_compact i.nullable

theorem columnText_pretty (level : Nat) (i : ColumnInfo) :
    ColumnText (i.toJson.prettyAt level).toList i := by
  rw [ColumnInfo.toJson, toList_prettyAt_object, List.append_assoc]
  refine columnText_of_layout (membersText_memberLines (isSpace_of_mem_lineBreak (level + 1))
    (isSpace_of_mem_closingBreak level _) true _) (.spaced ?_) (.spaced ?_)
  · rw [toList_prettyAt_string]
    exact stringText_quoteChars i.dbType
  · exact boolText_pretty (level + 1) i.nullable

namespace Catalog

theorem catalogText_of_entries {text : List Char} {c : Catalog}
    (h : ObjectText (fun text m => ObjectText ColumnText text (OrderedMap.entries m)) text
      c.tables.entries) : CatalogText text c.written := by
  have tables := h.map (W := ObjectText ColumnText) OrderedMap.entries fun _ _ own => own
  simpa [written] using CatalogText.mk blank_nil tables blank_nil

/-- A catalog is written on one line. -/
theorem catalogText_compact (c : Catalog) : CatalogText c.toJson.compact.toList c.written :=
  catalogText_of_entries (objectText_compact columnsToJson fun _ _ =>
    objectText_compact ColumnInfo.toJson fun e _ => columnText_compact e.2)

/-- A catalog is written line by line. -/
theorem catalogText_pretty (c : Catalog) : CatalogText c.toJson.pretty.toList c.written :=
  catalogText_of_entries (objectText_pretty columnsToJson 0 fun _ _ =>
    objectText_pretty ColumnInfo.toJson 1 fun e _ => columnText_pretty 2 e.2)

/-- **Catalogs and their texts.**  A catalog is read back from its text, whether that is written on
one line or line by line.  From a text in which names come again, on either level, the catalog is
read in which each name stands where it came first, with what was written for it last. -/
theorem ofJson_exact :
    (∀ c : Catalog, ofJson c.toJson.compact = .ok c ∧ ofJson c.toJson.pretty = .ok c) ∧
      ∀ (text : String) (tables : List (String × List (String × ColumnInfo))),
        CatalogText text.toList tables → ∃ c, ofJson text = .ok c ∧
          OrderedMap.KeepsLast (OrderedMap.KeepsLast Eq) tables c.tables := by
  refine ⟨fun c => ⟨?_, ?_⟩, fun text tables h => ⟨_, ofJson_of_text h, ?_⟩⟩
  · rw [ofJson_of_text c.catalogText_compact, ofTables_written]
  · rw [ofJson_of_text c.catalogText_pretty, ofTables_written]
  · exact OrderedMap.keepsLast_ofList OrderedMap.ofList OrderedMap.keepsLast_eq_ofList tables

/-- A text of two tables.  One of them is written twice, and so is a column of it; one column is
written with a member that nobody asks for. -/
def rewritten : String :=
  "\x7b\"\\u0061\": \x7b \"id\": [\"int\", false]\x7d, \"b\": \x7b\x7d, " ++
    "\"a\": \x7b \"n\": \x7b \"note\": [-0.5], \"nullable\": true, \"db_type\": \"text\"\x7d, " ++
      "\"m\": [\"int\", false], \"n\": [\"int\", false]\x7d\x7d"

/-- What the text holds. -/
def rewrittenTables : List (String × List (String × ColumnInfo)) :=
  [("a", [("id", ⟨"int", false⟩)]), ("b", []),
    ("a", [("n", ⟨"text", true⟩), ("m", ⟨"int", false⟩), ("n", ⟨"int", false⟩)])]

theorem catalogText_rewritten : CatalogText rewritten.toList rewrittenTables := by
  -- the name of the first table is escaped
  have name : StringText ['"', '\\', 'u', '0', '0', '6', '1', '"'] "a" := by
    have digits : HexText ['0', '0', '6', '1'] 'a'.toNat :=
      .mk (i := 0) (j := 0) (k := 6) (l := 1) ⟨by decide, by decide⟩ ⟨by decide, by decide⟩
        ⟨by decide, by decide⟩ ⟨by decide, by decide⟩
    exact ⟨_, ⟨_, .cons (.numbered digits) .nil, rfl⟩, rfl⟩
  have note : ValueForm ['[', '-', '0', '.', '5', ']'] := by
    have digits {c : Char} (h : c.isDigit) : Digits [c] :=
      ⟨List.cons_ne_nil c [], List.forall_mem_singleton.mpr h⟩
    have number : NumberForm (['-'] ++ (['0'] ++ (['.', '5'] ++ []))) :=
      .mk (by decide) (digits rfl) (fun _ => rfl) (.point (digits rfl)) .none
    exact .frame (f := .list) (.next (.first blank_nil) .item (.number number) (.close blank_nil))
  have int : ColumnText _ ⟨"int", false⟩ :=
    .array (.first blank_nil) (stringText_quoteChars _) (.comma blank_nil blank_space) .false
      blank_nil
  have text : ColumnText _ ⟨"text", true⟩ :=
    .object (membersText_memberLines blank_space blank_nil true
        [("note", _), ("nullable", _), ("db_type", _)])
      (.cons (.other (by decide) (.spaced note)) (.cons (.nullable (.spaced .true))
        (.cons (.dbType (.spaced (stringText_quoteChars _))) .nil))) rfl rfl
  have first : ObjectText ColumnText _ [("id", ⟨"int", false⟩)] :=
    .mk (membersText_memberLines blank_space blank_nil true [("id", _)])
      (.cons ⟨rfl, .spaced int⟩ .nil)
  have last : ObjectText ColumnText _ [("n", ⟨"text", true⟩), ("m", ⟨"int", false⟩),
      ("n", ⟨"int", false⟩)] :=
    .mk (membersText_memberLines blank_space blank_nil true [("n", _), ("m", _), ("n", _)])
      (.cons ⟨rfl, .spaced text⟩ (.cons ⟨rfl, .spaced int⟩ (.cons ⟨rfl, .spaced int⟩ .nil)))
  obtain ⟨whole, form, same⟩ :
      ∃ whole, CatalogText whole rewrittenTables ∧ whole = rewritten.toList := by
    refine ⟨_, .mk blank_nil (.mk (.next (.first blank_nil) name
      (.next (.comma blank_nil blank_space) (stringText_quoteChars "b")
        (.next (.comma blank_nil blank_space) (stringText_quoteChars "a") (.close blank_nil))))
      (.cons ⟨rfl, .spaced first⟩ (.cons ⟨rfl, .spaced (.mk (.close blank_nil) .nil)⟩
        (.cons ⟨rfl, .spaced last⟩ .nil)))) blank_nil, ?_⟩
    decide +kernel
  exact same ▸ form

/-- The table that is written twice stands first with the columns that are written last, and so does
the column. -/
theorem ofJson_exact_rewritten :
    CatalogText rewritten.toList rewrittenTables ∧ ∃ c, ofJson rewritten = .ok c ∧
      OrderedMap.KeepsLast (OrderedMap.KeepsLast Eq) rewrittenTables c.tables :=
  ⟨catalogText_rewritten, ofJson_exact.2 rewritten rewrittenTables catalogText_rewritten⟩

end Catalog

end RowShape
