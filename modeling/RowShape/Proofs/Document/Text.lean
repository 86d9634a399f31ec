import RowShape.Proofs.Json.Record
import RowShape.Schema.Validator

/-!
# The texts of documents

The text of a document says all that the document says.  Members that are left out are the ones
that say nothing, so that reading the text gives the document again, with its properties and its
required columns in their order.  Read as a value of no particular type, the text gives the value
that the rules of documents are checked against.

## Main results

* `PropertySchema.readsBack`, `SchemaDocument.readsBack`: properties and documents are read back
* `SchemaDocument.pretty_lossless`: what is read of the text of a document
-/

namespace RowShape

open Json Json.Reader Json.RecordFormat

/-! ### Properties -/

/-- A type is read back by its name. -/
theorem JsonType.readsBack (t : JsonType) {k : Nat} :
    ReadsBack JsonType.names.reader k (.string t.name) t :=
  Enumeration.readsBack (by cases t <;> decide)

/-- A member that may be left out fills its field if it is there. -/
theorem fills_stringMember {α σ β : Type} {f : RecordFormat Reader σ α} {name : String}
    {hasDefault : Bool} {get : σ → Option (Option β)} {put : Option β → σ → σ} {p : Reader β}
    (field : f.fields.find? (·.name == name) = some (.of name hasDefault get put (nullable p)))
    {s t : σ} (unread : get s = none) {word : β → String} {k : Nat}
    (own : ∀ b, ReadsBack p k (.string (word b)) b) {value : Option β}
    (filled : (value.elim s fun b => put (some b) s) = t) :
    f.Fills k s (stringMember name (value.map word)) t := by
  subst filled
  cases value with
  | none => exact .nil s
  | some b => exact fills_field field (skipsSpaces_token? _) unread (own b).nullable (.nil _)

theorem join_map_some {β : Type} (o : Option β) : (o.map some).join = o := by
  cases o <;> rfl

/-- **A property is read back**, whatever it leaves out. -/
theorem PropertySchema.readsBack (p : PropertySchema) {k : Nat} :
    ReadsBack PropertySchema.jsonFormat.reader (k + 1) p.toJson p := by
  -- each keyword fills its field, or leaves it as it was if it is not there
  have type : jsonFormat.Fills k jsonFormat.start (stringMember "type" (p.type.map JsonType.name))
      ⟨p.type.map some, none, none, none⟩ :=
    fills_stringMember rfl rfl (fun t => t.readsBack) (by cases p.type <;> rfl)
  have format : jsonFormat.Fills k ⟨p.type.map some, none, none, none⟩
      (stringMember "format" (p.format.map id)) ⟨p.type.map some, p.format.map some, none, none⟩ :=
    fills_stringMember rfl rfl readsBack_string (by cases p.format <;> rfl)
  have reference : jsonFormat.Fills k ⟨p.type.map some, p.format.map some, none, none⟩
      (stringMember "$ref" (p.reference.map id))
      ⟨p.type.map some, p.format.map some, p.reference.map some, none⟩ :=
    fills_stringMember rfl rfl readsBack_string (by cases p.reference <;> rfl)
  have description : jsonFormat.Fills k
      ⟨p.type.map some, p.format.map some, p.reference.map some, none⟩
      (stringMember "description" (p.description.map id))
      ⟨p.type.map some, p.format.map some, p.reference.map some, p.description.map some⟩ :=
    fills_stringMember rfl rfl readsBack_string (by cases p.description <;> rfl)
  have complete : jsonFormat.finish
      ⟨p.type.map some, p.format.map some, p.reference.map some, p.description.map some⟩ =
        .ok p := by
    simp only [jsonFormat, join_map_some]
  rw [Option.map_id] at format reference description
  exact readsBack_of_fills (((type.append format).append reference).append description) complete

theorem PropertySchema.numberFree (p : PropertySchema) {k : Nat} : NumberFree (k + 1) p.toJson := by
  have strings : ∀ (name : String) (text : Option String), ∀ m ∈ stringMember name text,
      NumberFree k m.2 := by
    intro name text m hm
    obtain ⟨s, -, rfl⟩ := Option.map_eq_some_iff.mp (Option.mem_toList.mp hm)
    exact .string s
  refine .object fun m hm => ?_
  simp only [List.mem_append] at hm
  obtain ((hm | hm) | hm) | hm := hm <;> exact strings _ _ m hm

/-! ### Documents -/

namespace SchemaDocument

/-- **A document is read back.** -/
theorem readsBack (d : SchemaDocument) (k : Nat) :
    ReadsBack format.reader (k + 3) d.toJson d := by
  have string : SkipsSpaces Reader.string := skipsSpaces_fromToken _
  have properties : ReadsBack (Reader.map PropertySchema.jsonFormat.reader) (k + 2)
      (d.properties.toJson PropertySchema.toJson) d.properties :=
    readsBack_map (skipsSpaces_reader _) _ fun e _ => e.2.readsBack
  have always : format.Fills (k + 2) format.start
      [("$schema", .string d.schema), ("$id", .string d.id), ("title", .string d.title),
        ("type", .string d.type), ("properties", d.properties.toJson PropertySchema.toJson)]
      ⟨some d.schema, some d.id, some d.title, some d.type, some d.properties, none⟩ :=
    fills_field rfl string rfl (readsBack_string _) <|
      fills_field rfl string rfl (readsBack_string _) <|
      fills_field rfl string rfl (readsBack_string _) <|
      fills_field rfl string rfl (readsBack_string _) <|
      fills_field rfl (skipsSpaces_fromToken _) rfl properties (.nil _)
  rw [toJson]
  -- the list of required columns is left out if it is empty, and then it is read as empty
  split
  · next empty =>
    refine readsBack_of_fills (always.append (.nil _)) ?_
    change Except.ok (SchemaDocument.mk d.schema d.id d.title d.type d.properties []) = .ok d
    rw [← List.isEmpty_iff.mp empty]
  · have required : ReadsBack (Reader.list Reader.string) (k + 2)
        (.array (d.required.map .string)) d.required :=
      readsBack_list .string (fun s _ => .string s) fun s _ => readsBack_string s
    exact readsBack_of_fills
      (always.append (fills_field rfl (skipsSpaces_fromToken _) rfl required (.nil _))) rfl

theorem numberFree (d : SchemaDocument) {k : Nat} : NumberFree (k + 3) d.toJson := by
  have properties : NumberFree (k + 2) (d.properties.toJson PropertySchema.toJson) := by
    refine .object fun m hm => ?_
    obtain ⟨e, -, rfl⟩ := List.mem_map.mp hm
    exact e.2.numberFree
  have required : NumberFree (k + 2) (.array (d.required.map .string)) := by
    refine .array fun v hv => ?_
    obtain ⟨s, -, rfl⟩ := List.mem_map.mp hv
    exact .string s
  refine .object fun m hm => ?_
  obtain hm | hm := List.mem_append.mp hm
  · simp only [List.mem_cons, List.not_mem_nil, or_false] at hm
    obtain rfl | rfl | rfl | rfl | rfl := hm
    all_goals first | exact .string _ | exact properties
  · split at hm
    · exact absurd hm List.not_mem_nil
    · obtain rfl := List.mem_singleton.mp hm
      exact required

/-- **The text of a document loses nothing.**  Read as a document it gives this document, with its
properties and its required columns in their order; read as a value of no particular type it gives
the value that the document is written as, with its members in their order.  So whatever the rules,
what they say of the document they say of what is read of its text. -/
theorem pretty_lossless (d : SchemaDocument) :
    ofJson d.pretty = .ok d ∧ parse d.pretty = .ok d.toJson ∧
      ∀ rules, (parse d.pretty).map (checkValue rules) = .ok (checkDocument rules d) := by
  have document : format.reader.run d.pretty = .ok d := run_of_reads (d.readsBack 0 124 0)
  have value : parse d.pretty = .ok d.toJson := parse_pretty d.numberFree
  refine ⟨?_, value, fun rules => ?_⟩
  · rw [ofJson, document]
    rfl
  · rw [value]
    rfl

end SchemaDocument

end RowShape
