import RowShape.Proofs.Document
import RowShape.Proofs.Json.Pointer
import RowShape.Proofs.Validation

/-!
# Addresses of properties

The address of a property is the identifier of its document with a pointer behind it, and the name
of the property is the end of this pointer as it stands.  So a pointer reads the name as tokens: it
goes further down wherever the name has a slash, and finds no property there, and where the name has
an escape it looks for another name.

Two addresses can be the same text only if one of the two names has a slash, because the end of an
address from its last slash on is the name otherwise.

## Main definitions

* `SchemaDocument.Addresses`: the address of a property leads to it

## Main results

* `SchemaDocument.addresses_iff`: which addresses lead to their properties
* `pointerTo_inj`: addresses of properties without slashes in their names
-/

namespace RowShape

open Json

/-! ### Steps through a document -/

/-- A property says what it is written as. -/
theorem PropertySchema.toJson_injective {p q : PropertySchema} (h : p.toJson = q.toJson) :
    p = q := by
  have same (key : String) : p.keyword? key = q.keyword? key := by
    have members := congrArg (Json.member? key) h
    rw [member?_toJson, member?_toJson] at members
    exact Option.map_injective (fun _ _ => Json.string.inj) members
  obtain ⟨type, format, reference, description⟩ := p
  obtain ⟨type', format', reference', description'⟩ := q
  have types : type.map JsonType.name = type'.map JsonType.name := same "type"
  have names : Function.Injective JsonType.name := by
    intro a b hab
    cases a <;> cases b <;> first | rfl | exact absurd hab (by decide)
  obtain rfl : type = type' := Option.map_injective names types
  obtain rfl : format = format' := same "format"
  obtain rfl : reference = reference' := same "$ref"
  obtain rfl : description = description' := same "description"
  rfl

namespace SchemaDocument

variable {d : SchemaDocument} {name : String} {property : PropertySchema}

theorem member?_toJson_properties (d : SchemaDocument) :
    d.toJson.member? "properties" = some (d.properties.toJson PropertySchema.toJson) := by
  rw [d.member?_toJson (by decide)]
  rfl

/-- From a property a pointer leads to no further property. -/
theorem follow_property_ne (p q : PropertySchema) {tokens : List (List Char)} (h : tokens ≠ []) :
    Pointer.follow tokens p.toJson ≠ some q.toJson := by
  obtain _ | ⟨token, rest⟩ := tokens
  · exact absurd rfl h
  rw [Pointer.follow]
  have stepped : Pointer.step (String.ofList (Pointer.unescape token)) p.toJson =
      (p.keyword? (String.ofList (Pointer.unescape token))).map .string :=
    p.member?_toJson _
  rw [stepped]
  cases p.keyword? (String.ofList (Pointer.unescape token)) with
  | none => simp
  | some text =>
    -- a keyword of a property has a text as its value, and in a text there are no steps
    rw [Option.map_some, Option.bind_some]
    obtain _ | ⟨next, more⟩ := rest
    · simp [Pointer.follow, PropertySchema.toJson]
    · simp [Pointer.follow, Pointer.step, member?, object?]

/-- The address of a property **leads to it**: behind the identifier of the document stands a
pointer that leads from the value of the document to the value of the property. -/
def Addresses (d : SchemaDocument) (name : String) (property : PropertySchema) : Prop :=
  ∃ pointer, d.propertyPointer name = d.id ++ pointer ∧
    Pointer.evaluate pointer d.toJson = some property.toJson

/-- The pointer of a property goes to the properties of the document, and on by the name. -/
theorem evaluate_properties (d : SchemaDocument) (name : String) :
    Pointer.evaluate ("/properties/" ++ name) d.toJson =
      Pointer.follow (name.toList.splitOn '/') (d.properties.toJson PropertySchema.toJson) := by
  have spelled : "/properties/" ++ name =
      String.ofList ('/' :: ("properties".toList ++ '/' :: name.toList)) := by
    simp [← String.toList_inj]
  have plain : '/' ∉ "properties".toList := by decide
  have word : String.ofList (Pointer.unescape "properties".toList) = "properties" := by
    rw [Pointer.unescape_of_notMem (by decide), String.ofList_toList]
  rw [spelled, Pointer.evaluate_slash, List.splitOn_append_cons_self,
    List.splitOn_eq_singleton plain, List.singleton_append, Pointer.follow, word]
  change (d.toJson.member? "properties").bind _ = _
  rw [member?_toJson_properties, Option.bind_some]

/-- **Which addresses lead to their properties**: those of names that have no slash and that no
escape turns into the name of another property. -/
theorem addresses_iff :
    d.Addresses name property ↔ '/' ∉ name.toList ∧
      d.property? (String.ofList (Pointer.unescape name.toList)) = some property := by
  have leads : d.Addresses name property ↔ Pointer.follow (name.toList.splitOn '/')
      (d.properties.toJson PropertySchema.toJson) = some property.toJson := by
    rw [← evaluate_properties]
    constructor
    · rintro ⟨pointer, address, found⟩
      rw [propertyPointer, String.append_assoc, String.append_right_inj] at address
      rwa [address]
    · exact fun found => ⟨_, String.append_assoc, found⟩
  have step (token : List Char) : Pointer.step (String.ofList (Pointer.unescape token))
      (d.properties.toJson PropertySchema.toJson) =
        (d.property? (String.ofList (Pointer.unescape token))).map PropertySchema.toJson :=
    lastValue?_entries d.properties PropertySchema.toJson _
  rw [leads]
  by_cases slash : '/' ∈ name.toList
  · -- the pointer goes further down than to a property
    obtain ⟨a, b, split⟩ := List.append_of_mem slash
    refine iff_of_false ?_ fun ok => ok.1 slash
    rw [split, List.splitOn_append_cons_self]
    obtain ⟨token, more, first⟩ := List.exists_cons_of_ne_nil (List.splitOn_ne_nil '/' a)
    have further : more ++ b.splitOn '/' ≠ [] := by simp [List.splitOn_ne_nil]
    rw [first, List.cons_append, Pointer.follow, step]
    cases d.property? (String.ofList (Pointer.unescape token)) with
    | none => simp
    | some q =>
      rw [Option.map_some, Option.bind_some]
      exact follow_property_ne q property further
  · rw [List.splitOn_eq_singleton slash, Pointer.follow, step]
    rw [and_iff_right slash]
    cases d.property? (String.ofList (Pointer.unescape name.toList)) with
    | none => simp
    | some q =>
      rw [Option.map_some, Option.bind_some, Pointer.follow, Option.some.injEq, Option.some.injEq]
      exact ⟨PropertySchema.toJson_injective, congrArg _⟩

end SchemaDocument

/-! ### Addresses that are the same text -/

/-- Two addresses are the same text if one of the names begins with what the other document has
more in its identifier. -/
theorem pointerTo_eq_iff {id id' name name' : String} :
    pointerTo id name = pointerTo id' name' ↔
      (∃ more, id' ++ "/properties/" = id ++ "/properties/" ++ more ∧ name = more ++ name') ∨
        ∃ more, id ++ "/properties/" = id' ++ "/properties/" ++ more ∧ name' = more ++ name := by
  have texts {P : List Char → Prop} : (∃ more, P more) ↔ ∃ more : String, P more.toList :=
    ⟨fun ⟨more, h⟩ => ⟨String.ofList more, by rwa [String.toList_ofList]⟩,
      fun ⟨more, h⟩ => ⟨more.toList, h⟩⟩
  simp only [pointerTo, ← String.toList_inj, String.toList_append, List.append_eq_append_iff,
    texts]

/-- What an identifier has more before a slash holds a slash, unless it is nothing. -/
theorem eq_of_append_slash {id id' more : String} (h : id' ++ "/properties/" =
    id ++ "/properties/" ++ more) (plain : '/' ∉ more.toList) : more = "" ∧ id' = id := by
  have none : more = "" := by
    by_contra some
    have ne : more.toList ≠ [] := fun empty => some (String.toList_eq_nil_iff.mp empty)
    have last := congrArg (·.toList.getLast?) h
    simp only [String.toList_append, List.getLast?_append_of_ne_nil _ ne] at last
    rw [List.getLast?_append_of_ne_nil _ (by decide)] at last
    exact plain (List.mem_of_getLast? last.symm)
  subst none
  rw [String.append_empty, String.append_left_inj] at h
  exact ⟨rfl, h⟩

/-- **Addresses of properties without slashes in their names** are the same text only if they are
addresses of the same property of the same document. -/
theorem pointerTo_inj {id id' name name' : String} (plain : '/' ∉ name.toList)
    (plain' : '/' ∉ name'.toList) (h : pointerTo id name = pointerTo id' name') :
    id = id' ∧ name = name' := by
  rcases pointerTo_eq_iff.mp h with ⟨more, ids, rfl⟩ | ⟨more, ids, rfl⟩
  · rw [String.toList_append, List.mem_append, not_or] at plain
    obtain ⟨rfl, rfl⟩ := eq_of_append_slash ids plain.1
    exact ⟨rfl, String.empty_append⟩
  · rw [String.toList_append, List.mem_append, not_or] at plain'
    obtain ⟨rfl, rfl⟩ := eq_of_append_slash ids plain'.1
    exact ⟨rfl, String.empty_append.symm⟩

end RowShape
