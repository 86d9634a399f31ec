import RowShape.Proofs.OrderedMap
import RowShape.Proofs.Validation.Value

/-!
# Checking documents

The rules look at the canonical JSON value of a document, with keys that are left out where there is
nothing to say.  Member by member this value gives back the fields of the document, so that what the
rules ask for can be said about the document itself.

## Main definitions

* `SchemaDocument.IsConsistent`: a document whose parts fit together

## Main results

* `checkRoot_document`, `checkProperties_document_iff`, `checkRequiredColumns_document_iff`: what
  each rule asks of a document
* `checkDocument_of_isConsistent`: a consistent document breaks no rule, unless its identifier is
  empty
-/

namespace RowShape

open Json

/-! ### The value of a document -/

/-- The property has no type of its own, or it is not described elsewhere. -/
def PropertySchema.IsApart (p : PropertySchema) : Prop := ¬ (p.type.isSome ∧ p.reference.isSome)

namespace SchemaDocument

variable (d : SchemaDocument)

/-- The value that the rules look at. -/
abbrev canonical : Json := d.toJson.canonical

/-- A document whose parts fit together. -/
structure IsConsistent : Prop where
  /-- It describes objects. -/
  describesObjects : d.type = objectType
  /-- No property has both a type of its own and a reference. -/
  apart : ∀ name property, d.property? name = some property → property.IsApart
  /-- No column is required twice. -/
  distinct : d.required.Nodup
  /-- Required columns have a property. -/
  declared : ∀ name ∈ d.required, (d.property? name).isSome

end SchemaDocument

/-! ### Members -/

/-- What a property says under a keyword. -/
def PropertySchema.keyword? (p : PropertySchema) (key : String) : Option String :=
  if key = "type" then p.type.map JsonType.name
  else if key = "format" then p.format
  else if key = "$ref" then p.reference
  else if key = "description" then p.description
  else none

theorem lastValue?_stringMember (key name : String) (value : Option String) :
    lastValue? name (stringMember key value) = if key = name then value.map .string else none := by
  cases value <;> simp [stringMember, lastValue?]

theorem PropertySchema.member?_toJson (p : PropertySchema) (key : String) :
    p.toJson.member? key = (p.keyword? key).map .string := by
  simp only [PropertySchema.toJson, member?, object?, Option.bind_some, lastValue?_append,
    lastValue?_stringMember, PropertySchema.keyword?]
  grind

theorem member?_property (p : PropertySchema) (key : String) :
    p.toJson.canonical.member? key = (p.keyword? key).map .string := by
  rw [member?_canonical, p.member?_toJson, Option.map_map]
  rfl

theorem lastValue?_entries {α : Type} (m : OrderedMap α) (f : α → Json) (name : String) :
    lastValue? name (m.entries.map fun e => (e.1, f e.2)) = (m.get? name).map f := by
  cases hl : lastValue? name (m.entries.map fun e => (e.1, f e.2)) with
  | some v =>
    obtain ⟨⟨key, value⟩, he, heq⟩ := List.mem_map.mp (mem_of_lastValue? hl)
    obtain ⟨rfl, rfl⟩ := Prod.mk.inj heq
    rw [OrderedMap.mem_entries_iff.mp he]
    rfl
  | none =>
    cases hg : m.get? name with
    | none => rfl
    | some value =>
      have entry := List.mem_map_of_mem (f := fun e => (e.1, f e.2))
        (OrderedMap.mem_entries_iff.mpr hg)
      exact absurd rfl (lastValue?_eq_none_iff.mp hl _ entry)

section Members

variable (d : SchemaDocument)

theorem SchemaDocument.member?_toJson {key : String} (h : key ≠ "required") :
    d.toJson.member? key = lastValue? key [("$schema", .string d.schema), ("$id", .string d.id),
      ("title", .string d.title), ("type", .string d.type),
      ("properties", d.properties.toJson PropertySchema.toJson)] := by
  -- only the list of required columns may be left out, and it stands last
  have optional : lastValue? key
      (if d.required.isEmpty then [] else [("required", .array (d.required.map .string))]) =
        none := by
    rw [lastValue?_eq_none_iff]
    split
    · exact List.forall_mem_nil _
    · exact List.forall_mem_singleton.mpr h.symm
  rw [SchemaDocument.toJson, member?, object?, Option.bind_some, lastValue?_append, optional,
    Option.none_or]

theorem member?_document {key : String} (h : key ≠ "required") :
    d.canonical.member? key = (lastValue? key [("$schema", .string d.schema), ("$id", .string d.id),
      ("title", .string d.title), ("type", .string d.type),
      ("properties", d.properties.toJson PropertySchema.toJson)]).map canonical := by
  rw [SchemaDocument.canonical, member?_canonical, d.member?_toJson h]

/-- The properties of a document, in the order of their names. -/
def sortedProperties : List (String × Json) :=
  sortMembers (canonicalMembers (d.properties.entries.map fun e => (e.1, e.2.toJson)))

theorem member?_properties :
    d.canonical.member? "properties" = some (.object (sortedProperties d)) := by
  rw [member?_document d (by decide)]
  rfl

theorem mem_sortedProperties_iff {name : String} {value : Json} :
    (name, value) ∈ sortedProperties d ↔
      ∃ property, d.property? name = some property ∧ property.toJson.canonical = value := by
  rw [sortedProperties, mem_canonical_members_iff, lastValue?_entries]
  change (∃ v, (d.property? name).map PropertySchema.toJson = some v ∧ _) ↔ _
  simp

theorem member?_required : d.canonical.member? "required" =
    if d.required.isEmpty then none else some (.array (d.required.map .string)) := by
  rw [SchemaDocument.canonical, member?_canonical, SchemaDocument.toJson, member?, object?,
    Option.bind_some, lastValue?_append]
  by_cases h : d.required.isEmpty
  · rw [if_pos h, if_pos h]
    simp [lastValue?]
  · rw [if_neg h, if_neg h]
    simp [lastValue?, canonical, canonicalItems_eq_strings_iff.mpr rfl]

/-- The texts at the root of a document. -/
theorem member?_text (key text : String) (h : (key, text) ∈
    [("$schema", d.schema), ("$id", d.id), ("title", d.title), ("type", d.type)]) :
    d.canonical.member? key = some (.string text) := by
  simp only [List.mem_cons, Prod.mk.injEq, List.not_mem_nil, or_false] at h
  rcases h with ⟨rfl, rfl⟩ | ⟨rfl, rfl⟩ | ⟨rfl, rfl⟩ | ⟨rfl, rfl⟩ <;>
    rw [member?_document d (by decide)] <;> simp [lastValue?, canonical]

/-! ### The rules -/

theorem checkRootKey_document {key : String} (h : key ∈ rootKeys) :
    checkRootKey d.canonical key = .ok () := by
  simp only [rootKeys, List.mem_cons, List.not_mem_nil, or_false] at h
  rcases h with rfl | rfl | rfl
  · rw [checkRootKey, member?_text d "$schema" d.schema (by simp)]
  · rw [checkRootKey, member?_text d "$id" d.id (by simp)]
  · rw [checkRootKey, member?_text d "title" d.title (by simp)]

/-- The root of a document breaks its rule if the identifier is empty, or if the document describes
no objects. -/
theorem checkRoot_document : checkRoot d.canonical =
    if d.id = "" then .error .emptyId
    else if d.type = objectType then .ok () else .error (.wrongRootType d.type) := by
  -- the members that have to be texts are, so that only the identifier and the type are in question
  have isObject : d.canonical.object?.isNone = false := rfl
  have keys : rootKeys.forM (checkRootKey d.canonical) = .ok () :=
    forM_eq_ok_iff.mpr fun key hk => checkRootKey_document d hk
  have id := member?_text d "$id" d.id (by simp)
  have type := member?_text d "type" d.type (by simp)
  simp only [checkRoot, isObject, keys, id, type, Option.bind_some, string?, Option.some.injEq,
    bind, Except.bind, pure, Except.pure, Bool.false_eq_true, if_false]
  split_ifs <;> rfl

/-- A property breaks its rule if it has both a type and a reference, and in no other way. -/
theorem checkProperty_property (name : String) (p : PropertySchema) :
    checkProperty name p.toJson.canonical =
      if p.type.isSome ∧ p.reference.isSome then .error (.typeAndReference name) else .ok () := by
  have isObject : p.toJson.canonical.object?.isNone = false := rfl
  have type : checkPropertyType name p.toJson.canonical = .ok () := by
    -- the only types that are written are known
    have known (type : JsonType) : Json.string type.name ∈ primitiveTypes.map Json.string := by
      cases type <;> simp [JsonType.name, primitiveTypes]
    rw [checkPropertyType_eq_ok_iff, member?_property]
    intro t ht
    obtain ⟨text, keyword, rfl⟩ := Option.map_eq_some_iff.mp ht
    obtain ⟨type, -, rfl⟩ : ∃ type, p.type = some type ∧ type.name = text :=
      Option.map_eq_some_iff.mp keyword
    exact known type
  have keys : propertyKeys.forM (checkPropertyKey name p.toJson.canonical) = .ok () := by
    rw [forM_eq_ok_iff]
    intro key _
    rw [checkPropertyKey_eq_ok_iff, member?_property]
    intro t ht
    obtain ⟨text, -, rfl⟩ := Option.map_eq_some_iff.mp ht
    exact ⟨text, rfl⟩
  have both : ((p.toJson.canonical.member? "type").isSome &&
      (p.toJson.canonical.member? "$ref").isSome) = (p.type.isSome && p.reference.isSome) := by
    simp [member?_property, PropertySchema.keyword?]
  simp only [checkProperty, isObject, type, keys, both, bind, Except.bind, pure, Except.pure,
    Bool.false_eq_true, if_false, Bool.and_eq_true]
  rfl

theorem checkProperty_property_iff (name : String) (p : PropertySchema) :
    checkProperty name p.toJson.canonical = .ok () ↔ p.IsApart := by
  rw [checkProperty_property]
  exact reject_eq_ok_iff

/-- The properties of a document break their rule if one of them does. -/
theorem checkProperties_document_iff : checkProperties d.canonical = .ok () ↔
    ∀ name property, d.property? name = some property → property.IsApart := by
  simp only [checkProperties, member?_properties]
  rw [forM_eq_ok_iff]
  constructor
  · intro h name property hp
    have mem := (mem_sortedProperties_iff d).mpr ⟨property, hp, rfl⟩
    exact (checkProperty_property_iff name property).mp (h _ mem)
  · rintro h ⟨name, value⟩ hm
    obtain ⟨property, hp, rfl⟩ := (mem_sortedProperties_iff d).mp hm
    exact (checkProperty_property_iff name property).mpr (h name property hp)

/-- The required columns of a document break their rule if one of them is listed twice or has no
property. -/
theorem checkRequiredColumns_document_iff : checkRequiredColumns d.canonical = .ok () ↔
    d.required.Nodup ∧ ∀ name ∈ d.required, (d.property? name).isSome := by
  have declared (name : String) : ((d.canonical.member? "properties").bind
      (Json.member? name)).isSome = (d.property? name).isSome := by
    rw [member?_properties, Option.bind_some, member?, object?, Option.bind_some,
      sortedProperties, lastValue?_sortMembers, lastValue?_canonicalMembers, lastValue?_entries,
      Option.isSome_map, Option.isSome_map]
    rfl
  simp only [checkRequiredColumns, member?_required, declared]
  by_cases h : d.required.isEmpty
  · simp [List.isEmpty_iff.mp h]
  · simp [h, checkRequired_iff]

end Members

/-! ### All rules -/

/-- **A consistent document breaks no rule**, unless its identifier is empty. -/
theorem checkDocument_of_isConsistent {d : SchemaDocument} (h : d.IsConsistent) :
    checkDocument documentRules d =
      if d.id = "" then .error Violation.emptyId.error else .ok () := by
  have root := checkRoot_document d
  rw [if_pos h.describesObjects] at root
  by_cases hid : d.id = ""
  · -- the rule of the root comes first
    rw [if_pos hid] at root ⊢
    have before : ∀ rule ∈ ([] : List Rule), rule d.canonical = .ok () := List.forall_mem_nil _
    have failed : rootRule d.canonical = .error Violation.emptyId.error :=
      Rule.ofCheck_eq_error_iff.mpr ⟨_, root, rfl⟩
    exact forM_eq_error before failed
  · rw [if_neg hid] at root ⊢
    have properties := (checkProperties_document_iff d).mpr h.apart
    have required := (checkRequiredColumns_document_iff d).mpr ⟨h.distinct, h.declared⟩
    refine checkValue_eq_ok_iff.mpr ?_
    simp only [documentRules, List.forall_mem_cons]
    exact ⟨Rule.ofCheck_eq_ok_iff.mpr root, Rule.ofCheck_eq_ok_iff.mpr properties,
      Rule.ofCheck_eq_ok_iff.mpr required, List.forall_mem_nil _⟩

end RowShape
