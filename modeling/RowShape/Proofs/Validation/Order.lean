import RowShape.Proofs.Validation

/-!
# Checking documents by the names of their properties

Properties are checked in the order of their names, in whatever order a document lists them.  So two
documents that list the same properties in different orders are accepted or rejected together, and
rejected for the same reason: of several properties that are at fault the one whose name comes first
is reported.

## Main definitions

* `SchemaDocument.IsAtFault`: a property that breaks its rule
* `ChecksByName`: how a document is checked, whatever the order of its properties

## Main results

* `SchemaDocument.canonical_eq_of_perm`: rules do not see the order of properties
* `SchemaDocument.checkProperties_of_first`: the property at fault that is reported
* `SchemaDocument.checksByName`: every document is checked by the names of its properties
-/

namespace RowShape

open Json

namespace SchemaDocument

variable {d : SchemaDocument}

/-- A property of a document has both a type of its own and a reference. -/
def IsAtFault (d : SchemaDocument) (name : String) : Prop :=
  ∃ property, d.property? name = some property ∧ property.type.isSome ∧ property.reference.isSome

/-- How a document is checked. -/
structure ChecksByName (d : SchemaDocument) : Prop where
  /-- It is accepted if it has an identifier and its parts fit together. -/
  accepted : checkDocument documentRules d = .ok () ↔ d.id ≠ "" ∧ d.IsConsistent
  /-- Any rules say the same of it if its properties are listed in another order. -/
  reordered : ∀ rules (properties : OrderedMap PropertySchema),
    properties.entries.Perm d.properties.entries →
      checkDocument rules { d with properties := properties } = checkDocument rules d
  /-- Of the properties at fault the one whose name comes first is reported. -/
  reported : ∀ name, d.id ≠ "" → d.type = objectType → d.IsAtFault name →
    (∀ other, d.IsAtFault other → name ≤ other) →
      checkDocument documentRules d =
        .error (.validation (Violation.typeAndReference name).message)

/-- Properties in another order have the same canonical form. -/
theorem canonical_toJson_eq_of_perm {m n : OrderedMap PropertySchema}
    (h : m.entries.Perm n.entries) :
    (m.toJson PropertySchema.toJson).canonical = (n.toJson PropertySchema.toJson).canonical := by
  refine canonical_object_congr fun name => ?_
  rw [lastValue?_entries, lastValue?_entries, OrderedMap.get?_eq_of_perm h]

/-- **Rules do not see the order of properties.** -/
theorem canonical_eq_of_perm {properties : OrderedMap PropertySchema}
    (h : properties.entries.Perm d.properties.entries) :
    { d with properties := properties }.canonical = d.canonical := by
  have same := canonical_toJson_eq_of_perm h
  simp only [SchemaDocument.canonical, toJson, List.cons_append, Json.canonical, canonicalMembers,
    same]

/-- A document that is accepted has an identifier, and its parts fit together. -/
theorem isConsistent_of_checkDocument (h : checkDocument documentRules d = .ok ()) :
    d.id ≠ "" ∧ d.IsConsistent := by
  have rules : ∀ rule ∈ documentRules, rule d.canonical = .ok () := checkValue_eq_ok_iff.mp h
  simp only [documentRules, rootRule, propertiesRule, requiredRule, List.forall_mem_cons,
    Rule.ofCheck_eq_ok_iff] at rules
  obtain ⟨root, properties, required, -⟩ := rules
  rw [checkRoot_document] at root
  split_ifs at root with empty describes
  obtain ⟨distinct, declared⟩ := (checkRequiredColumns_document_iff d).mp required
  exact ⟨empty, describes, (checkProperties_document_iff d).mp properties, distinct, declared⟩

/-- **The property at fault that is reported** is the one whose name comes first. -/
theorem checkProperties_of_first {name : String} (fault : d.IsAtFault name)
    (first : ∀ other, d.IsAtFault other → name ≤ other) :
    checkProperties d.canonical = .error (.typeAndReference name) := by
  obtain ⟨property, found, both⟩ := fault
  have member : (name, property.toJson.canonical) ∈ sortedProperties d :=
    (mem_sortedProperties_iff d).mpr ⟨property, found, rfl⟩
  obtain ⟨before, after, split⟩ := List.append_of_mem member
  have increasing : Increasing (sortedProperties d) := increasing_sortMembers _
  rw [split] at increasing
  have earlier : ∀ m ∈ before, checkProperty m.1 m.2 = .ok () := by
    rintro ⟨other, value⟩ hm
    have smaller : other < name :=
      (List.pairwise_append.mp increasing).2.2 _ hm _ List.mem_cons_self
    have listed : (other, value) ∈ sortedProperties d := by
      rw [split]
      exact List.mem_append_left _ hm
    obtain ⟨q, hq, rfl⟩ := (mem_sortedProperties_iff d).mp listed
    rw [checkProperty_property, if_neg]
    intro both
    exact absurd (first other ⟨q, hq, both⟩) (not_le_of_gt smaller)
  have failed : checkProperty name property.toJson.canonical = .error (.typeAndReference name) := by
    rw [checkProperty_property, if_pos both]
  simp only [checkProperties, member?_properties]
  rw [split]
  exact forM_eq_error earlier failed

/-- **Every document is checked by the names of its properties.** -/
theorem checksByName (d : SchemaDocument) : d.ChecksByName where
  accepted := by
    constructor
    · exact isConsistent_of_checkDocument
    · rintro ⟨named, consistent⟩
      rw [checkDocument_of_isConsistent consistent, if_neg named]
  reordered rules properties h := by
    have same : { d with properties := properties }.toJson.canonical = d.toJson.canonical :=
      canonical_eq_of_perm h
    rw [checkDocument, checkDocument, checkValue, checkValue, same]
  reported name named describes fault first := by
    have root : ∀ rule ∈ [rootRule], rule d.canonical = .ok () := by
      intro rule hr
      rw [List.mem_singleton.mp hr, rootRule, Rule.ofCheck_eq_ok_iff, checkRoot_document,
        if_neg named, if_pos describes]
    have properties : propertiesRule d.canonical =
        .error (Violation.typeAndReference name).error :=
      Rule.ofCheck_eq_error_iff.mpr ⟨_, checkProperties_of_first fault first, rfl⟩
    exact forM_eq_error root properties

end SchemaDocument

end RowShape
