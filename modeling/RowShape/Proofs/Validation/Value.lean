import RowShape.Proofs.Json.Canonical
import RowShape.Schema.Validator

/-!
# Checking values

Which JSON values keep the rules of documents.  The rules look at a value in its canonical form, one
member after another, and stop at the first that is wrong.  Said without an order of checks they ask
for a shape: certain members are there, those that may be left out are as they should be if they are
there, and required names are names of properties.

Members are looked up in the value as it is given, also if it is not in canonical form: of several
members with one name the last one counts.

## Main definitions

* `Json.IsPropertySchema`: values that describe a property
* `Json.IsSchemaDocument`: values that are schema documents

## Main results

* `checkRoot_eq_ok_iff`, `checkProperties_canonical_iff`, `checkRequiredColumns_canonical_iff`: what
  each rule asks of a value
* `checkValue_exact`: the values that are accepted are the schema documents, and all others are
  rejected with a violation
-/

namespace RowShape

open Json

/-! ### Shapes -/

namespace Json

/-- A value is an object. -/
def IsObject (v : Json) : Prop := ∃ members, v = .object members

/-- A value is a text. -/
def IsText (v : Json) : Prop := ∃ text, v = .string text

/-- A value that describes a property: all of its members may be left out. -/
structure IsPropertySchema (v : Json) : Prop where
  object : v.IsObject
  /-- The type is one of those of JSON Schema. -/
  type : ∀ t, v.member? "type" = some t →
    t ∈ ["array", "boolean", "integer", "null", "number", "object", "string"].map string
  /-- The members that say something about the type are texts. -/
  texts : ∀ key ∈ ["format", "$ref", "description"], ∀ t, v.member? key = some t → t.IsText
  /-- There is no type beside a reference. -/
  apart : ¬ ((v.member? "type").isSome ∧ (v.member? "$ref").isSome)

/-- A value that is a schema document. -/
structure IsSchemaDocument (v : Json) : Prop where
  object : v.IsObject
  /-- The document says which schema it follows, how it is found and what it is called. -/
  texts : ∀ key ∈ ["$schema", "$id", "title"], ∃ text, v.member? key = some (.string text)
  /-- It is not found under an empty identifier. -/
  named : v.member? "$id" ≠ some (.string "")
  /-- It describes objects. -/
  describesObjects : v.member? "type" = some (.string "object")
  /-- The properties, if there are any, are an object of properties. -/
  properties : ∀ ps, v.member? "properties" = some ps →
    ps.IsObject ∧ ∀ name p, ps.member? name = some p → p.IsPropertySchema
  /-- The required names, if there are any, are distinct names of properties. -/
  required : ∀ r, v.member? "required" = some r → ∃ names : List String,
    r = .array (names.map .string) ∧ names.Nodup ∧
      ∀ name ∈ names, ∃ ps, v.member? "properties" = some ps ∧ (ps.member? name).isSome

variable {v : Json}

theorem isText_iff : v.IsText ↔ v.string?.isSome := by
  cases v <;> simp [IsText, string?]

theorem isObject_iff : v.IsObject ↔ v.object?.isSome := by
  cases v <;> simp [IsObject, object?]

/-! ### Shapes of canonical values -/

theorem isObject_canonical_iff : v.canonical.IsObject ↔ v.IsObject := by
  rw [isObject_iff, isObject_iff]
  cases v <;> rfl

theorem isText_canonical_iff : v.canonical.IsText ↔ v.IsText := by
  rw [isText_iff, isText_iff]
  cases v <;> rfl

theorem canonical_eq_string_iff {text : String} :
    v.canonical = .string text ↔ v = .string text := by
  cases v <;> simp [canonical]

theorem member?_canonical_eq_string_iff {key text : String} :
    v.canonical.member? key = some (.string text) ↔ v.member? key = some (.string text) := by
  rw [member?_canonical, Option.map_eq_some_iff]
  simp only [canonical_eq_string_iff, exists_eq_right]

theorem forall_member?_canonical_iff {key : String} {P : Json → Prop} :
    (∀ t, v.canonical.member? key = some t → P t) ↔
      ∀ t, v.member? key = some t → P t.canonical := by
  rw [member?_canonical]
  cases v.member? key <;> simp

theorem isSome_member?_canonical (v : Json) (key : String) :
    (v.canonical.member? key).isSome = (v.member? key).isSome := by
  rw [member?_canonical, Option.isSome_map]

end Json

/-! ### Checks one after another -/

section Checks

variable {ε : Type} {check rest : Except ε Unit} {e : ε}

/-- Two checks succeed if both do. -/
theorem seq_eq_ok_iff : (check >>= fun _ => rest) = .ok () ↔ check = .ok () ∧ rest = .ok () := by
  cases check with
  | error e => simp [bind, Except.bind]
  | ok => simp [bind, Except.bind]

/-- What is refused under a condition succeeds if the condition does not hold. -/
theorem refuse_eq_ok_iff {c : Prop} [Decidable c] :
    (if c then (throw e >>= fun _ : Unit => rest) else rest) = .ok () ↔ ¬ c ∧ rest = .ok () := by
  by_cases h : c
  · simp [h, throw, throwThe, MonadExceptOf.throw, bind, Except.bind]
  · simp [h]

/-- What is accepted under a condition succeeds if the condition holds. -/
theorem accept_eq_ok_iff {c : Prop} [Decidable c] :
    (if c then .ok () else .error e : Except ε Unit) = .ok () ↔ c := by
  by_cases h : c <;> simp [h]

/-- What is rejected under a condition succeeds if the condition does not hold. -/
theorem reject_eq_ok_iff {c : Prop} [Decidable c] :
    (if c then .error e else .ok () : Except ε Unit) = .ok () ↔ ¬ c := by
  by_cases h : c <;> simp [h]

/-- Checks one after another succeed if each of them does. -/
theorem forM_eq_ok_iff {α : Type} {check : α → Except ε Unit} {xs : List α} :
    xs.forM check = .ok () ↔ ∀ x ∈ xs, check x = .ok () := by
  induction xs with
  | nil => simp [List.forM, pure, Except.pure]
  | cons x rest ih =>
    rw [List.forall_mem_cons, ← ih]
    exact seq_eq_ok_iff

/-- Of checks one after another the first that fails counts. -/
theorem forM_eq_error {α : Type} {check : α → Except ε Unit} {before after : List α} {x : α}
    (passed : ∀ y ∈ before, check y = .ok ()) (failed : check x = .error e) :
    (before ++ x :: after).forM check = .error e := by
  induction before with
  | nil =>
    change (check x >>= fun _ => after.forM check) = .error e
    rw [failed]
    rfl
  | cons y before ih =>
    obtain ⟨first, rest⟩ := List.forall_mem_cons.mp passed
    change (check y >>= fun _ => (before ++ x :: after).forM check) = .error e
    rw [first]
    exact ih rest

/-- If checks one after another fail, one of them does, in the same way. -/
theorem exists_of_forM_eq_error {α : Type} {check : α → Except ε Unit} {xs : List α}
    (h : xs.forM check = .error e) : ∃ x ∈ xs, check x = .error e := by
  induction xs with
  | nil => cases h
  | cons x rest ih =>
    change (check x >>= fun _ => rest.forM check) = .error e at h
    cases hx : check x with
    | error found =>
      rw [hx] at h
      exact ⟨x, List.mem_cons_self, hx.trans h⟩
    | ok =>
      rw [hx] at h
      obtain ⟨y, hy, failed⟩ := ih h
      exact ⟨y, List.mem_cons_of_mem _ hy, failed⟩

end Checks

/-! ### The root -/

variable {v : Json}

theorem checkRootKey_eq_ok_iff {key : String} :
    checkRootKey v key = .ok () ↔ ∃ text, v.member? key = some (.string text) := by
  rw [checkRootKey]
  constructor
  · intro h
    split at h
    · next text found => exact ⟨text, found⟩
    · cases h
    · cases h
  · rintro ⟨text, found⟩
    rw [found]

theorem bind_string?_eq_some_iff {m : Option Json} {text : String} :
    m.bind string? = some text ↔ m = some (.string text) := by
  cases m with
  | none => simp
  | some w => cases w <;> simp [string?]

/-- **What the rule of the root asks of a value.** -/
theorem checkRoot_eq_ok_iff : checkRoot v = .ok () ↔ v.IsObject ∧
    (∀ key ∈ rootKeys, ∃ text, v.member? key = some (.string text)) ∧
      v.member? "$id" ≠ some (.string "") ∧ v.member? "type" = some (.string objectType) := by
  rw [checkRoot]
  simp only [refuse_eq_ok_iff, seq_eq_ok_iff, forM_eq_ok_iff, checkRootKey_eq_ok_iff,
    bind_string?_eq_some_iff]
  refine and_congr ?_ (and_congr_right fun _ => and_congr_right fun _ => ?_)
  · rw [isObject_iff]
    cases v.object? <;> simp
  · rw [← bind_string?_eq_some_iff]
    split
    · next type found =>
      rw [found, Option.some_inj]
      exact accept_eq_ok_iff
    · next absent => simp [absent, throw, throwThe, MonadExceptOf.throw]

/-! ### Properties -/

theorem checkPropertyType_eq_ok_iff {name : String} :
    checkPropertyType name v = .ok () ↔
      ∀ t, v.member? "type" = some t → t ∈ primitiveTypes.map string := by
  rw [checkPropertyType]
  cases v.member? "type" with
  | none => simp
  | some t =>
    refine accept_eq_ok_iff.trans ?_
    cases t <;> simp [string?]

theorem checkPropertyKey_eq_ok_iff {name key : String} :
    checkPropertyKey name v key = .ok () ↔ ∀ t, v.member? key = some t → t.IsText := by
  rw [checkPropertyKey]
  cases v.member? key with
  | none => simp
  | some t =>
    refine accept_eq_ok_iff.trans ?_
    simp [isText_iff]

/-- A property keeps its rule if it has the shape of one. -/
theorem checkProperty_eq_ok_iff {name : String} :
    checkProperty name v = .ok () ↔ v.IsPropertySchema := by
  have isObject : ¬ v.object?.isNone ↔ v.IsObject := by
    rw [isObject_iff]
    cases v.object? <;> simp
  have apart : (if (v.member? "type").isSome && (v.member? "$ref").isSome then
      throw (Violation.typeAndReference name) else pure () : Except Violation Unit) = .ok () ↔
        ¬ ((v.member? "type").isSome ∧ (v.member? "$ref").isSome) := by
    rw [← Bool.and_eq_true]
    exact reject_eq_ok_iff
  rw [checkProperty]
  simp only [refuse_eq_ok_iff, seq_eq_ok_iff, forM_eq_ok_iff, checkPropertyType_eq_ok_iff,
    checkPropertyKey_eq_ok_iff, isObject, apart]
  constructor
  · rintro ⟨object, type, texts, apart⟩
    exact ⟨object, type, texts, apart⟩
  · intro h
    exact ⟨h.object, h.type, h.texts, h.apart⟩

/-- Whether a value describes a property does not depend on the order of its members. -/
theorem isPropertySchema_canonical_iff : v.canonical.IsPropertySchema ↔ v.IsPropertySchema := by
  have isString (t : Json) (names : List String) :
      t.canonical ∈ names.map string ↔ t ∈ names.map string := by
    simp only [List.mem_map, eq_comm (a := string _), canonical_eq_string_iff]
  constructor
  · intro h
    refine ⟨isObject_canonical_iff.mp h.object, fun t found => ?_, fun key hk t found => ?_, ?_⟩
    · exact (isString t _).mp (forall_member?_canonical_iff.mp h.type t found)
    · exact isText_canonical_iff.mp (forall_member?_canonical_iff.mp (h.texts key hk) t found)
    · simpa only [isSome_member?_canonical] using h.apart
  · intro h
    refine ⟨isObject_canonical_iff.mpr h.object, ?_, fun key hk => ?_, ?_⟩
    · exact forall_member?_canonical_iff.mpr fun t found => (isString t _).mpr (h.type t found)
    · exact forall_member?_canonical_iff.mpr fun t found =>
        isText_canonical_iff.mpr (h.texts key hk t found)
    · simpa only [isSome_member?_canonical] using h.apart

/-- **What the rule of properties asks of a value.** -/
theorem checkProperties_canonical_iff : checkProperties v.canonical = .ok () ↔
    ∀ ps, v.member? "properties" = some ps →
      ps.IsObject ∧ ∀ name p, ps.member? name = some p → p.IsPropertySchema := by
  rw [checkProperties, member?_canonical]
  cases v.member? "properties" with
  | none => simp
  | some ps =>
    cases ps with
    | object members =>
      change ((sortMembers (canonicalMembers members)).forM fun p => checkProperty p.1 p.2) = _ ↔ _
      rw [forM_eq_ok_iff]
      constructor
      · intro h ps found
        obtain rfl := Option.some.inj found
        refine ⟨⟨members, rfl⟩, fun name p found => ?_⟩
        have member := h (name, p.canonical) (mem_canonical_members_iff.mpr ⟨p, found, rfl⟩)
        exact isPropertySchema_canonical_iff.mp (checkProperty_eq_ok_iff.mp member)
      · rintro h ⟨name, value⟩ member
        obtain ⟨p, found, rfl⟩ := mem_canonical_members_iff.mp member
        have shape := (h _ rfl).2 name p found
        exact checkProperty_eq_ok_iff.mpr (isPropertySchema_canonical_iff.mpr shape)
    | _ => simp [canonical, IsObject]

/-! ### Required names -/

/-- Names are accepted if they are distinct, and each is declared and has not been seen before. -/
theorem checkRequired_iff {declared : String → Bool} {seen names : List String} :
    checkRequired declared seen (names.map .string) = .ok () ↔
      names.Nodup ∧ ∀ name ∈ names, name ∉ seen ∧ declared name := by
  induction names generalizing seen with
  | nil => simp [checkRequired]
  | cons name rest ih =>
    rw [List.map_cons, List.nodup_cons, List.forall_mem_cons]
    simp only [checkRequired, string?, List.contains_iff_mem, Bool.not_eq_true']
    by_cases hs : name ∈ seen
    · simp [hs]
    by_cases hd : declared name
    · -- the name counts as seen for the rest
      rw [if_neg hs, if_neg (by simp [hd]), ih]
      grind
    · simp [hs, hd]

/-- Only texts are accepted as names. -/
theorem exists_names_of_checkRequired {declared : String → Bool} {seen : List String}
    {entries : List Json} (h : checkRequired declared seen entries = .ok ()) :
    ∃ names : List String, entries = names.map .string := by
  induction entries generalizing seen with
  | nil => exact ⟨[], rfl⟩
  | cons entry rest ih =>
    cases entry with
    | string name =>
      simp only [checkRequired, string?] at h
      split_ifs at h
      obtain ⟨names, rfl⟩ := ih h
      exact ⟨name :: names, rfl⟩
    | _ => cases h

theorem canonicalItems_eq_strings_iff {items : List Json} {names : List String} :
    canonicalItems items = names.map .string ↔ items = names.map .string := by
  rw [canonicalItems_eq_map]
  induction items generalizing names with
  | nil => simp
  | cons v rest ih => cases names <;> simp [canonical_eq_string_iff, ih]

/-- **What the rule of required names asks of a value.** -/
theorem checkRequiredColumns_canonical_iff : checkRequiredColumns v.canonical = .ok () ↔
    ∀ r, v.member? "required" = some r → ∃ names : List String,
      r = .array (names.map .string) ∧ names.Nodup ∧
        ∀ name ∈ names, ∃ ps, v.member? "properties" = some ps ∧ (ps.member? name).isSome := by
  have declared (name : String) : ((v.canonical.member? "properties").bind
      (Json.member? name)).isSome ↔
        ∃ ps, v.member? "properties" = some ps ∧ (ps.member? name).isSome := by
    rw [member?_canonical]
    cases v.member? "properties" with
    | none => simp
    | some ps => simp [isSome_member?_canonical]
  rw [checkRequiredColumns, member?_canonical]
  cases v.member? "required" with
  | none => simp
  | some r =>
    cases r with
    | array items =>
      change checkRequired _ [] (canonicalItems items) = _ ↔ _
      constructor
      · intro h r found
        obtain rfl := Option.some.inj found
        obtain ⟨names, texts⟩ := exists_names_of_checkRequired h
        rw [texts, checkRequired_iff] at h
        refine ⟨names, ?_, h.1, fun name hn => (declared name).mp (h.2 name hn).2⟩
        rw [canonicalItems_eq_strings_iff.mp texts]
      · intro h
        obtain ⟨names, texts, distinct, known⟩ := h _ rfl
        obtain rfl := Json.array.inj texts
        rw [canonicalItems_eq_strings_iff.mpr rfl, checkRequired_iff]
        exact ⟨distinct, fun name hn => ⟨List.not_mem_nil, (declared name).mpr (known name hn)⟩⟩
    | _ => simp [canonical]

/-! ### All rules -/

section Rules

variable {check : Json → Except Violation Unit}

/-- A rule accepts a value if no violation is found. -/
theorem Rule.ofCheck_eq_ok_iff : Rule.ofCheck check v = .ok () ↔ check v = .ok () := by
  rw [Rule.ofCheck]
  cases check v <;> simp [Except.mapError]

/-- A rule fails with the violation that is found. -/
theorem Rule.ofCheck_eq_error_iff {e : Error} : Rule.ofCheck check v = .error e ↔
    ∃ violation : Violation, check v = .error violation ∧ violation.error = e := by
  rw [Rule.ofCheck]
  cases check v <;> simp [Except.mapError]

/-- Rules accept a value if each of them accepts its canonical form. -/
theorem checkValue_eq_ok_iff {rules : List Rule} :
    checkValue rules v = .ok () ↔ ∀ rule ∈ rules, rule v.canonical = .ok () :=
  forM_eq_ok_iff

/-- A value is accepted by the rules of documents, or it is rejected with a violation. -/
theorem checkValue_documentRules_cases (v : Json) :
    checkValue documentRules v = .ok () ∨
      ∃ violation : Violation, checkValue documentRules v = .error violation.error := by
  cases h : checkValue documentRules v with
  | ok => exact .inl rfl
  | error e =>
    obtain ⟨rule, mem, failed⟩ := exists_of_forM_eq_error h
    obtain ⟨check, rfl⟩ : ∃ check, rule = Rule.ofCheck check := by
      simp only [documentRules, List.mem_cons, List.not_mem_nil, or_false] at mem
      rcases mem with rfl | rfl | rfl
      exacts [⟨_, rfl⟩, ⟨_, rfl⟩, ⟨_, rfl⟩]
    obtain ⟨violation, -, rfl⟩ := Rule.ofCheck_eq_error_iff.mp failed
    exact .inr ⟨violation, rfl⟩

/-- **The values that keep the rules of documents are the schema documents.**  Any other value is
rejected with a violation. -/
theorem checkValue_exact (v : Json) :
    (checkValue documentRules v = .ok () ↔ v.IsSchemaDocument) ∧
      (checkValue documentRules v = .ok () ∨ ∃ violation : Violation,
        checkValue documentRules v = .error (.validation violation.message)) := by
  refine ⟨?_, checkValue_documentRules_cases v⟩
  rw [checkValue_eq_ok_iff]
  simp only [documentRules, rootRule, propertiesRule, requiredRule, List.forall_mem_cons,
    Rule.ofCheck_eq_ok_iff, checkRoot_eq_ok_iff, checkProperties_canonical_iff,
    checkRequiredColumns_canonical_iff, member?_canonical_eq_string_iff, ne_eq]
  constructor
  · rintro ⟨⟨object, texts, named, type⟩, properties, required, -⟩
    exact ⟨isObject_canonical_iff.mp object, texts, named, type, properties, required⟩
  · intro h
    exact ⟨⟨isObject_canonical_iff.mpr h.object, h.texts, h.named, h.describesObjects⟩,
      h.properties, h.required, List.forall_mem_nil _⟩

end Rules

end RowShape
