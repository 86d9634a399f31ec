import RowShape.Config.Json
import RowShape.Proofs.Json.Record

/-!
# Configurations as texts

A configuration is an object that gives some of the fields, in any order and each of them once at
most.  A field that is not given has its default, and members that nobody asks for may hold anything
and may come again.

Members are read one by one into a configuration in which some fields are still open.  A member
fills a field that is open and leaves all other fields as they are (`ConfigMember.IsFree.put`), so
that by induction all members find their fields open.  What is read in the end is what giving the
fields one after another makes of the default configuration (`foldl_put_withDefaults`).

## Main definitions

* `ConfigMember`: what a member of a configuration gives
* `ConfigText`: the ways to write a configuration, with what its members give
* `Config.given`: the default configuration with the fields that are given

## Main results

* `takesMembers_config`: the members of a configuration are read in any order
* `Config.load_of_text`: what is loaded from a text
* `Config.load_exact`: configurations and their texts
-/

namespace RowShape

open Json Json.Reader

/-! ### Members -/

/-- The fields that hold a text. -/
inductive TextField where
  | nullMarker
  | variablePrefix
  | definitionsPrefix
  | schemaUri

namespace TextField

/-- The name that a field is written with. -/
def name : TextField → String
  | nullMarker => "null_marker"
  | variablePrefix => "variable_prefix"
  | definitionsPrefix => "definitions_prefix"
  | schemaUri => "schema_uri"

/-- The configuration with another text in a field. -/
def set (s : String) (c : Config) : TextField → Config
  | nullMarker => { c with nullMarker := s }
  | variablePrefix => { c with variablePrefix := s }
  | definitionsPrefix => { c with definitionsPrefix := s }
  | schemaUri => { c with schemaUri := s }

end TextField

/-- The fields that hold a truth value. -/
inductive FlagField where
  | selfCheck
  | expandWildcards

namespace FlagField

/-- The name that a field is written with. -/
def name : FlagField → String
  | selfCheck => "self_check"
  | expandWildcards => "expand_wildcards"

/-- The configuration with another truth value in a field. -/
def set (b : Bool) (c : Config) : FlagField → Config
  | selfCheck => { c with selfCheck := b }
  | expandWildcards => { c with expandWildcards := b }

end FlagField

/-- The names of all fields. -/
def configKeys : List String :=
  ["dialect", "null_marker", "variable_prefix", "definitions_prefix", "schema_uri", "self_check",
    "expand_wildcards"]

/-- What a member of a configuration gives: a field, or nothing. -/
inductive ConfigMember where
  | dialect (dialect : Sql.Dialect)
  | text (field : TextField) (value : String)
  | flag (field : FlagField) (value : Bool)
  | unknown

namespace ConfigMember

/-- The name of the field that is given. -/
def key? : ConfigMember → Option String
  | dialect _ => some "dialect"
  | text field _ => some field.name
  | flag field _ => some field.name
  | unknown => none

/-- The configuration with the field that is given. -/
def applyTo (c : Config) : ConfigMember → Config
  | dialect d => { c with dialect := d }
  | text field s => field.set s c
  | flag field b => field.set b c
  | unknown => c

/-- What a member with a name and a text behind it gives. -/
inductive IsText : String × List Char → ConfigMember → Prop
  | dialect {text : List Char} {d : Sql.Dialect}
      (h : BehindColon (Enumeration.WordText dialectNames · d) text) :
      IsText ("dialect", text) (.dialect d)
  | text {text : List Char} (field : TextField) {s : String}
      (h : BehindColon (StringText · s) text) : IsText (field.name, text) (.text field s)
  | flag {text : List Char} (field : FlagField) {b : Bool}
      (h : BehindColon (BoolText · b) text) : IsText (field.name, text) (.flag field b)
  | unknown {name : String} {text : List Char} (hn : name ∉ configKeys)
      (h : BehindColon ValueForm text) : IsText (name, text) .unknown

end ConfigMember

/-- **The ways to write a configuration**: an object that gives each field once at most, among
members that nobody asks for, with blanks around it. -/
inductive ConfigText : List Char → List ConfigMember → Prop
  | mk {before text behind : List Char} {members : List (String × List Char)}
      {content : List ConfigMember} (h : Blank before) (layout : MembersText true text members)
      (each : List.Forall₂ ConfigMember.IsText members content)
      (once : (content.filterMap ConfigMember.key?).Nodup) (h' : Blank behind) :
      ConfigText (before ++ ('{' :: text ++ behind)) content

/-- The default configuration with the fields that are given. -/
def Config.given (content : List ConfigMember) : Config :=
  content.foldl ConfigMember.applyTo .default

/-! ### Members one after another -/

namespace TextField

/-- The text that has been read for a field. -/
def get (p : PartialConfig) : TextField → Option String
  | nullMarker => p.nullMarker
  | variablePrefix => p.variablePrefix
  | definitionsPrefix => p.definitionsPrefix
  | schemaUri => p.schemaUri

/-- The fields that have been read, with one more text. -/
def put (s : String) (p : PartialConfig) : TextField → PartialConfig
  | nullMarker => { p with nullMarker := some s }
  | variablePrefix => { p with variablePrefix := some s }
  | definitionsPrefix => { p with definitionsPrefix := some s }
  | schemaUri => { p with schemaUri := some s }

/-- A field is found under its name. -/
theorem find?_fields (field : TextField) :
    Config.format.fields.find? (·.name == field.name) =
      some (.of field.name true field.get (fun s p => field.put s p) Reader.string) := by
  cases field <;> rfl

end TextField

namespace FlagField

/-- The truth value that has been read for a field. -/
def get (p : PartialConfig) : FlagField → Option Bool
  | selfCheck => p.selfCheck
  | expandWildcards => p.expandWildcards

/-- The fields that have been read, with one more truth value. -/
def put (b : Bool) (p : PartialConfig) : FlagField → PartialConfig
  | selfCheck => { p with selfCheck := some b }
  | expandWildcards => { p with expandWildcards := some b }

/-- A field is found under its name. -/
theorem find?_fields (field : FlagField) :
    Config.format.fields.find? (·.name == field.name) =
      some (.of field.name true field.get (fun b p => field.put b p) Reader.boolean) := by
  cases field <;> rfl

end FlagField

theorem find?_fields_dialect : Config.format.fields.find? (·.name == "dialect") =
    some (.of "dialect" true (·.dialect) (fun d p => { p with dialect := some d })
      dialectNames.reader) := rfl

/-- The names of the fields are those that are looked for. -/
theorem map_name_fields : Config.format.fields.map (·.name) = configKeys := rfl

namespace ConfigMember

/-- The fields that have been read, with the one that is given. -/
def put (p : PartialConfig) : ConfigMember → PartialConfig
  | dialect d => { p with dialect := some d }
  | text field s => field.put s p
  | flag field b => field.put b p
  | unknown => p

/-- The field that a member gives has not been read. -/
def IsFree (p : PartialConfig) : ConfigMember → Prop
  | dialect _ => p.dialect = none
  | text field _ => field.get p = none
  | flag field _ => field.get p = none
  | unknown => True

theorem isFree_empty (m : ConfigMember) : m.IsFree .empty := by
  rcases m with _ | ⟨_ | _ | _ | _⟩ | ⟨_ | _⟩ | _ <;> first | rfl | trivial

/-- **Frame**: a member leaves the fields of other names as they are. -/
theorem IsFree.put {p : PartialConfig} {m other : ConfigMember} (h : m.IsFree p)
    (apart : ∀ key, other.key? = some key → m.key? ≠ some key) : m.IsFree (other.put p) := by
  -- two members that give the same field give it under the same name
  rcases other with _ | ⟨_ | _ | _ | _⟩ | ⟨_ | _⟩ | _ <;>
    rcases m with _ | ⟨_ | _ | _ | _⟩ | ⟨_ | _⟩ | _ <;>
      first | exact h | exact absurd rfl (apart _ rfl)

theorem withDefaults_put (p : PartialConfig) (m : ConfigMember) :
    (m.put p).withDefaults = m.applyTo p.withDefaults := by
  rcases m with _ | ⟨_ | _ | _ | _⟩ | ⟨_ | _⟩ | _ <;> rfl

/-- **Step**: a member whose field has not been read fills that. -/
theorem IsText.takes {n : Nat} {name : String} {text : List Char} {m : ConfigMember}
    (h : IsText (name, text) m) {p : PartialConfig} (free : m.IsFree p) :
    Takes (Config.format.readMember p name) (n + 1) text (m.put p) := by
  cases h with
  | dialect h =>
    exact RecordFormat.takes_readMember_field find?_fields_dialect (skipsSpaces_fromToken _) free
      (h.imp fun _ h => h.reads.takes)
  | text field h =>
    exact RecordFormat.takes_readMember_field field.find?_fields (skipsSpaces_fromToken _) free
      (h.imp fun _ h => (reads_stringFor _ h).takes)
  | flag field h =>
    exact RecordFormat.takes_readMember_field field.find?_fields (skipsSpaces_fromToken _) free
      (h.imp fun _ h => (reads_boolean h).takes)
  | unknown hn h =>
    have unknown : Config.format.fields.find? (·.name == name) = none := by
      rw [List.find?_eq_none]
      intro field hf same
      rw [← map_name_fields, ← beq_iff_eq.mp same] at hn
      exact hn (List.mem_map_of_mem hf)
    exact RecordFormat.takes_readMember_other unknown p h

end ConfigMember

open ConfigMember (IsText IsFree)

/-- **Run**: the members of a configuration are read one after another, in any order. -/
theorem takesMembers_config {n : Nat} {members : List (String × List Char)}
    {content : List ConfigMember} (each : List.Forall₂ IsText members content)
    (once : (content.filterMap ConfigMember.key?).Nodup) {p : PartialConfig}
    (free : ∀ m ∈ content, m.IsFree p) :
    TakesMembers Config.format.readMember (n + 1) p members (content.foldl ConfigMember.put p) := by
  induction each generalizing p with
  | nil => exact .nil p
  | @cons member m members content own _ ih =>
    obtain ⟨name, text⟩ := member
    obtain ⟨first, others⟩ := List.forall_mem_cons.mp free
    -- no later member gives the field that this one has filled
    have apart : ∀ other ∈ content, ∀ key, m.key? = some key → other.key? ≠ some key := by
      intro other ho key hk same
      rw [List.filterMap_cons_some hk, List.nodup_cons] at once
      exact once.1 (List.mem_filterMap.mpr ⟨other, ho, same⟩)
    have left : (content.filterMap ConfigMember.key?).Nodup :=
      once.sublist ((List.sublist_cons_self m content).filterMap _)
    exact .cons (own.takes first) (ih left fun other ho => (others other ho).put (apart other ho))

/-- What has been read in the end is the default configuration with the fields that are given. -/
theorem foldl_put_withDefaults (content : List ConfigMember) :
    (content.foldl ConfigMember.put .empty).withDefaults = Config.given content := by
  rw [Config.given]
  exact (List.foldl_hom PartialConfig.withDefaults fun p m => (m.withDefaults_put p).symm).symm

namespace Config

/-! ### Configurations that can be used -/

/-- The fields that must not be empty are not. -/
def IsUsable (c : Config) : Prop := c.nullMarker ≠ "" ∧ c.variablePrefix ≠ "" ∧ c.schemaUri ≠ ""

instance (c : Config) : Decidable c.IsUsable :=
  inferInstanceAs (Decidable (c.nullMarker ≠ "" ∧ c.variablePrefix ≠ "" ∧ c.schemaUri ≠ ""))

theorem validate_eq_ok_iff {c : Config} : c.validate = .ok () ↔ c.IsUsable := by
  simp only [validate, emptyField?, IsUsable, String.isEmpty_iff]
  split_ifs <;> simp_all

/-- A configuration that cannot be used is rejected for a field that is empty. -/
theorem validate_of_not_isUsable {c : Config} (h : ¬ c.IsUsable) :
    ∃ field ∈ ["null_marker", "variable_prefix", "schema_uri"],
      c.validate = .error (.config (field ++ " cannot be empty")) := by
  simp only [validate, emptyField?, IsUsable, String.isEmpty_iff] at h ⊢
  split_ifs <;> simp_all

/-! ### Loading -/

/-- A configuration that has been read is checked before it is given back. -/
theorem load_of_run {text : String} {c : Config} (h : format.reader.run text = .ok c) :
    load text = c.validate.map fun _ => c := by
  rw [load, h]
  change (c.validate >>= fun _ => pure c) = _
  cases c.validate <;> rfl

/-- **What is loaded from a text** is what its members give, if that can be used. -/
theorem load_of_text {text : String} {content : List ConfigMember}
    (h : ConfigText text.toList content) :
    load text = (given content).validate.map fun _ => given content := by
  generalize ht : text.toList = s at h
  obtain ⟨hb, layout, each, once, hb'⟩ := h
  -- one level of nesting is the object, and a dialect may take up another
  have filled := takesMembers_config (n := 125) each once fun m _ => m.isFree_empty
  have complete : format.finish (content.foldl ConfigMember.put .empty) = .ok (given content) :=
    congrArg Except.ok (foldl_put_withDefaults content)
  have object : Reads format.reader depthLimit _ (given content) :=
    RecordFormat.reads_reader_object layout filled complete
  have read := object.blank (RecordFormat.skipsSpaces_reader format) hb
  rw [← List.append_assoc] at ht
  exact load_of_run (run_of_reads_blank read hb' ht)

/-- Whatever is loaded is valid. -/
theorem validate_of_load {text : String} {c : Config} (h : load text = .ok c) :
    c.validate = .ok () := by
  cases hr : format.reader.run text with
  | error e =>
    rw [load, hr] at h
    cases h
  | ok found =>
    rw [load_of_run hr] at h
    -- nothing but the configuration that has been checked is given back
    cases hv : found.validate with
    | error e =>
      rw [hv] at h
      cases h
    | ok _ =>
      rw [hv] at h
      cases h
      exact hv

/-! ### Configurations as they are written -/

/-- The members that a configuration is written with. -/
def written (c : Config) : List ConfigMember :=
  [.dialect c.dialect, .text .nullMarker c.nullMarker, .text .variablePrefix c.variablePrefix,
    .text .definitionsPrefix c.definitionsPrefix, .text .schemaUri c.schemaUri,
    .flag .selfCheck c.selfCheck, .flag .expandWildcards c.expandWildcards]

/-- These replace all fields of the default configuration. -/
theorem given_written (c : Config) : given c.written = c := by
  simp only [given, written, List.foldl_cons, List.foldl_nil, ConfigMember.applyTo, TextField.set,
    FlagField.set]

theorem lookup_dialectName (d : Sql.Dialect) : dialectNames.lookup (dialectName d) = some d := by
  cases d <;> decide

/-- Each field is written once. -/
theorem nodup_keys_written (c : Config) : (c.written.filterMap ConfigMember.key?).Nodup := by
  have keys : c.written.filterMap ConfigMember.key? = configKeys := rfl
  rw [keys]
  decide

/-- A configuration is written as an object of its fields, in whatever layout.  What stands behind a
name depends on the value only. -/
theorem configText_of_members (behind : Json → List Char) {text : List Char} {c : Config}
    {json : List (String × Json)} (hj : c.toJson = .object json)
    (layout : MembersText true text (json.map fun m => (m.1, behind m.2)))
    (hs : ∀ s, BehindColon (StringText · s) (behind (.string s)))
    (hf : ∀ b, BehindColon (BoolText · b) (behind (.bool b))) :
    ConfigText ('{' :: text) c.written := by
  have dialect (d : Sql.Dialect) :
      BehindColon (Enumeration.WordText dialectNames · d) (behind (.string (dialectName d))) :=
    (hs _).imp fun _ h => .word (lookup_dialectName d) h
  obtain rfl := Json.object.inj hj
  have each : List.Forall₂ IsText _ c.written :=
    .cons (.dialect (dialect c.dialect)) (.cons (.text .nullMarker (hs _))
      (.cons (.text .variablePrefix (hs _)) (.cons (.text .definitionsPrefix (hs _))
        (.cons (.text .schemaUri (hs _)) (.cons (.flag .selfCheck (hf _))
          (.cons (.flag .expandWildcards (hf _)) .nil))))))
  have whole := ConfigText.mk blank_nil layout each c.nodup_keys_written blank_nil
  rwa [List.append_nil] at whole

/-- A configuration is written on one line. -/
theorem configText_compact (c : Config) : ConfigText c.toJson.compact.toList c.written := by
  rw [toJson, toList_compact_object]
  refine configText_of_members (fun v => ':' :: v.compact.toList) rfl
    (membersText_memberLines blank_nil blank_nil true _) (fun s => .tight ?_)
    fun b => .tight (boolText_compact b)
  rw [toList_compact_string]
  exact stringText_quoteChars s

/-- A configuration is written line by line. -/
theorem configText_pretty (c : Config) : ConfigText c.toJson.pretty.toList c.written := by
  have lines : c.toJson.pretty = c.toJson.prettyAt 0 := rfl
  rw [lines, toJson, toList_prettyAt_object, List.append_assoc]
  refine configText_of_members (memberText 1) rfl
    (membersText_memberLines (isSpace_of_mem_lineBreak 1) (isSpace_of_mem_closingBreak 0 _) true _)
    (fun s => .spaced ?_) fun b => .spaced (boolText_pretty 1 b)
  rw [toList_prettyAt_string]
  exact stringText_quoteChars s

/-- A configuration that can be used is loaded from the text that it is written as. -/
theorem load_of_written {text : String} {c : Config} (h : ConfigText text.toList c.written)
    (valid : c.validate = .ok ()) : load text = .ok c := by
  rw [load_of_text h, given_written, valid]
  rfl

/-- **Configurations and their texts.**  From a text that gives some of the fields, in any order and
among any other members, the default configuration with these fields is loaded, unless a field of it
is empty that must not be.  Whatever is loaded is valid, and a valid configuration is loaded
unchanged from its own text, whether that is written on one line or line by line. -/
theorem load_exact :
    (∀ (text : String) (content : List ConfigMember), ConfigText text.toList content →
      if (given content).IsUsable then load text = .ok (given content)
      else ∃ field ∈ ["null_marker", "variable_prefix", "schema_uri"],
        load text = .error (.config (field ++ " cannot be empty"))) ∧
      (∀ (text : String) (c : Config), load text = .ok c → c.validate = .ok ()) ∧
      ∀ c : Config, c.validate = .ok () →
        load c.toJson.compact = .ok c ∧ load c.toJson.pretty = .ok c := by
  refine ⟨fun text content h => ?_, fun text c h => validate_of_load h, fun c valid => ⟨?_, ?_⟩⟩
  · rw [load_of_text h]
    split
    · next usable =>
      rw [validate_eq_ok_iff.mpr usable]
      rfl
    · next unusable =>
      obtain ⟨field, hf, rejected⟩ := validate_of_not_isUsable unusable
      refine ⟨field, hf, ?_⟩
      rw [rejected]
      rfl
  · exact load_of_written c.configText_compact valid
  · exact load_of_written c.configText_pretty valid

/-- A text that gives three of the fields, in another order than they are declared in.  Between them
stands a member that nobody asks for, twice and with different values. -/
def partialText : String :=
  "\x7b \"limits\": [1e5, null], \"self_check\": false, " ++
    "\"dialect\": \x7b\"postgres\": null\x7d, \"limits\": \x7b\x7d, " ++
      "\"null_marker\": \"\\u003f\"\x7d"

/-- What the members of the text give. -/
def partialContent : List ConfigMember :=
  [.unknown, .flag .selfCheck false, .dialect .postgres, .unknown, .text .nullMarker "?"]

theorem configText_partial : ConfigText partialText.toList partialContent := by
  have digits {c : Char} (h : c.isDigit) : Digits [c] :=
    ⟨List.cons_ne_nil c [], List.forall_mem_singleton.mpr h⟩
  have limits : ValueForm ['[', '1', 'e', '5', ',', ' ', 'n', 'u', 'l', 'l', ']'] := by
    have number : NumberForm ([] ++ (['1'] ++ ([] ++ ('e' :: ([] ++ ['5']))))) :=
      .mk (by decide) (digits rfl) (by decide) .none (.letter (.inl rfl) (by decide) (digits rfl))
    exact .frame (f := .list) (.next (.first blank_nil) .item (.number number)
      (.next (.comma blank_nil blank_space) .item (.word List.mem_cons_self) (.close blank_nil)))
  have nothing : ValueForm ['{', '}'] := .frame (f := .object) (.close blank_nil)
  have dialect : Enumeration.WordText dialectNames _ .postgres :=
    .object (lookup_dialectName .postgres) blank_nil (stringText_quoteChars _) (.spaced rfl)
      blank_nil
  -- the mark is written by the number of its character
  have mark : StringText ['"', '\\', 'u', '0', '0', '3', 'f', '"'] "?" := by
    have number : HexText ['0', '0', '3', 'f'] '?'.toNat :=
      .mk (i := 0) (j := 0) (k := 3) (l := 15) ⟨by decide, by decide⟩ ⟨by decide, by decide⟩
        ⟨by decide, by decide⟩ ⟨by decide, by decide⟩
    exact ⟨_, ⟨_, .cons (.numbered number) .nil, rfl⟩, rfl⟩
  have unasked : "limits" ∉ configKeys := by decide
  obtain ⟨whole, form, same⟩ :
      ∃ whole, ConfigText whole partialContent ∧ whole = partialText.toList := by
    refine ⟨_, .mk blank_nil (membersText_memberLines blank_space blank_nil true
        [("limits", _), ("self_check", _), ("dialect", _), ("limits", _), ("null_marker", _)])
      (.cons (.unknown unasked (.spaced limits)) (.cons (.flag .selfCheck (.spaced .false))
        (.cons (.dialect (.spaced dialect)) (.cons (.unknown unasked (.spaced nothing))
          (.cons (.text .nullMarker (.spaced mark)) .nil))))) (by decide) blank_nil, ?_⟩
    decide +kernel
  exact same ▸ form

/-- The fields that are given replace those of the default configuration, and the configuration is
loaded again from the text that it is written as. -/
theorem load_exact_partial :
    ConfigText partialText.toList partialContent ∧
      load partialText =
        .ok { default with dialect := .postgres, nullMarker := "?", selfCheck := false } ∧
      (given partialContent).validate = .ok () ∧
      load (given partialContent).toJson.compact = .ok (given partialContent) := by
  have loaded := load_exact.1 partialText partialContent configText_partial
  rw [if_pos (by decide)] at loaded
  have valid := load_exact.2.1 partialText _ loaded
  exact ⟨configText_partial, loaded, valid, (load_exact.2.2 _ valid).1⟩

end Config

end RowShape
