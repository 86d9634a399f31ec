import RowShape.Diagnostic
import RowShape.Error
import RowShape.Json.Record

/-!
# Diagnostics as JSON

An object whose member `kind` tells which diagnostic it is, wherever it stands.  The other members
are kept until the kind is known.

## Main definitions

* `Diagnostic.toJson`: writing a diagnostic.
* `Diagnostic.reader`: reading one.
* `Diagnostic.ofJsonMap`: the diagnostics of an object.
-/

namespace RowShape

open Json

/-! ### Writing -/

/-- The word for a reason. -/
def SkipReason.word : SkipReason → String
  | nullSource => "null_source"
  | variableSource => "variable"
  | unknownTable => "unknown_table"
  | unknownColumn => "unknown_column"

/-- A reference as an object. -/
def ColumnRef.toJson (r : ColumnRef) : Json :=
  .object [("aggregate_fn", match r.aggregate with
      | some f => .string f
      | none => .null),
    ("source_tag", .string r.source), ("column_name", .string r.column)]

/-- A diagnostic as an object. -/
def Diagnostic.toJson : Diagnostic → Json
  | statementParseFailure entity statement reason =>
    .object [("kind", .string "statement_parse_failure"), ("entity", .string entity),
      ("statement", .string statement), ("reason", .string reason)]
  | unresolvedColumn entity reference reason =>
    .object [("kind", .string "unresolved_column"), ("entity", .string entity),
      ("reference", reference.toJson), ("reason", .string reason.word)]
  | schemaSelfCheckFailure schemaId reason =>
    .object [("kind", .string "schema_self_check_failure"), ("schema_id", .string schemaId),
      ("reason", .string reason)]

/-! ### Reading parts -/

/-- The reasons and their words. -/
def SkipReason.words : Enumeration SkipReason :=
  [("null_source", .nullSource), ("variable", .variableSource), ("unknown_table", .unknownTable),
    ("unknown_column", .unknownColumn)]

/-- The fields of a reference that have been read. -/
structure PartialColumnRef where
  aggregate : Option (Option String)
  source : Option String
  column : Option String

/-- How a reference is read.  A function that is left out is none. -/
def ColumnRef.format : RecordFormat Decoder PartialColumnRef ColumnRef where
  name := "struct RawColumnRef"
  fields :=
    [.of "aggregate_fn" false (·.aggregate) (fun f p => { p with aggregate := some f })
        (Decoder.nullable Decoder.string),
      .of "source_tag" false (·.source) (fun s p => { p with source := some s }) Decoder.string,
      .of "column_name" false (·.column) (fun s p => { p with column := some s }) Decoder.string]
  start := ⟨none, none, none⟩
  finish p := do
    let source ← required "source_tag" p.source
    let column ← required "column_name" p.column
    return ⟨p.aggregate.join, source, column⟩

/-- The fields of a diagnostic that have been read. -/
structure PartialDiagnostic where
  entity : Option String
  statement : Option String
  reference : Option ColumnRef
  skipped : Option SkipReason
  reason : Option String
  schemaId : Option String

/-- A diagnostic without fields. -/
def PartialDiagnostic.empty : PartialDiagnostic := ⟨none, none, none, none, none, none⟩

namespace Diagnostic

/-- The name of the entity. -/
def entityField : Field Decoder PartialDiagnostic :=
  .of "entity" false (·.entity) (fun s p => { p with entity := some s }) Decoder.string

/-- A reason in words. -/
def reasonField : Field Decoder PartialDiagnostic :=
  .of "reason" false (·.reason) (fun s p => { p with reason := some s }) Decoder.string

/-- How a statement that could not be read is read. -/
def parseFailureFormat : RecordFormat Decoder PartialDiagnostic Diagnostic where
  name := "struct variant Diagnostic::StatementParseFailure"
  fields :=
    [entityField,
      .of "statement" false (·.statement) (fun s p => { p with statement := some s })
        Decoder.string,
      reasonField]
  start := .empty
  finish p := do
    let entity ← required "entity" p.entity
    let statement ← required "statement" p.statement
    let reason ← required "reason" p.reason
    return statementParseFailure entity statement reason

/-- How a reference without a column is read. -/
def unresolvedFormat : RecordFormat Decoder PartialDiagnostic Diagnostic where
  name := "struct variant Diagnostic::UnresolvedColumn"
  fields :=
    [entityField,
      .of "reference" false (·.reference) (fun r p => { p with reference := some r })
        ColumnRef.format.decode,
      .of "reason" false (·.skipped) (fun r p => { p with skipped := some r })
        SkipReason.words.decode]
  start := .empty
  finish p := do
    let entity ← required "entity" p.entity
    let reference ← required "reference" p.reference
    let reason ← required "reason" p.skipped
    return unresolvedColumn entity reference reason

/-- How a document that breaks a rule is read. -/
def selfCheckFormat : RecordFormat Decoder PartialDiagnostic Diagnostic where
  name := "struct variant Diagnostic::SchemaSelfCheckFailure"
  fields :=
    [.of "schema_id" false (·.schemaId) (fun s p => { p with schemaId := some s })
        Decoder.string,
      reasonField]
  start := .empty
  finish p := do
    let schemaId ← required "schema_id" p.schemaId
    let reason ← required "reason" p.reason
    return schemaSelfCheckFailure schemaId reason

/-- The kinds of diagnostics and how each is read. -/
def kinds : Enumeration (RecordFormat Decoder PartialDiagnostic Diagnostic) :=
  [("statement_parse_failure", parseFailureFormat), ("unresolved_column", unresolvedFormat),
    ("schema_self_check_failure", selfCheckFormat)]

/-! ### Reading -/

/-- Reads the word for a kind. -/
def kindReader : Reader (RecordFormat Decoder PartialDiagnostic Diagnostic) := do
  kinds.ofWord (← Reader.stringFor "variant identifier")

/-- The kind of a diagnostic if it has been read, and its other members, the latest first. -/
structure Buffered where
  kind : Option (RecordFormat Decoder PartialDiagnostic Diagnostic)
  members : List (String × Json)

/-- Reads a member of a diagnostic behind its name. -/
def readMember (b : Buffered) (name : String) : Reader Buffered := do
  if name = "kind" then
    if b.kind.isSome then throw (.duplicateField name)
    Reader.colon
    return { b with kind := some (← kindReader) }
  else
    Reader.colon
    return { b with members := (name, ← Reader.value) :: b.members }

/-- Reads the kind of a diagnostic, and its fields as an object or an array. -/
def taggedReader : Reader (RecordFormat Decoder PartialDiagnostic Diagnostic × Json) :=
  Reader.fromToken fun c => do
    match c with
    | '[' =>
      Reader.skip
      Reader.nested do
        if ← Reader.nextItem true then
          let kind ← kindReader
          let found ← Reader.iterate (fun found => do
            if ← Reader.nextItem false then
              return some ((← Reader.value) :: found)
            else return none) []
          Reader.endList
          return (kind, .array found.reverse)
        else throw (.missingField "kind")
    | '{' =>
      Reader.skip
      Reader.nested do
        let b ← Reader.foldMembers readMember ⟨none, []⟩
        let kind ← required "kind" b.kind
        return (kind, .object b.members.reverse)
    | _ => Reader.mismatch "internally tagged enum Diagnostic"

/-- Reads a diagnostic. -/
def reader : Reader Diagnostic := do
  let (kind, fields) ← taggedReader
  kind.decode fields

/-- The diagnostics of an object, whose names do not matter except that a name that comes again
replaces its diagnostic. -/
def ofJsonMap (text : String) : Except Error (List Diagnostic) :=
  match (Reader.map reader).run text with
  | .ok m => .ok (m.entries.map (·.2))
  | .error e => .error (.serialization e.message)

end Diagnostic

end RowShape
