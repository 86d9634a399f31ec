import RowShape.Config
import RowShape.Json.Printer
import RowShape.Json.Record

/-!
# Configurations as JSON

An object with a member for every field.  A field that is left out has its default.

## Main definitions

* `Config.format`: the fields.
* `Config.load`: reading and checking a configuration.
* `Config.toJson`: writing one.
-/

namespace RowShape

open Json

/-- The dialects and their names. -/
def dialectNames : Enumeration Sql.Dialect :=
  [("mssql", .msSql), ("generic", .generic), ("postgres", .postgres)]

/-- The name of a dialect. -/
def dialectName : Sql.Dialect → String
  | .msSql => "mssql"
  | .generic => "generic"
  | .postgres => "postgres"

/-- The fields of a configuration that have been read. -/
structure PartialConfig where
  dialect : Option Sql.Dialect
  nullMarker : Option String
  variablePrefix : Option String
  definitionsPrefix : Option String
  schemaUri : Option String
  selfCheck : Option Bool
  expandWildcards : Option Bool

/-- A configuration without fields. -/
def PartialConfig.empty : PartialConfig := ⟨none, none, none, none, none, none, none⟩

/-- The configuration, with defaults for what is left out. -/
def PartialConfig.withDefaults (p : PartialConfig) : Config where
  dialect := p.dialect.getD Config.default.dialect
  nullMarker := p.nullMarker.getD Config.default.nullMarker
  variablePrefix := p.variablePrefix.getD Config.default.variablePrefix
  definitionsPrefix := p.definitionsPrefix.getD Config.default.definitionsPrefix
  schemaUri := p.schemaUri.getD Config.default.schemaUri
  selfCheck := p.selfCheck.getD Config.default.selfCheck
  expandWildcards := p.expandWildcards.getD Config.default.expandWildcards

namespace Config

/-- The fields of a configuration. -/
def fields : List (Field Reader PartialConfig) :=
  [.of "dialect" true (·.dialect) (fun d p => { p with dialect := some d }) dialectNames.reader,
    .of "null_marker" true (·.nullMarker) (fun s p => { p with nullMarker := some s })
      Reader.string,
    .of "variable_prefix" true (·.variablePrefix) (fun s p => { p with variablePrefix := some s })
      Reader.string,
    .of "definitions_prefix" true (·.definitionsPrefix)
      (fun s p => { p with definitionsPrefix := some s }) Reader.string,
    .of "schema_uri" true (·.schemaUri) (fun s p => { p with schemaUri := some s }) Reader.string,
    .of "self_check" true (·.selfCheck) (fun b p => { p with selfCheck := some b })
      Reader.boolean,
    .of "expand_wildcards" true (·.expandWildcards)
      (fun b p => { p with expandWildcards := some b }) Reader.boolean]

/-- How a configuration is read. -/
def format : RecordFormat Reader PartialConfig Config :=
  ⟨"struct InferenceConfig", fields, .empty, fun p => .ok p.withDefaults⟩

/-- The configuration that a text describes, if it can be used. -/
def load (text : String) : Except Error Config := do
  let c ← (format.reader.run text).mapError fun e => .config e.message
  c.validate
  return c

/-- A configuration as an object. -/
def toJson (c : Config) : Json :=
  .object [("dialect", .string (dialectName c.dialect)), ("null_marker", .string c.nullMarker),
    ("variable_prefix", .string c.variablePrefix),
    ("definitions_prefix", .string c.definitionsPrefix), ("schema_uri", .string c.schemaUri),
    ("self_check", .bool c.selfCheck), ("expand_wildcards", .bool c.expandWildcards)]

end Config

end RowShape
