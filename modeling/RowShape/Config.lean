import RowShape.Column.Scope
import RowShape.Error
import RowShape.Sql.Dialect

/-!
# Configuration

## Main definitions

* `Config`: what can be chosen about reading statements and writing documents.
* `Config.default`: the choices nobody has to make.
* `Config.validate`: the fields that must not be empty.
* `Config.schemaId`: the identifier of a document.
-/

namespace RowShape

/-- What can be chosen. -/
structure Config where
  /-- The dialect of the statements. -/
  dialect : Sql.Dialect
  /-- The source of columns that no table in scope accounts for. -/
  nullMarker : String
  /-- The beginning of the names of variables and parameters. -/
  variablePrefix : String
  /-- What stands before a name in the identifier of its document. -/
  definitionsPrefix : String
  /-- The identifier of the schema of the documents themselves. -/
  schemaUri : String
  /-- Documents are checked after they have been built. -/
  selfCheck : Bool
  /-- `*` stands for all columns of its table. -/
  expandWildcards : Bool
  deriving DecidableEq

namespace Config

/-- The configuration for SQL Server and the seventh draft of JSON Schema. -/
def default : Config where
  dialect := .msSql
  nullMarker := "null"
  variablePrefix := "@"
  definitionsPrefix := "#/definitions/"
  schemaUri := "http://json-schema.org/draft-07/schema#"
  selfCheck := true
  expandWildcards := true

instance : Inhabited Config := ⟨default⟩

/-- The first field that is empty and must not be. -/
def emptyField? (c : Config) : Option String :=
  if c.nullMarker.isEmpty then some "null_marker"
  else if c.variablePrefix.isEmpty then some "variable_prefix"
  else if c.schemaUri.isEmpty then some "schema_uri"
  else none

/-- Fails if a field is empty that must not be. -/
def validate (c : Config) : Except Error Unit :=
  match c.emptyField? with
  | some field => .error (.config (field ++ " cannot be empty"))
  | none => .ok ()

/-- The identifier of the document of an entity. -/
def schemaId (c : Config) (name : String) : String := c.definitionsPrefix ++ name

/-- How references without a table are marked. -/
def marks (c : Config) : SourceMarks := ⟨c.nullMarker, c.variablePrefix⟩

end Config

end RowShape
