/-!
# Errors

The ways in which an operation can fail as a whole.  What only narrows the result of an operation
is no error but a diagnostic.

## Main definitions

* `Error`: the kinds of failure.
* `Error.message`: their wording.
-/

namespace RowShape

/-- A failure of an operation. -/
inductive Error where
  /-- A text is no SQL. -/
  | parse (detail : String)
  /-- A statement is no query. -/
  | unsupported (detail : String)
  /-- The tables or the procedures of a database could not be listed. -/
  | metadata (detail : String)
  /-- No document is registered under an identifier. -/
  | schemaNotFound (id : String)
  /-- A document breaks a rule. -/
  | validation (detail : String)
  /-- A JSON text does not describe the value it should. -/
  | serialization (detail : String)
  /-- A configuration cannot be used. -/
  | config (detail : String)
  deriving DecidableEq, Inhabited

namespace Error

/-- The wording of a failure. -/
def message : Error → String
  | parse detail => "Parse error: " ++ detail
  | unsupported detail => "Unsupported statement: " ++ detail
  | metadata detail => "Metadata source error: " ++ detail
  | schemaNotFound id => "Schema '" ++ id ++ "' not found"
  | validation detail => "Schema validation error: " ++ detail
  | serialization detail => "Serialization error: " ++ detail
  | config detail => "Configuration error: " ++ detail

end Error

end RowShape
