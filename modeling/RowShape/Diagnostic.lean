import RowShape.Column.Scope

/-!
# Diagnostics

What went wrong on the way to a document without preventing it.

## Main definitions

* `SkipReason`: why a reference was dropped.
* `Diagnostic`: a finding about an entity or a document.
* `Diagnostic.isCoverageLoss`: the document lacks something because of it.
* `Diagnostic.message`: the wording.
-/

namespace RowShape

/-- Why a reference gives no column. -/
inductive SkipReason where
  /-- No table in scope accounts for it. -/
  | nullSource
  /-- It names a variable. -/
  | variableSource
  /-- The catalog does not have the table. -/
  | unknownTable
  /-- The table does not have the column. -/
  | unknownColumn
  deriving DecidableEq, Inhabited

namespace SkipReason

/-- The wording. -/
def message : SkipReason → String
  | nullSource => "no source table"
  | variableSource => "variable reference"
  | unknownTable => "unknown table"
  | unknownColumn => "unknown column"

/-- Constants and variables have no column anyway. -/
def isCoverageLoss : SkipReason → Bool
  | nullSource | variableSource => false
  | unknownTable | unknownColumn => true

end SkipReason

/-- A finding. -/
inductive Diagnostic where
  /-- A statement of an entity could not be read. -/
  | statementParseFailure (entity statement reason : String)
  /-- A reference of an entity gives no column. -/
  | unresolvedColumn (entity : String) (reference : ColumnRef) (reason : SkipReason)
  /-- A document breaks a rule. -/
  | schemaSelfCheckFailure (schemaId reason : String)
  deriving DecidableEq, Inhabited

namespace Diagnostic

/-- Something is missing from a document, or wrong with it. -/
def isCoverageLoss : Diagnostic → Bool
  | unresolvedColumn _ _ reason => reason.isCoverageLoss
  | statementParseFailure .. | schemaSelfCheckFailure .. => true

/-- The diagnostic is about a statement that could not be read. -/
def isParseFailure : Diagnostic → Bool
  | statementParseFailure .. => true
  | _ => false

/-- The diagnostic is about a column that is missing from the catalog. -/
def isDroppedColumn : Diagnostic → Bool
  | unresolvedColumn _ _ .unknownTable | unresolvedColumn _ _ .unknownColumn => true
  | _ => false

/-- The diagnostic is about a document that breaks a rule. -/
def isSelfCheckFailure : Diagnostic → Bool
  | schemaSelfCheckFailure .. => true
  | _ => false

/-- The wording. -/
def message : Diagnostic → String
  | statementParseFailure entity statement reason =>
    entity ++ ": could not parse statement '" ++ statement ++ "': " ++ reason
  | unresolvedColumn entity reference reason =>
    entity ++ ": dropped column " ++ reference.render ++ " (" ++ reason.message ++ ")"
  | schemaSelfCheckFailure schemaId reason =>
    schemaId ++ ": schema self-check failed: " ++ reason

end Diagnostic

end RowShape
