import RowShape.Column.Collect
import RowShape.Diagnostic
import RowShape.Text.Search

/-!
# Procedures

From the definition of a procedure to the references of all statements that select something.

The body of a definition is the part that is run: what stands between the first `BEGIN` and the last
`END`.  Blocks inside it are not looked at.

A body is cut at every semicolon.  A statement that cannot be read gives a diagnostic and no
reference, and the others are read all the same.

## Main definitions

* `bodySpan`: where the body of a definition begins and ends.
* `procedureBody`: the body without blanks at its ends.
* `selectStatements`: the parts of a body that begin with `SELECT`.
* `Collection`: references and diagnostics.
* `collect`: what the statements of a body give.
-/

namespace RowShape

/-! ### Bodies -/

/-- The word before a body. -/
def bodyStart : List Char := "BEGIN".toList

/-- The word after a body. -/
def bodyEnd : List Char := "END".toList

/-- Where the body of a definition begins and ends.  Without `BEGIN` it begins with the text, and
without `END` it ends with it. -/
def bodySpan (definition : List Char) : Nat × Nat :=
  (((Text.firstIndex? bodyStart definition).map (· + bodyStart.length)).getD 0,
    (Text.lastIndex? bodyEnd definition).getD definition.length)

/-- The characters of the body; none if it ends before it begins. -/
def bodyChars (definition : List Char) : List Char :=
  let (first, last) := bodySpan definition
  Text.trimChars ((definition.take last).drop first)

/-- The body of a definition without blanks at its ends. -/
def procedureBody (definition : String) : String :=
  String.ofList (bodyChars definition.toList)

/-! ### Statements -/

/-- The mark between statements. -/
def terminator : Char := ';'

/-- A statement begins with the letters of `SELECT` in any case. -/
def beginsWithSelect (statement : List Char) : Bool :=
  Text.sameLettersAscii (statement.take 6) "SELECT".toList

/-- The statements of a body that begin with `SELECT`, without blanks at their ends. -/
def selectStatements (body : String) : List String :=
  (((Text.segments terminator body.toList).map Text.trimChars).filter beginsWithSelect).map
    String.ofList

/-- The references that were read, and the statements that could not be. -/
structure Collection where
  columns : List ColumnRef
  diagnostics : List Diagnostic
  deriving DecidableEq, Inhabited

namespace Collection

/-- Nothing was read. -/
def empty : Collection := ⟨[], []⟩

/-- Two collections one after the other. -/
def append (c d : Collection) : Collection :=
  ⟨c.columns ++ d.columns, c.diagnostics ++ d.diagnostics⟩

instance : Append Collection := ⟨append⟩

@[simp] theorem columns_append (c d : Collection) : (c ++ d).columns = c.columns ++ d.columns := rfl

@[simp] theorem diagnostics_append (c d : Collection) :
    (c ++ d).diagnostics = c.diagnostics ++ d.diagnostics := rfl

end Collection

/-- The number of characters of a statement that a diagnostic shows. -/
def previewLength : Nat := 50

/-- The beginning of a statement. -/
def preview (statement : String) : String := String.ofList (statement.toList.take previewLength)

/-- What a single statement of an entity gives. -/
def collectOne (entity : String) (parser : ColumnParser) (statement : String) : Collection :=
  match parser statement with
  | .ok columns => ⟨columns, []⟩
  | .error e => ⟨[], [.statementParseFailure entity (preview statement) e.message]⟩

/-- What some statements of an entity give, one after the other. -/
def collectAll (entity : String) (parser : ColumnParser) : List String → Collection
  | [] => .empty
  | s :: rest => collectOne entity parser s ++ collectAll entity parser rest

/-- What the statements of the body of an entity give. -/
def collect (entity : String) (parser : ColumnParser) (body : String) : Collection :=
  collectAll entity parser (selectStatements body)

end RowShape
