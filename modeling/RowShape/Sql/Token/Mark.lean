import RowShape.Sql.Dialect
import RowShape.Sql.SyntaxError

/-!
# Punctuation and operators

The spellings of punctuation and operators.  A text begins with the first entry of the table that
it has as a prefix; entries stand before their own prefixes, so this is the longest one.

## Main definitions

* `MarkEntry`: a spelling and what may follow it.
* `markTable`: all of them.
* `Scan.mark?`: the mark at the front of a text.
-/

namespace RowShape.Sql

/-- What may follow a mark. -/
inductive MarkEnd where
  /-- The mark ends where its spelling ends. -/
  | fixed
  /-- Further operator characters make it an operator of the dialect's own. -/
  | extensible
  /-- It is no mark unless further operator characters follow. -/
  | unfinished
  deriving DecidableEq

/-- An entry of the table of marks. -/
structure MarkEntry where
  /-- The characters. -/
  spelling : String
  /-- The usual spelling. -/
  usual : String
  /-- What may follow. -/
  ending : MarkEnd
  /-- Only dialects with operators on shapes know it. -/
  shapesOnly : Bool

private def fixedMark (s : String) : MarkEntry := ⟨s, s, .fixed, false⟩

private def openMark (s : String) : MarkEntry := ⟨s, s, .extensible, false⟩

private def shapeMark (s : String) (ending : MarkEnd) : MarkEntry := ⟨s, s, ending, true⟩

/-- Every mark, before its prefixes. -/
def markTable : List MarkEntry :=
  ["(", ")", ",", "+", "*", ";", "\\", "[", "]", "\x7b", "\x7d", "=>", "==", "=", "::", ":=",
    ":"].map fixedMark ++
  ["!=", "!!", "!~*", "!~~*", "!~~", "!~", "!"].map (fun s =>
    ⟨s, if s = "!=" then "<>" else s, .fixed, false⟩) ++
  ["->>", "->", "-", "%", "|/", "||/", "||"].map openMark ++
  [shapeMark "|&>" .extensible, shapeMark "|&" .unfinished, shapeMark "|>>" .extensible,
    shapeMark "|>" .unfinished, openMark "|"] ++
  [openMark "<=>", openMark "<=", ⟨"<|", "<<|", .extensible, true⟩, openMark "<>",
    shapeMark "<<|" .extensible, openMark "<<", shapeMark "<->" .extensible,
    shapeMark "<-" .unfinished, shapeMark "<^" .extensible, openMark "<@", openMark "<"] ++
  [openMark ">=", openMark ">>", shapeMark ">^" .extensible, openMark ">"] ++
  [shapeMark "&>" .fixed, shapeMark "&<|" .fixed, shapeMark "&<" .extensible, openMark "&&",
    openMark "&"] ++
  [fixedMark "^@", fixedMark "^"] ++
  [openMark "~*", shapeMark "~=" .extensible, openMark "~~*", openMark "~~", openMark "~"] ++
  [openMark "#-", openMark "#>>", openMark "#>", shapeMark "##" .extensible, openMark "#"] ++
  [shapeMark "@-@" .fixed, shapeMark "@-" .unfinished, fixedMark "@>", fixedMark "@?",
    fixedMark "@@", fixedMark "@"] ++
  [shapeMark "?||" .fixed, shapeMark "?|" .fixed, shapeMark "?&" .fixed, shapeMark "?-|" .fixed,
    shapeMark "?-" .fixed, shapeMark "?#" .fixed, shapeMark "?" .fixed]

namespace Scan

/-- A mark whose spelling has been read, with the operator characters that follow it. -/
def finishMark (d : Dialect) (e : MarkEntry) (rest : List Char) :
    Except (Fault × List Char) (Token × List Char) :=
  let more := rest.takeWhile d.operatorPart
  match e.ending with
  | .fixed => .ok (.mark e.usual, rest)
  | .extensible =>
    if more.isEmpty then .ok (.mark e.usual, rest)
    else .ok (.operator (e.usual ++ String.ofList more), rest.dropWhile d.operatorPart)
  | .unfinished =>
    if more.isEmpty then .error (.unfinishedOperator e.usual, rest)
    else .ok (.operator (e.usual ++ String.ofList more), rest.dropWhile d.operatorPart)

/-- The mark at the front of a text, if there is one. -/
def mark? (d : Dialect) (cs : List Char) :
    Option (Except (Fault × List Char) (Token × List Char)) :=
  let entry := markTable.find? fun e =>
    (!e.shapesOnly || d.shapeOperators) && e.spelling.toList.isPrefixOf cs
  entry.map fun e => finishMark d e (cs.drop e.spelling.length)

end Scan

end RowShape.Sql
