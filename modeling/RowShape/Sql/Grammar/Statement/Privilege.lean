import RowShape.Sql.Grammar.Query

/-!
# Statements about privileges

Each parser here runs after its keyword has been taken.

## Main definitions

* `grant`, `revoke`, `deny`: the statements.
-/

namespace RowShape.Sql

open RowShape.Sql.Parser Piece

/-! ### Privileges -/

/-- Privileges that may be limited to some columns. -/
private def columnPrivileges : List String := ["SELECT", "INSERT", "UPDATE", "REFERENCES"]

/-- Privileges on objects as a whole. -/
private def wholePrivileges : List String :=
  ["CONNECT", "CREATE", "DELETE", "DROP", "EXECUTE", "MODIFY", "MONITOR", "OPERATE", "OWNERSHIP",
    "READ", "REPLICATE", "TRIGGER", "TRUNCATE", "USAGE"]

/-- A privilege, as text. -/
private def privilege : Parser String := do
  match ← acceptOneOf (columnPrivileges ++ wholePrivileges) with
  | some k =>
    if columnPrivileges.contains k && (← peekMark "(") then
      let columns ← nameList "a list of columns in parentheses"
      return k ++ " (" ++ ", ".intercalate (columns.map Ident.render) ++ ")"
    else return k
  | none =>
    if (← acceptOneOf ["TEMPORARY", "TEMP"]).isSome then return "TEMPORARY"
    else expected "a privilege keyword"

/-- Privileges, as text. -/
private def privileges : Parser String := do
  if ← acceptWord "ALL" then
    return if ← acceptWord "PRIVILEGES" then "ALL PRIVILEGES" else "ALL"
  else return ", ".intercalate (← sepByComma privilege)

/-- The objects that privileges are about, as text. -/
private def objects? (d : Dialect) : Parser (Option String) := do
  if ← acceptWord "ON" then
    let kind ← acceptOneOf ["SEQUENCE", "DATABASE", "SCHEMA", "TABLE", "VIEW", "USER"]
    let names ← sepByComma (qualifiedName d)
    let lead := match kind with
      | some k => if k == "TABLE" then "" else k ++ " "
      | none => ""
    return some (lead ++ ", ".intercalate (names.map QualifiedName.render))
  else return none

/-! ### Those who hold them -/

/-- Who holds privileges, as text.  A kind of holders holds until another kind is named. -/
private def holders (d : Dialect) : Parser String := do
  let kinds := ["ROLE", "USER", "SHARE", "GROUP"] ++ if d == .msSql then [] else ["PUBLIC"]
  let (found, _, _) ← iterate
    (fun ((found, kind, due) : List String × String × Bool) => do
      unless due do return none
      let kind := ((← acceptOneOf kinds).map (· ++ " ")).getD kind
      let name ← if kind == "PUBLIC " then pure "" else do pure (← qualifiedName d).render
      return some (found ++ [kind ++ name], kind, ← acceptMark ",")) ([], "", true)
  return ", ".intercalate found

/-- What becomes of privileges that were passed on, as text. -/
private def passedOn : Parser String := do
  return ((← acceptOneOf ["CASCADE", "RESTRICT"]).map (" " ++ ·)).getD ""

/-! ### Statements -/

/-- `GRANT`. -/
def grant (d : Dialect) : Parser (List Piece) := do
  let what ← privileges
  let objects ← objects? d
  expectWord "TO"
  let whom ← holders d
  let option ← acceptWords ["WITH", "GRANT", "OPTION"]
  let grantor ← after? "AS" identifier
  let granter ← if ← acceptWords ["GRANTED", "BY"] then some <$> identifier else pure none
  let clause (lead : String) (i : Option Ident) : String := (i.map (lead ++ ·.render)).getD ""
  return [text ("GRANT " ++ what ++ " " ++ (objects.map ("ON " ++ · ++ " ")).getD "" ++ "TO " ++
    whom ++ (if option then " WITH GRANT OPTION" else "") ++ clause " AS " grantor ++
    clause " GRANTED BY " granter)]

/-- `REVOKE`. -/
def revoke (d : Dialect) : Parser (List Piece) := do
  let what ← privileges
  let objects ← objects? d
  expectWord "FROM"
  let whom ← holders d
  let granter ← if ← acceptWords ["GRANTED", "BY"] then some <$> identifier else pure none
  let rest ← passedOn
  return [text ("REVOKE " ++ what ++ " " ++ (objects.map ("ON " ++ · ++ " ")).getD "" ++ "FROM " ++
    whom ++ (granter.map (" GRANTED BY " ++ ·.render)).getD "" ++ rest)]

/-- `DENY`. -/
def deny (d : Dialect) : Parser (List Piece) := do
  let what ← privileges
  match ← objects? d with
  | none => failAt (← peek) (.malformed "DENY statements must specify an object")
  | some objects =>
    expectWord "TO"
    let whom ← holders d
    let rest ← passedOn
    let granter ← after? "AS" identifier
    return [text ("DENY " ++ what ++ " ON " ++ objects ++ " TO " ++ whom ++ rest ++
      (granter.map (" AS " ++ ·.render)).getD "")]

end RowShape.Sql
