/-!
# Identifiers

Identifiers with the quotes they are written in, and names of objects made of several of them.

## Main definitions

* `Ident`: a value and its quote.
* `QualifiedName`: identifiers joined by periods.
* `Ident.render`, `QualifiedName.render`: their written forms.
* `stripQuotes`: a written form without its outer quotes.
-/

namespace RowShape.Sql

/-! ### Quoted text -/

/-- Doubles every quote that stands alone.  A quote next to another quote, or after a backslash,
counts as escaped already and stays. -/
def doubleLoneQuotes (quote : Char) (previous : Char) : List Char → List Char
  | [] => []
  | c :: rest =>
    if c = quote then
      if previous = '\\' then c :: doubleLoneQuotes quote previous rest
      else match rest with
        | [] => [c, c]
        | d :: rest' =>
          if d = quote then c :: d :: doubleLoneQuotes quote c rest'
          else c :: c :: doubleLoneQuotes quote c (d :: rest')
    else c :: doubleLoneQuotes quote c rest

/-- A text between two quotes, with lone quotes inside it doubled. -/
def quoted (quote : Char) (s : String) : String :=
  String.ofList (quote :: doubleLoneQuotes quote '\x00' s.toList ++ [quote])

/-- The quote that closes what `opening` opens. -/
def closingQuote (opening : Char) : Char :=
  if opening = '[' then ']' else opening

/-! ### Identifiers -/

/-- An identifier: its value, and the opening quote it is written with. -/
structure Ident where
  /-- The value, without quotes and with escapes undone. -/
  value : String
  /-- The opening quote, if there is one. -/
  quote : Option Char
  deriving DecidableEq, Inhabited

namespace Ident

/-- An identifier written without quotes. -/
def bare (value : String) : Ident := ⟨value, none⟩

/-- The written form.  Brackets do not escape what they hold. -/
def render (i : Ident) : String :=
  match i.quote with
  | none => i.value
  | some '[' => "[" ++ i.value ++ "]"
  | some q => quoted q i.value

@[simp] theorem render_bare (value : String) : (bare value).render = value := rfl

end Ident

/-! ### Names of objects -/

/-- The name of an object, most general part first, such as `db.dbo.orders`. -/
structure QualifiedName where
  /-- The parts between the periods. -/
  parts : List Ident
  deriving DecidableEq, Inhabited

namespace QualifiedName

/-- A name of one part. -/
def single (i : Ident) : QualifiedName := ⟨[i]⟩

/-- The written form. -/
def render (n : QualifiedName) : String :=
  ".".intercalate (n.parts.map Ident.render)

end QualifiedName

/-- The inside of a text that begins with `opening` and ends with `closing`. -/
def insideQuotes? (opening closing : Char) (s : List Char) : Option (List Char) :=
  match s with
  | [] => none
  | c :: rest => if c = opening ∧ rest.getLast? = some closing then some rest.dropLast else none

/-- A written identifier without its outer brackets, double quotes or backticks.  Escapes inside
it are left as they are. -/
def stripQuotes (s : String) : String :=
  let cs := s.toList
  match insideQuotes? '[' ']' cs <|> insideQuotes? '"' '"' cs <|> insideQuotes? '`' '`' cs with
  | some inner => String.ofList inner
  | none => s

/-- The last part of a name as it is written, without its outer quotes. -/
def QualifiedName.baseName (n : QualifiedName) : String :=
  match n.parts.getLast? with
  | some i => stripQuotes i.render
  | none => ""

end RowShape.Sql
