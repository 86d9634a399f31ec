import RowShape.Error
import RowShape.Schema.Document

/-!
# Registries

The documents that have been stored so far, each under its own identifier.  A document replaces the
one that was there before it.

## Main definitions

* `Registry`: documents by identifier.
* `Registry.insert`, `Registry.get?`: storing and looking up a document.
* `Registry.require`: looking up a document that has to be there.

## Main results

* `Registry.get?_insert`: what is found after a document has been stored.
* `Registry.id_of_get?`: a document is found under its own identifier only.
-/

namespace RowShape

/-- Documents by their identifiers. -/
structure Registry where
  /-- The documents, in the order in which their identifiers came. -/
  documents : OrderedMap SchemaDocument
  keyed : ∀ e ∈ documents.entries, e.2.id = e.1

namespace Registry

/-- The registry without documents. -/
def empty : Registry := ⟨.empty, by simp [OrderedMap.empty]⟩

instance : Inhabited Registry := ⟨empty⟩

private theorem keyed_putEntry {d : SchemaDocument} {es : List (String × SchemaDocument)}
    (h : ∀ e ∈ es, e.2.id = e.1) : ∀ e ∈ putEntry d.id d es, e.2.id = e.1 := by
  induction es with
  | nil => simp [putEntry]
  | cons e es ih => grind [putEntry]

/-- Stores a document under its identifier. -/
def insert (r : Registry) (d : SchemaDocument) : Registry :=
  ⟨r.documents.insert d.id d, keyed_putEntry r.keyed⟩

/-- The document under an identifier. -/
def get? (r : Registry) (id : String) : Option SchemaDocument := r.documents.get? id

/-- There is a document under an identifier. -/
def contains (r : Registry) (id : String) : Bool := r.documents.contains id

/-- The number of documents. -/
def size (r : Registry) : Nat := r.documents.size

/-- There are no documents. -/
def isEmpty (r : Registry) : Bool := r.documents.isEmpty

/-- The document under an identifier, which has to be there. -/
def require (r : Registry) (id : String) : Except Error SchemaDocument :=
  match r.get? id with
  | some d => .ok d
  | none => .error (.schemaNotFound id)

/-- What the document under an identifier says about a column. -/
def property? (r : Registry) (id name : String) : Option PropertySchema :=
  (r.get? id).bind (·.property? name)

@[simp] theorem get?_empty (id : String) : empty.get? id = none := rfl

theorem get?_insert (r : Registry) (d : SchemaDocument) (id : String) :
    (r.insert d).get? id = if id = d.id then some d else r.get? id :=
  OrderedMap.get?_insert r.documents d.id id d

/-- A document is found under its own identifier only. -/
theorem id_of_get? {r : Registry} {id : String} {d : SchemaDocument} (h : r.get? id = some d) :
    d.id = id := by
  have mem : (id, d) ∈ r.documents.entries := by
    obtain ⟨before, after, heq, _⟩ := List.lookup_eq_some_iff.1 h
    simp [heq]
  exact r.keyed _ mem

end Registry

end RowShape
