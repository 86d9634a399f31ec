/-!
# Ordered maps

Maps from names to values that remember in which order the names came.  A name that is given
another value keeps its place.

## Main definitions

* `OrderedMap`: entries with distinct keys.
* `OrderedMap.insert`, `OrderedMap.get?`: writing and reading a value.
* `OrderedMap.ofList`: the map of a list of entries; of several for one key the last one counts.
* `OrderedMap.sameEntries`: equality up to the order of the entries.

## Main results

* `OrderedMap.get?_insert`: what is read after a write.
* `OrderedMap.keys_insert`: a write adds its key at the end, or leaves the keys alone.
-/

namespace RowShape

variable {α β : Type}

/-! ### Lists of entries -/

/-- Gives a key a value: at its place if it has one, at the end otherwise. -/
def putEntry (key : String) (value : α) : List (String × α) → List (String × α)
  | [] => [(key, value)]
  | e :: rest => if e.1 = key then (key, value) :: rest else e :: putEntry key value rest

theorem lookup_putEntry (key other : String) (value : α) (es : List (String × α)) :
    (putEntry key value es).lookup other = if other = key then some value else es.lookup other := by
  induction es with
  | nil => by_cases h : other = key <;> simp [putEntry, h]
  | cons e es ih => grind [putEntry]

theorem keys_putEntry (key : String) (value : α) (es : List (String × α)) :
    (putEntry key value es).map (·.1) =
      if key ∈ es.map (·.1) then es.map (·.1) else es.map (·.1) ++ [key] := by
  induction es with
  | nil => simp [putEntry]
  | cons e es ih => grind [putEntry]

/-- A write keeps the keys distinct. -/
theorem nodup_putEntry {key : String} {value : α} {es : List (String × α)}
    (h : (es.map (·.1)).Nodup) : ((putEntry key value es).map (·.1)).Nodup := by
  rw [keys_putEntry]
  split
  · exact h
  · next absent => exact List.nodup_append.2 ⟨h, by simp, by grind⟩

/-! ### Maps -/

/-- A map whose entries stand in the order in which their keys came. -/
structure OrderedMap (α : Type) where
  /-- The keys with their values. -/
  entries : List (String × α)
  distinct : (entries.map (·.1)).Nodup
  deriving DecidableEq

namespace OrderedMap

/-- The map without entries. -/
def empty : OrderedMap α := ⟨[], List.nodup_nil⟩

instance : Inhabited (OrderedMap α) := ⟨empty⟩

/-- Gives a key a value. -/
def insert (m : OrderedMap α) (key : String) (value : α) : OrderedMap α :=
  ⟨putEntry key value m.entries, nodup_putEntry m.distinct⟩

/-- The value of a key. -/
def get? (m : OrderedMap α) (key : String) : Option α := m.entries.lookup key

/-- The key has a value. -/
def contains (m : OrderedMap α) (key : String) : Bool := (m.get? key).isSome

/-- The keys in their order. -/
def keys (m : OrderedMap α) : List String := m.entries.map (·.1)

/-- The number of entries. -/
def size (m : OrderedMap α) : Nat := m.entries.length

/-- There is no entry. -/
def isEmpty (m : OrderedMap α) : Bool := m.entries.isEmpty

/-- The map of a list of entries: keys in the order in which they first occur, each with the value
it has last. -/
def ofList (es : List (String × α)) : OrderedMap α :=
  es.foldl (fun m e => m.insert e.1 e.2) empty

/-- Two maps have the same keys with values that are the same, in whatever order. -/
def sameEntries (same : α → β → Bool) (m : OrderedMap α) (n : OrderedMap β) : Bool :=
  m.size == n.size && m.entries.all fun e => (n.get? e.1).any (same e.2)

/-! ### Reading after writing -/

@[ext] theorem ext {m n : OrderedMap α} (h : m.entries = n.entries) : m = n := by
  cases m; cases n; cases h; rfl

@[simp] theorem get?_empty (key : String) : (empty : OrderedMap α).get? key = none := rfl

theorem get?_insert (m : OrderedMap α) (key other : String) (value : α) :
    (m.insert key value).get? other = if other = key then some value else m.get? other :=
  lookup_putEntry key other value m.entries

theorem keys_insert (m : OrderedMap α) (key : String) (value : α) :
    (m.insert key value).keys = if key ∈ m.keys then m.keys else m.keys ++ [key] :=
  keys_putEntry key value m.entries

end OrderedMap

end RowShape
