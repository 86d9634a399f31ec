import RowShape.Proofs.OrderedMap
import RowShape.Schema.Registry

/-!
# Registries after several documents

Documents are stored one after another, and of several documents with one identifier the last one
stays.  What a registry held before shows only under the identifiers that none of them has.

## Main definitions

* `Registry.insertAll`: storing documents one after another
* `Registry.AgreeOn`: two registries that hold the same documents under some identifiers
* `Registry.Same`: two registries that hold the same documents

## Main results

* `Registry.get?_insertAll`: what is found after documents have been stored
* `Registry.insertAll_insertAll`: storing the same documents again changes nothing
* `Registry.agreeOn_insertAll`: stored documents hide what was there before them
* `Registry.same_insertAll_of_perm`: the order in which documents are stored does not matter if all
  have identifiers of their own
-/

namespace RowShape

namespace Registry

/-- Stores documents one after another. -/
def insertAll (r : Registry) (ds : List SchemaDocument) : Registry := ds.foldl insert r

@[simp] theorem insertAll_cons (r : Registry) (d : SchemaDocument) (ds : List SchemaDocument) :
    r.insertAll (d :: ds) = (r.insert d).insertAll ds := rfl

theorem insertAll_append (r : Registry) (ds es : List SchemaDocument) :
    r.insertAll (ds ++ es) = (r.insertAll ds).insertAll es := by
  simp only [insertAll, List.foldl_append]

theorem documents_insertAll (r : Registry) (ds : List SchemaDocument) :
    (r.insertAll ds).documents = ds.foldl (fun m d => m.insert d.id d) r.documents := by
  induction ds generalizing r with
  | nil => rfl
  | cons d ds ih => exact ih (r.insert d)

/-- **What is found after documents have been stored**: the last one with the identifier, or what
was there before if there is none. -/
theorem get?_insertAll (r : Registry) (ds : List SchemaDocument) (id : String) :
    (r.insertAll ds).get? id = (ds.findRev? (·.id == id)).or (r.get? id) := by
  rw [get?, documents_insertAll, OrderedMap.get?_foldl_insert, Option.map_id']
  rfl

theorem get?_insertAll_of_ne {r : Registry} {ds : List SchemaDocument} {id : String}
    (h : ∀ d ∈ ds, d.id ≠ id) : (r.insertAll ds).get? id = r.get? id := by
  have none : ds.findRev? (·.id == id) = none := by
    simpa using h
  rw [get?_insertAll, none, Option.none_or]

/-- Under the identifier of a stored document, one of the stored documents is found. -/
theorem exists_get?_insertAll {ds : List SchemaDocument} {id : String} (h : ∃ d ∈ ds, d.id = id) :
    ∃ e ∈ ds, e.id = id ∧ ∀ r : Registry, (r.insertAll ds).get? id = some e := by
  obtain ⟨d, hd, rfl⟩ := h
  obtain ⟨e, last⟩ : ∃ e, ds.findRev? (·.id == d.id) = some e := exists_findRev?_key hd
  obtain ⟨he, hid⟩ := mem_of_findRev?_key last
  refine ⟨e, he, hid, fun r => ?_⟩
  rw [get?_insertAll, last, Option.some_or]

/-! ### Storing again -/

theorem eq_of_documents_eq {r s : Registry} (h : r.documents = s.documents) : r = s := by
  cases r
  cases s
  cases h
  rfl

theorem id_mem_keys_insertAll (r : Registry) (ds : List SchemaDocument) {d : SchemaDocument}
    (hd : d ∈ ds) : d.id ∈ (r.insertAll ds).documents.keys := by
  obtain ⟨e, _, _, found⟩ := exists_get?_insertAll ⟨d, hd, rfl⟩
  exact OrderedMap.mem_keys_of_get? (found r)

/-- Documents whose identifiers are known already add no identifier. -/
theorem keys_insertAll_of_mem {r : Registry} {ds : List SchemaDocument}
    (h : ∀ d ∈ ds, d.id ∈ r.documents.keys) :
    (r.insertAll ds).documents.keys = r.documents.keys := by
  induction ds generalizing r with
  | nil => rfl
  | cons d ds ih =>
    have first : (r.insert d).documents.keys = r.documents.keys := by
      rw [insert, OrderedMap.keys_insert, if_pos (h d List.mem_cons_self)]
    rw [insertAll_cons, ih, first]
    intro e he
    rw [first]
    exact h e (List.mem_cons_of_mem _ he)

/-- **Storing the same documents again changes nothing**, not even their order. -/
theorem insertAll_insertAll (r : Registry) (ds : List SchemaDocument) :
    (r.insertAll ds).insertAll ds = r.insertAll ds := by
  refine eq_of_documents_eq (OrderedMap.ext_get? ?_ fun id => ?_)
  · exact keys_insertAll_of_mem fun d hd => id_mem_keys_insertAll r ds hd
  · change ((r.insertAll ds).insertAll ds).get? id = (r.insertAll ds).get? id
    rw [get?_insertAll (r.insertAll ds), get?_insertAll r]
    cases ds.findRev? (·.id == id) <;> rfl

/-! ### Agreement -/

/-- Two registries hold the same documents under the identifiers of a set. -/
def AgreeOn (ids : Set String) (r s : Registry) : Prop := ∀ id ∈ ids, r.get? id = s.get? id

variable {ids : Set String} {r s : Registry}

theorem AgreeOn.symm (h : AgreeOn ids r s) : AgreeOn ids s r := fun id hid => (h id hid).symm

theorem AgreeOn.trans {t : Registry} (h : AgreeOn ids r s) (h' : AgreeOn ids s t) :
    AgreeOn ids r t := fun id hid => (h id hid).trans (h' id hid)

/-- Registries that agree still do so after both have stored a document. -/
theorem AgreeOn.insert (h : AgreeOn ids r s) (d : SchemaDocument) :
    AgreeOn ids (r.insert d) (s.insert d) := by
  intro id hid
  rw [get?_insert, get?_insert, h id hid]

/-- Registries that agree still do so after both have stored some documents. -/
theorem AgreeOn.insertAll (h : AgreeOn ids r s) (ds : List SchemaDocument) :
    AgreeOn ids (r.insertAll ds) (s.insertAll ds) := by
  induction ds generalizing r s with
  | nil => exact h
  | cons d ds ih => exact ih (h.insert d)

/-- Where a document has another identifier, storing it changes nothing. -/
theorem agreeOn_insert_of_notMem {d : SchemaDocument} (h : d.id ∉ ids) (r : Registry) :
    AgreeOn ids (r.insert d) r := by
  intro id hid
  rw [get?_insert, if_neg]
  rintro rfl
  exact h hid

/-- Another document with the same identifier, at the same place among those that are stored, shows
under this identifier only. -/
theorem agreeOn_insertAll_set {ds : List SchemaDocument} {i : Nat} {d e : SchemaDocument}
    (hi : ds[i]? = some d) (hid : e.id = d.id) (r : Registry) :
    AgreeOn {id | id ≠ d.id} (r.insertAll ds) (r.insertAll (ds.set i e)) := by
  obtain ⟨hlt, rfl⟩ := List.getElem?_eq_some_iff.mp hi
  obtain ⟨before, after, split, -, split'⟩ : ∃ before after, ds = before ++ ds[i] :: after ∧
      before.length = i ∧ ds.set i e = before ++ e :: after := List.exists_of_set hlt
  generalize ds[i] = d at *
  rw [split', split, insertAll_append, insertAll_append, insertAll_cons, insertAll_cons]
  -- both are stored under the identifier that is left out
  have own : d.id ∉ {id | id ≠ d.id} := fun h => h rfl
  refine AgreeOn.insertAll ?_ after
  exact (agreeOn_insert_of_notMem own _).trans (agreeOn_insert_of_notMem (hid ▸ own) _).symm

/-- **Stored documents hide what was there before them**: under their identifiers all registries
agree. -/
theorem agreeOn_insertAll (ds : List SchemaDocument) (r s : Registry) :
    AgreeOn {id | ∃ d ∈ ds, d.id = id} (r.insertAll ds) (s.insertAll ds) := by
  intro id hid
  obtain ⟨e, _, _, found⟩ := exists_get?_insertAll hid
  rw [found r, found s]

/-! ### The order of storing -/

/-- Two registries hold the same documents, in whatever order these have come. -/
def Same (r s : Registry) : Prop := r.documents.entries.Perm s.documents.entries

/-- Registries in which the same is found under every identifier hold the same documents. -/
theorem same_of_get?_eq (h : ∀ id, r.get? id = s.get? id) : r.Same s := by
  have once (m : OrderedMap SchemaDocument) : m.entries.Nodup := m.distinct.of_map
  refine (List.perm_ext_iff_of_nodup (once _) (once _)).mpr ?_
  rintro ⟨id, d⟩
  rw [OrderedMap.mem_entries_iff, OrderedMap.mem_entries_iff]
  change r.get? id = some d ↔ s.get? id = some d
  rw [h id]

/-- Among documents with distinct identifiers, each is found under its own. -/
theorem get?_insertAll_of_mem {ds : List SchemaDocument} (distinct : (ds.map (·.id)).Nodup)
    {d : SchemaDocument} (hd : d ∈ ds) (r : Registry) : (r.insertAll ds).get? d.id = some d := by
  obtain ⟨e, he, hid, found⟩ := exists_get?_insertAll ⟨d, hd, rfl⟩
  obtain rfl : e = d := List.inj_on_of_nodup_map distinct he hd hid
  exact found r

/-- **The order in which documents are stored does not matter** if their identifiers are
distinct. -/
theorem same_insertAll_of_perm {ds es : List SchemaDocument} (perm : ds.Perm es)
    (distinct : (es.map (·.id)).Nodup) (r : Registry) :
    (r.insertAll ds).Same (r.insertAll es) := by
  refine same_of_get?_eq fun id => ?_
  by_cases h : ∃ d ∈ es, d.id = id
  · obtain ⟨d, hd, rfl⟩ := h
    have distinct' : (ds.map (·.id)).Nodup := (perm.map _).nodup_iff.mpr distinct
    rw [get?_insertAll_of_mem distinct hd, get?_insertAll_of_mem distinct' (perm.mem_iff.mpr hd)]
  · -- neither list has the identifier, so both registries are as before
    have absent : ∀ d ∈ es, d.id ≠ id := fun d hd heq => h ⟨d, hd, heq⟩
    rw [get?_insertAll_of_ne absent, get?_insertAll_of_ne fun d hd => absent d (perm.mem_iff.mp hd)]

end Registry

end RowShape
