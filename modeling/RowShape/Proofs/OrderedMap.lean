import RowShape.OrderedMap
import Mathlib.Data.List.Induction
import Mathlib.Data.List.Nodup

/-!
# Ordered maps by look-up

The entries of an ordered map are its look-ups in the order of its keys: an entry stands in the map
exactly if its key is looked up as its value, and two maps with the same keys in the same order and
the same look-ups are equal.

## Main results

* `OrderedMap.mem_entries_iff`: entries are look-ups
* `OrderedMap.ext_get?`: equal keys and equal look-ups make equal maps
* `OrderedMap.get?_foldl_insert`: of several writes to one key the last one is read
* `OrderedMap.keys_foldl_insert`: keys stand where they are first written
* `OrderedMap.keepsLast_ofList`: both at once
-/

namespace RowShape

variable {α : Type}

/-! ### Lists of entries -/

/-- In a list of entries with distinct keys, every entry is what its key is looked up as. -/
theorem mem_iff_lookup_eq_some {es : List (String × α)} (h : (es.map (·.1)).Nodup) {key : String}
    {value : α} : (key, value) ∈ es ↔ es.lookup key = some value := by
  induction es with
  | nil => simp
  | cons e es ih =>
    obtain ⟨k, v⟩ := e
    rw [List.map_cons, List.nodup_cons] at h
    rw [List.lookup_cons, List.mem_cons]
    by_cases hk : key = k
    · subst hk
      have absent : (key, value) ∉ es := fun hm => h.1 (List.mem_map_of_mem (f := (·.1)) hm)
      simp [absent, eq_comm]
    · have hb : (key == k) = false := by simpa using hk
      simp [hb, hk, ih h.2]

theorem lookup_eq_none_of_not_mem {es : List (String × α)} {key : String}
    (h : key ∉ es.map (·.1)) : es.lookup key = none := by
  rw [List.lookup_eq_none_iff]
  intro e he
  refine bne_iff_ne.mpr fun heq => h ?_
  rw [heq]
  exact List.mem_map_of_mem he

/-- Entries are found again if their keys are mapped to others. -/
theorem lookup_map_keys (g : String → String) {es : List (String × α)} {key : String}
    (hg : ∀ e ∈ es, g e.1 = g key → e.1 = key) :
    (es.map fun e => (g e.1, e.2)).lookup (g key) = es.lookup key := by
  induction es with
  | nil => rfl
  | cons e es ih =>
    obtain ⟨first, rest⟩ := List.forall_mem_cons.mp hg
    rw [List.map_cons, List.lookup_cons, List.lookup_cons, ih rest]
    by_cases same : e.1 = key
    · simp [same]
    · have other : g e.1 ≠ g key := fun h => same (first h)
      rw [beq_false_of_ne (Ne.symm same), beq_false_of_ne (Ne.symm other)]

/-- Two lists of entries with the same distinct keys and the same look-ups are equal. -/
theorem eq_of_lookup_eq {es fs : List (String × α)} (h : (es.map (·.1)).Nodup)
    (hk : es.map (·.1) = fs.map (·.1)) (hl : ∀ key, es.lookup key = fs.lookup key) : es = fs := by
  induction es generalizing fs with
  | nil => exact (List.map_eq_nil_iff.mp hk.symm).symm
  | cons e es ih =>
    obtain _ | ⟨f, fs⟩ := fs
    · simp at hk
    obtain ⟨k, v⟩ := e
    obtain ⟨k', v'⟩ := f
    obtain ⟨rfl, hks⟩ : k = k' ∧ es.map (·.1) = fs.map (·.1) := by simpa using hk
    rw [List.map_cons, List.nodup_cons] at h
    have head : v = v' := by simpa using hl k
    have tail : es = fs := by
      refine ih h.2 hks fun key => ?_
      by_cases hne : key = k
      · -- the key of the first entry stands in neither rest
        subst hne
        rw [lookup_eq_none_of_not_mem h.1, lookup_eq_none_of_not_mem (hks ▸ h.1)]
      · have hb : (key == k) = false := by simpa using hne
        simpa [List.lookup_cons, hb] using hl key
    rw [head, tail]

theorem putEntry_of_not_mem {es : List (String × α)} {key : String} (h : key ∉ es.map (·.1))
    (value : α) : putEntry key value es = es ++ [(key, value)] := by
  induction es with
  | nil => rfl
  | cons e es ih =>
    rw [List.map_cons, List.mem_cons, not_or] at h
    rw [putEntry, if_neg (Ne.symm h.1), ih h.2, List.cons_append]

/-! ### First occurrences -/

section FirstOccurrences

variable {β : Type} [DecidableEq β]

/-- A name that comes again is not listed again. -/
theorem eraseDups_concat (xs : List β) (x : β) :
    (xs ++ [x]).eraseDups = if x ∈ xs then xs.eraseDups else xs.eraseDups ++ [x] := by
  rw [List.eraseDups_append]
  by_cases h : x ∈ xs <;> simp [h, List.removeAll, List.eraseDups_cons]

theorem nodup_eraseDups (xs : List β) : xs.eraseDups.Nodup := by
  induction xs using List.reverseRecOn with
  | nil => simp
  | append_singleton xs x ih =>
    rw [eraseDups_concat]
    split
    · exact ih
    · next absent =>
      refine List.nodup_append.mpr ⟨ih, List.nodup_singleton x, ?_⟩
      rintro a ha b hb rfl
      rw [List.mem_singleton.mp hb, List.mem_eraseDups] at ha
      exact absent ha

end FirstOccurrences

/-! ### Last occurrences -/

section LastOccurrences

variable {β : Type} {key : β → String} {xs : List β} {x : β}

/-- The last element with a key stands in the list and has the key. -/
theorem mem_of_findRev?_key {k : String} (h : xs.findRev? (key · == k) = some x) :
    x ∈ xs ∧ key x = k := by
  rw [List.findRev?_eq_find?_reverse] at h
  exact ⟨List.mem_reverse.mp (List.mem_of_find?_eq_some h), by simpa using List.find?_some h⟩

/-- Of the elements with a key there is a last one, if there is any. -/
theorem exists_findRev?_key (hx : x ∈ xs) : ∃ y, xs.findRev? (key · == key x) = some y := by
  have found : (xs.findRev? (key · == key x)).isSome := by
    simpa using ⟨x, hx, rfl⟩
  exact Option.isSome_iff_exists.mp found

end LastOccurrences

/-! ### Parts -/

/-- A part of a list in which nothing comes twice is what the list has in common with it. -/
theorem eq_filter_of_sublist {p : α → Bool} {xs ys : List α} (h : xs.Sublist ys) (once : ys.Nodup)
    (hp : ∀ y ∈ ys, y ∈ xs ↔ p y) : xs = ys.filter p := by
  have inside : xs.filter p = xs :=
    List.filter_eq_self.mpr fun x hx => (hp x (h.subset hx)).mp hx
  have part : xs.Sublist (ys.filter p) := inside ▸ h.filter p
  refine part.eq_of_length (List.Perm.length_eq ?_)
  refine (List.perm_ext_iff_of_nodup (once.sublist h) (once.filter p)).mpr fun y => ?_
  rw [List.mem_filter]
  constructor
  · intro hy
    exact ⟨h.subset hy, (hp y (h.subset hy)).mp hy⟩
  · rintro ⟨hy, py⟩
    exact (hp y hy).mpr py

/-! ### Maps -/

namespace OrderedMap

/-- An entry stands in a map exactly if its key is looked up as its value. -/
theorem mem_entries_iff {m : OrderedMap α} {key : String} {value : α} :
    (key, value) ∈ m.entries ↔ m.get? key = some value :=
  mem_iff_lookup_eq_some m.distinct

theorem mem_keys_of_get? {m : OrderedMap α} {key : String} {value : α}
    (h : m.get? key = some value) : key ∈ m.keys :=
  List.mem_map_of_mem (f := (·.1)) (mem_entries_iff.mpr h)

/-- A key that is not looked up as anything is none of the keys. -/
theorem get?_eq_none_iff {m : OrderedMap α} {key : String} : m.get? key = none ↔ key ∉ m.keys := by
  constructor
  · intro h hk
    obtain ⟨e, he, rfl⟩ := List.mem_map.mp hk
    have found : m.get? e.1 = some e.2 := mem_entries_iff.mp he
    rw [found] at h
    cases h
  · exact lookup_eq_none_of_not_mem

/-- Maps with the same keys in the same order and the same look-ups are equal. -/
theorem ext_get? {m n : OrderedMap α} (hk : m.keys = n.keys) (hg : ∀ key, m.get? key = n.get? key) :
    m = n :=
  OrderedMap.ext (eq_of_lookup_eq m.distinct hk hg)

/-- Maps with the same entries in another order look everything up alike. -/
theorem get?_eq_of_perm {m n : OrderedMap α} (h : m.entries.Perm n.entries) (key : String) :
    m.get? key = n.get? key := by
  refine Option.ext fun value => ?_
  rw [← mem_entries_iff, ← mem_entries_iff]
  exact h.mem_iff

/-! ### Several writes -/

/-- Of two writes to a key the second one stays. -/
theorem insert_insert (m : OrderedMap α) (key : String) (value other : α) :
    (m.insert key value).insert key other = m.insert key other := by
  refine ext_get? ?_ fun k => ?_
  · have written : key ∈ (m.insert key value).keys := by
      rw [keys_insert]
      split <;> simp [*]
    rw [keys_insert, if_pos written, keys_insert, keys_insert]
  · rw [get?_insert, get?_insert, get?_insert]
    split <;> rfl

/-- Writing what is there changes nothing. -/
theorem insert_eq_self_iff {m : OrderedMap α} {key : String} {value : α} :
    m.insert key value = m ↔ m.get? key = some value := by
  constructor
  · intro h
    rw [← h, get?_insert, if_pos rfl]
  · intro h
    refine ext_get? ?_ fun other => ?_
    · rw [keys_insert, if_pos (mem_keys_of_get? h)]
    · rw [get?_insert]
      split
      · next same => rw [same, h]
      · rfl

theorem insert_entries {m : OrderedMap α} {key : String} (h : key ∉ m.keys) (value : α) :
    (m.insert key value).entries = m.entries ++ [(key, value)] :=
  putEntry_of_not_mem h value

/-- Entries whose keys are new are added at the end. -/
theorem entries_foldl_insert {es : List (String × α)} (m : OrderedMap α)
    (h : (m.keys ++ es.map (·.1)).Nodup) :
    (es.foldl (fun m e => m.insert e.1 e.2) m).entries = m.entries ++ es := by
  induction es generalizing m with
  | nil => exact (List.append_nil _).symm
  | cons e es ih =>
    have absent : e.1 ∉ m.keys := fun he =>
      (List.nodup_append.mp h).2.2 _ he _ List.mem_cons_self rfl
    have keys : (m.insert e.1 e.2).keys = m.keys ++ [e.1] := by
      rw [keys_insert, if_neg absent]
    rw [List.foldl_cons, ih, insert_entries absent, List.append_assoc, List.singleton_append]
    rw [keys, List.append_assoc]
    exact h

/-- A map is what is written by its entries, one after another. -/
theorem foldl_insert_entries (m : OrderedMap α) :
    m.entries.foldl (fun m e => m.insert e.1 e.2) empty = m :=
  OrderedMap.ext ((entries_foldl_insert empty m.distinct).trans (List.nil_append _))

theorem ofList_entries (m : OrderedMap α) : ofList m.entries = m := foldl_insert_entries m

variable {β : Type} {key : β → String} {value : β → α}

/-- **Of several writes to one key the last one is read**, and a key that is not written reads as
before. -/
theorem get?_foldl_insert (xs : List β) (m : OrderedMap α) (k : String) :
    (xs.foldl (fun m x => m.insert (key x) (value x)) m).get? k =
      ((xs.findRev? (key · == k)).map value).or (m.get? k) := by
  induction xs generalizing m with
  | nil => rfl
  | cons x xs ih =>
    rw [List.foldl_cons, ih, get?_insert, List.findRev?]
    cases xs.findRev? (key · == k) with
    | some y => simp
    | none =>
      by_cases h : key x = k
      · simp [h]
      · simp [h, Ne.symm h]

/-- **The keys of a map that is written stand where they are first written.** -/
theorem keys_foldl_insert (xs : List β) :
    (xs.foldl (fun m x => m.insert (key x) (value x)) empty).keys = (xs.map key).eraseDups := by
  induction xs using List.reverseRecOn with
  | nil => rfl
  | append_singleton xs x ih =>
    rw [List.foldl_append, List.foldl_cons, List.foldl_nil, keys_insert, ih, List.map_append,
      List.map_cons, List.map_nil, eraseDups_concat]
    simp only [List.mem_eraseDups]

/-- What is read after several writes to an empty map was written by one of them. -/
theorem exists_of_get?_foldl_insert {xs : List β} {k : String} {v : α}
    (h : (xs.foldl (fun m x => m.insert (key x) (value x)) empty).get? k = some v) :
    ∃ x ∈ xs, key x = k ∧ value x = v := by
  rw [get?_foldl_insert, get?_empty, Option.or_none, Option.map_eq_some_iff] at h
  obtain ⟨x, hx, hv⟩ := h
  obtain ⟨hmem, hkey⟩ := mem_of_findRev?_key hx
  exact ⟨x, hmem, hkey, hv⟩

/-- **The map of what is written one after another**: keys stand where they come first, each with
its last value.  `same` says which values stand for what is written. -/
structure KeepsLast {β : Type} (same : β → α → Prop) (es : List (String × β)) (m : OrderedMap α) :
    Prop where
  keys : m.keys = (es.map (·.1)).eraseDups
  values : ∀ before key b after, es = before ++ (key, b) :: after → key ∉ after.map (·.1) →
    ∃ value, m.get? key = some value ∧ same b value

/-- A map of a list of entries is what the list writes. -/
theorem keepsLast_ofList {β : Type} {same : β → α → Prop} (f : β → α) (h : ∀ b, same b (f b))
    (es : List (String × β)) : KeepsLast same es (ofList (es.map fun e => (e.1, f e.2))) := by
  rw [ofList, List.foldl_map]
  refine ⟨keys_foldl_insert es, ?_⟩
  rintro before key b after rfl absent
  have behind : after.findRev? (·.1 == key) = none := by
    rw [List.findRev?_eq_find?_reverse, List.find?_eq_none]
    intro e he same
    rw [← beq_iff_eq.mp same] at absent
    exact absent (List.mem_map_of_mem (List.mem_reverse.mp he))
  rw [List.foldl_append, List.foldl_cons, get?_foldl_insert, behind, get?_insert, if_pos rfl]
  exact ⟨f b, rfl, h b⟩

theorem keepsLast_eq_ofList (es : List (String × α)) : KeepsLast Eq es (ofList es) := by
  simpa using keepsLast_ofList id (fun _ => rfl) es

theorem isSome_get?_foldl_insert {xs : List β} {x : β} (hx : x ∈ xs) (m : OrderedMap α) :
    ((xs.foldl (fun m x => m.insert (key x) (value x)) m).get? (key x)).isSome := by
  obtain ⟨y, hy⟩ : ∃ y, xs.findRev? (key · == key x) = some y := exists_findRev?_key hx
  rw [get?_foldl_insert, hy, Option.map_some, Option.some_or]
  rfl

end OrderedMap

end RowShape
