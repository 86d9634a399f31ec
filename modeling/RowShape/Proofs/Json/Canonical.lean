import RowShape.Json.Value
import Mathlib.Data.List.Sort
import Mathlib.Data.String.Basic

/-!
# The canonical form of JSON values

In canonical form the members of every object stand in the order of their names, each once.  Members
are looked up in it as before: what stands under a name is the canonical form of the last value with
this name, and an object has no other members.

## Main results

* `lastValue?_sortMembers`: sorting keeps what is looked up
* `sortMembers_eq_iff`: sorted members are determined by what is looked up
* `mem_canonical_members_iff`: the members of a canonical object are what was looked up before
* `member?_canonical`: members of canonical values
-/

namespace RowShape.Json

/-! ### Members in the order of their names -/

/-- The names increase. -/
def Increasing (members : List (String × Json)) : Prop := members.Pairwise (·.1 < ·.1)

variable {members : List (String × Json)} {name other : String} {value : Json}

theorem lastValue?_cons (m : String × Json) (rest : List (String × Json)) (name : String) :
    lastValue? name (m :: rest) =
      (lastValue? name rest).or (if m.1 = name then some m.2 else none) := by
  rw [lastValue?]
  cases lastValue? name rest <;> rfl

theorem mem_of_lastValue? (h : lastValue? name members = some value) : (name, value) ∈ members := by
  induction members with
  | nil => cases h
  | cons m rest ih =>
    rw [lastValue?_cons, Option.or_eq_some_iff] at h
    rcases h with h | ⟨-, h⟩
    · exact List.mem_cons_of_mem _ (ih h)
    · obtain ⟨rfl, rfl⟩ : m.1 = name ∧ m.2 = value := by simpa using h
      exact List.mem_cons_self

theorem lastValue?_eq_none_iff : lastValue? name members = none ↔ ∀ m ∈ members, m.1 ≠ name := by
  induction members with
  | nil => simp [lastValue?]
  | cons m rest ih => simp [lastValue?_cons, ih, and_comm]

theorem lastValue?_append (before after : List (String × Json)) (name : String) :
    lastValue? name (before ++ after) = (lastValue? name after).or (lastValue? name before) := by
  induction before with
  | nil => simp [lastValue?]
  | cons m rest ih => rw [List.cons_append, lastValue?_cons, ih, lastValue?_cons, Option.or_assoc]

/-- If the names increase, no name is hidden by a later one. -/
theorem lastValue?_of_mem (hm : Increasing members) (h : (name, value) ∈ members) :
    lastValue? name members = some value := by
  induction members with
  | nil => cases h
  | cons m rest ih =>
    obtain ⟨first, tail⟩ := List.pairwise_cons.mp hm
    rw [lastValue?_cons]
    rcases List.mem_cons.mp h with rfl | h
    · have absent : lastValue? name rest = none :=
        lastValue?_eq_none_iff.mpr fun m hr => (first m hr).ne'
      rw [absent, if_pos rfl, Option.none_or]
    · rw [ih tail h, Option.some_or]

theorem mem_putMember {m : String × Json} (h : m ∈ putMember name value members) :
    m = (name, value) ∨ m ∈ members := by
  induction members with
  | nil => exact .inl (List.mem_singleton.mp h)
  | cons first rest ih =>
    rw [putMember] at h
    split_ifs at h
    · exact (List.mem_cons.mp h).imp_right (List.mem_cons_of_mem _)
    · exact List.mem_cons.mp h
    · rcases List.mem_cons.mp h with rfl | h
      · exact .inr List.mem_cons_self
      · exact (ih h).imp_right (List.mem_cons_of_mem _)

/-- A member that is put at its place keeps the order. -/
theorem Increasing.putMember (h : Increasing members) (name : String) (value : Json) :
    Increasing (putMember name value members) := by
  induction members with
  | nil => exact List.pairwise_singleton _ _
  | cons m rest ih =>
    obtain ⟨first, tail⟩ := List.pairwise_cons.mp h
    rw [Json.putMember]
    split_ifs with heq hlt
    · -- the member takes the place of another with its name
      exact List.pairwise_cons.mpr ⟨fun m' hm => heq ▸ first m' hm, tail⟩
    · refine List.pairwise_cons.mpr ⟨fun m' hm => ?_, h⟩
      rcases List.mem_cons.mp hm with rfl | hm
      · exact hlt
      · exact hlt.trans (first m' hm)
    · refine List.pairwise_cons.mpr ⟨fun m' hm => ?_, ih tail⟩
      rcases mem_putMember hm with rfl | hm
      · exact lt_of_le_of_ne (le_of_not_gt hlt) heq
      · exact first m' hm

/-- What is looked up after a member has been put at its place. -/
theorem lastValue?_putMember (h : Increasing members) :
    lastValue? other (putMember name value members) =
      if other = name then some value else lastValue? other members := by
  induction members with
  | nil => simp [putMember, lastValue?, eq_comm]
  | cons m rest ih =>
    obtain ⟨first, tail⟩ := List.pairwise_cons.mp h
    rw [putMember, lastValue?_cons]
    by_cases heq : m.1 = name
    · rw [if_pos heq, lastValue?_cons, heq]
      by_cases ho : other = name
      · subst ho
        have absent : lastValue? other rest = none :=
          lastValue?_eq_none_iff.mpr fun m' hm => heq ▸ (first m' hm).ne'
        simp [absent]
      · simp [ho, Ne.symm ho]
    rw [if_neg heq]
    by_cases hlt : name < m.1
    · rw [if_pos hlt, lastValue?_cons, lastValue?_cons]
      by_cases ho : other = name
      · subst ho
        -- all names from here on are larger
        have absent : lastValue? other rest = none :=
          lastValue?_eq_none_iff.mpr fun m' hm => (hlt.trans (first m' hm)).ne'
        simp [absent, heq]
      · simp [ho, Ne.symm ho]
    · rw [if_neg hlt, lastValue?_cons, ih tail]
      by_cases ho : other = name
      · simp [ho]
      · simp [ho]

theorem sortMembers_foldl (members : List (String × Json)) {sorted : List (String × Json)}
    (h : Increasing sorted) (name : String) :
    Increasing (members.foldl (fun sorted m => putMember m.1 m.2 sorted) sorted) ∧
      lastValue? name (members.foldl (fun sorted m => putMember m.1 m.2 sorted) sorted) =
        (lastValue? name members <|> lastValue? name sorted) := by
  induction members generalizing sorted with
  | nil => exact ⟨h, rfl⟩
  | cons m rest ih =>
    obtain ⟨increasing, found⟩ := ih (h.putMember m.1 m.2)
    refine ⟨increasing, ?_⟩
    rw [List.foldl_cons, found, lastValue?_putMember h, lastValue?_cons]
    cases lastValue? name rest with
    | some w => rfl
    | none => by_cases hm : name = m.1 <;> simp [hm, eq_comm]

/-- Sorted members have increasing names. -/
theorem increasing_sortMembers (members : List (String × Json)) :
    Increasing (sortMembers members) :=
  (sortMembers_foldl members List.Pairwise.nil "").1

/-- **Sorting keeps what is looked up.** -/
theorem lastValue?_sortMembers (members : List (String × Json)) (name : String) :
    lastValue? name (sortMembers members) = lastValue? name members := by
  rw [sortMembers, (sortMembers_foldl members List.Pairwise.nil name).2]
  cases lastValue? name members <;> rfl

/-- Sorted members are what was looked up before. -/
theorem mem_sortMembers_iff :
    (name, value) ∈ sortMembers members ↔ lastValue? name members = some value := by
  rw [← lastValue?_sortMembers]
  exact ⟨lastValue?_of_mem (increasing_sortMembers members), mem_of_lastValue?⟩

/-- **Sorted members are determined by what is looked up**, in whatever order they were given. -/
theorem sortMembers_eq_iff {others : List (String × Json)} :
    sortMembers members = sortMembers others ↔
      ∀ name, lastValue? name members = lastValue? name others := by
  constructor
  · intro h name
    rw [← lastValue?_sortMembers, h, lastValue?_sortMembers]
  · intro h
    have irreflexive : Std.Irrefl fun m n : String × Json => m.1 < n.1 := ⟨fun m => lt_irrefl m.1⟩
    have antisymmetric : Std.Antisymm fun m n : String × Json => m.1 < n.1 :=
      ⟨fun m n hlt hgt => absurd (hlt.trans hgt) (lt_irrefl m.1)⟩
    refine (increasing_sortMembers members).eq_of_mem_iff (increasing_sortMembers others) ?_
    rintro ⟨name, value⟩
    rw [mem_sortMembers_iff, mem_sortMembers_iff, h name]

/-! ### Canonical values -/

theorem canonicalItems_eq_map (items : List Json) : canonicalItems items = items.map canonical := by
  induction items with
  | nil => rfl
  | cons v rest ih => rw [canonicalItems, ih, List.map_cons]

theorem lastValue?_canonicalMembers (members : List (String × Json)) (name : String) :
    lastValue? name (canonicalMembers members) = (lastValue? name members).map canonical := by
  induction members with
  | nil => rfl
  | cons m rest ih =>
    obtain ⟨key, v⟩ := m
    rw [canonicalMembers, lastValue?_cons, lastValue?_cons, ih]
    cases lastValue? name rest with
    | some w => rfl
    | none => by_cases h : key = name <;> simp [h]

/-- **Members of canonical values** are the canonical forms of the members. -/
theorem member?_canonical (v : Json) (name : String) :
    v.canonical.member? name = (v.member? name).map canonical := by
  cases v with
  | object members =>
    change lastValue? name (sortMembers (canonicalMembers members)) = _
    rw [lastValue?_sortMembers, lastValue?_canonicalMembers]
    rfl
  | _ => rfl

/-- **The members of a canonical object** are the canonical forms of what is looked up in it. -/
theorem mem_canonical_members_iff :
    (name, value) ∈ sortMembers (canonicalMembers members) ↔
      ∃ v, lastValue? name members = some v ∧ v.canonical = value := by
  rw [mem_sortMembers_iff, lastValue?_canonicalMembers, Option.map_eq_some_iff]

/-- Objects have the same canonical form if the same is looked up in them. -/
theorem canonical_object_congr {others : List (String × Json)}
    (h : ∀ name, (lastValue? name members).map canonical = (lastValue? name others).map canonical) :
    (object members).canonical = (object others).canonical := by
  rw [canonical, canonical, object.injEq, sortMembers_eq_iff]
  intro name
  rw [lastValue?_canonicalMembers, lastValue?_canonicalMembers, h name]

end RowShape.Json
