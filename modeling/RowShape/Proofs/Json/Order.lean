import RowShape.Proofs.Json.RoundTrip
import Mathlib.Data.List.Pairwise

/-!
# The order of members

The members of an object may be written in any order, and so may those of the objects inside it.
What is read from a value is the same in every order if nothing that is read depends on it: for a
record, if none of its fields does, and if no field touches another one.

The members of an object are read one after another into a partial record.  Two members that stand
side by side may be swapped (`RecordFormat.Regular.decodeMember_swap`), so that by induction over a
permutation all of them may stand in any order (`RecordFormat.Regular.foldlM_decodeMember_perm`).

## Main definitions

* `Json.Reordered`: the same value with the members of its objects in another order
* `Decoder.OrderFree`: what is read does not depend on the order of members
* `Field.Regular`, `Field.Apart`, `RecordFormat.Regular`: what a field, two fields and a record need
  for this

## Main results

* `Json.reordered_object_iff`: the other orders of an object
* `Enumeration.orderFree_decode`, `RecordFormat.Regular.orderFree_decode`: enumerations and records
-/

namespace RowShape

/-- **The same value in another order**: the members of its objects may stand in any order, on every
level. -/
inductive Json.Reordered : Json → Json → Prop
  | same (v : Json) : Reordered v v
  | array {vs ws : List Json} (size : vs.length = ws.length)
      (each : ∀ p ∈ vs.zip ws, Reordered p.1 p.2) : Reordered (.array vs) (.array ws)
  | object {ms ns ns' : List (String × Json)} (size : ms.length = ns.length)
      (names : ∀ p ∈ ms.zip ns, p.1.1 = p.2.1) (each : ∀ p ∈ ms.zip ns, Reordered p.1.2 p.2.2)
      (order : ns.Perm ns') : Reordered (.object ms) (.object ns')

namespace Json

variable {σ α β : Type}

/-! ### Other orders of a value -/

/-- A member in another order: what belongs to its name is. -/
def ReorderedMember (m n : String × Json) : Prop := m.1 = n.1 ∧ m.2.Reordered n.2

theorem forall₂_reorderedMember_refl (ms : List (String × Json)) :
    List.Forall₂ ReorderedMember ms ms :=
  List.forall₂_same.mpr fun m _ => ⟨rfl, .same m.2⟩

/-- **The other orders of an object**: each value is reordered, and then the members are. -/
theorem reordered_object_iff {ms : List (String × Json)} {v : Json} :
    (object ms).Reordered v ↔
      ∃ ns ns', v = .object ns' ∧ List.Forall₂ ReorderedMember ms ns ∧ ns.Perm ns' := by
  constructor
  · intro h
    cases h with
    | same => exact ⟨ms, ms, rfl, forall₂_reorderedMember_refl ms, .refl ms⟩
    | object size names each order =>
      exact ⟨_, _, rfl, List.forall₂_iff_zip.mpr ⟨size, fun h => ⟨names _ h, each _ h⟩⟩, order⟩
  · rintro ⟨ns, ns', rfl, each, order⟩
    exact .object each.length_eq (fun p hp => (List.forall₂_zip each hp).1)
      (fun p hp => (List.forall₂_zip each hp).2) order

/-- The other orders of an array. -/
theorem reordered_array_iff {vs : List Json} {v : Json} :
    (array vs).Reordered v ↔ ∃ ws, v = .array ws ∧ List.Forall₂ Reordered vs ws := by
  constructor
  · intro h
    cases h with
    | same => exact ⟨vs, rfl, List.forall₂_same.mpr fun v _ => .same v⟩
    | array size each => exact ⟨_, rfl, List.forall₂_iff_zip.mpr ⟨size, fun h => each _ h⟩⟩
  · rintro ⟨ws, rfl, each⟩
    exact .array each.length_eq fun p hp => List.forall₂_zip each hp

/-- What holds of all that is related to the one side holds of the other side. -/
theorem forall_mem_of_forall₂ {R : α → β → Prop} {q : β → Prop} {as : List α} {bs : List β}
    (each : List.Forall₂ R as bs) (h : ∀ a ∈ as, ∀ b, R a b → q b) : ∀ b ∈ bs, q b := by
  induction each with
  | nil => exact List.forall_mem_nil q
  | cons own _ ih =>
    obtain ⟨first, others⟩ := List.forall_mem_cons.mp h
    exact List.forall_mem_cons.mpr ⟨first _ own, ih others⟩

/-- A value without numbers is so in every order. -/
theorem NumberFree.reordered {k : Nat} {v w : Json} (h : NumberFree k v) (hr : v.Reordered w) :
    NumberFree k w := by
  induction h generalizing w with
  | array _ ih =>
    obtain ⟨ws, rfl, each⟩ := reordered_array_iff.mp hr
    exact .array (forall_mem_of_forall₂ each fun v hv w own => ih v hv own)
  | object _ ih =>
    obtain ⟨ns, ns', rfl, each, order⟩ := reordered_object_iff.mp hr
    have members := forall_mem_of_forall₂ each fun m hm n own => ih m hm own.2
    exact .object fun n hn => members n (order.mem_iff.mpr hn)
  | null => cases hr; exact .null
  | bool b => cases hr; exact .bool b
  | string s => cases hr; exact .string s

/-! ### Reading in any order -/

theorem bind_eq_ok_iff {x : Except ReadError α} {g : α → Except ReadError β} {b : β} :
    (x >>= g) = .ok b ↔ ∃ a, x = .ok a ∧ g a = .ok b := by
  cases x <;> simp [bind, Except.bind]

/-- **What is read does not depend on the order of members.** -/
def Decoder.OrderFree (p : Decoder α) : Prop :=
  ∀ ⦃v w : Json⦄ ⦃a : α⦄, v.Reordered w → p v = .ok a → p w = .ok a

namespace Decoder

theorem orderFree_string : OrderFree string := by
  intro v w s h hv
  cases h with
  | same => exact hv
  -- arrays and objects are no strings
  | array => nomatch hv
  | object => nomatch hv

theorem OrderFree.map {p : Decoder α} (hp : p.OrderFree) (f : α → β) :
    OrderFree (f <$> p : Decoder β) := by
  intro v w b h hv
  change (p v).map f = _ at hv
  change (p w).map f = _
  cases ha : p v with
  | error e =>
    rw [ha] at hv
    nomatch hv
  | ok a => rwa [hp h ha, ← ha]

theorem OrderFree.nullable {p : Decoder α} (hp : p.OrderFree) : OrderFree (nullable p) := by
  intro v w o h hv
  cases h with
  | same => exact hv
  -- what is reordered is not `null`
  | array size each => exact hp.map some (.array size each) hv
  | object size names each order => exact hp.map some (.object size names each order) hv

end Decoder

/-- An object is read as a word if that is its only name and nothing belongs to it. -/
theorem Enumeration.decode_object_eq_ok {e : Enumeration α} {ms : List (String × Json)} {a : α}
    (h : e.decode (.object ms) = .ok a) :
    ∃ name v, ms = [(name, v)] ∧ e.ofWord name = .ok a ∧ (v = .null ∨ v = .object []) := by
  match ms, h with
  | [(name, v)], h =>
    obtain ⟨b, known, h⟩ := bind_eq_ok_iff.mp h
    match v, h with
    | .null, h => exact ⟨name, _, rfl, known.trans h, .inl rfl⟩
    | .object [], h => exact ⟨name, _, rfl, known.trans h, .inr rfl⟩

theorem Enumeration.orderFree_decode (e : Enumeration α) : Decoder.OrderFree e.decode := by
  intro v w a h hv
  cases v with
  | object ms =>
    obtain ⟨ns, ns', rfl, each, order⟩ := reordered_object_iff.mp h
    obtain ⟨name, v, rfl, -, unit⟩ := e.decode_object_eq_ok hv
    -- there is no other order of one member to which nothing belongs
    obtain ⟨⟨_, w⟩, rest, ⟨rfl, value⟩, none, rfl⟩ := List.forall₂_cons_left_iff.mp each
    obtain rfl := List.forall₂_nil_left_iff.mp none
    obtain rfl := List.singleton_perm.mp order
    have same : w = v := by
      rcases unit with rfl | rfl
      · cases value; rfl
      · obtain ⟨ns, ns', rfl, each, order⟩ := reordered_object_iff.mp value
        obtain rfl := List.forall₂_nil_left_iff.mp each
        rw [List.nil_perm.mp order]
    rwa [same]
  | string => cases h; exact hv
  | _ => nomatch hv

/-! ### Fields -/

namespace Field

/-- A field is read in every order of members, and is known to have been read then. -/
structure Regular (f : Field Decoder σ) : Prop where
  orderFree (s : σ) : (f.read s).OrderFree
  isRead {s t : σ} {v : Json} (h : f.read s v = .ok t) : f.isRead t

/-- Reading another field does not disturb a field: it does not change whether this one has been
read, and may as well be done before. -/
structure Undisturbed (f g : Field Decoder σ) : Prop where
  frame {s t : σ} {w : Json} (h : g.read s w = .ok t) : f.isRead t = f.isRead s
  swap {s t u : σ} {v w : Json} (h : f.read s v = .ok t) (h' : g.read t w = .ok u) :
    ∃ t', g.read s w = .ok t' ∧ f.read t' v = .ok u

/-- **Two fields do not touch each other.** -/
def Apart (f g : Field Decoder σ) : Prop := f.Undisturbed g ∧ g.Undisturbed f

instance : Std.Symm (@Apart σ) where
  symm _ _ := And.symm

variable {name name' : String} {default default' : Bool} {get : σ → Option α}
  {get' : σ → Option β} {put : α → σ → σ} {put' : β → σ → σ} {p : Decoder α} {q : Decoder β}

theorem read_of_eq_ok_iff {s t : σ} {v : Json} :
    (Field.of name default get put p).read s v = .ok t ↔ ∃ a, p v = .ok a ∧ t = put a s := by
  change (p v).map (put · s) = _ ↔ _
  cases p v <;> simp [Except.map, eq_comm]

theorem Regular.of (hp : p.OrderFree) (h : ∀ a s, (get (put a s)).isSome) :
    (Field.of name default get put p).Regular where
  orderFree s := hp.map (put · s)
  isRead ht := by
    obtain ⟨a, -, rfl⟩ := read_of_eq_ok_iff.mp ht
    exact h a _

theorem Undisturbed.of (keep : ∀ b s, get (put' b s) = get s)
    (comm : ∀ a b s, put' b (put a s) = put a (put' b s)) :
    (Field.of name default get put p).Undisturbed (.of name' default' get' put' q) where
  frame ht := by
    obtain ⟨b, -, rfl⟩ := read_of_eq_ok_iff.mp ht
    exact congrArg Option.isSome (keep b _)
  swap ht hu := by
    obtain ⟨a, ha, rfl⟩ := read_of_eq_ok_iff.mp ht
    obtain ⟨b, hb, rfl⟩ := read_of_eq_ok_iff.mp hu
    exact ⟨_, read_of_eq_ok_iff.mpr ⟨b, hb, rfl⟩, read_of_eq_ok_iff.mpr ⟨a, ha, comm a b _⟩⟩

/-- Fields with places of their own do not touch each other. -/
theorem Apart.of (keep : ∀ b s, get (put' b s) = get s) (keep' : ∀ a s, get' (put a s) = get' s)
    (comm : ∀ a b s, put' b (put a s) = put a (put' b s)) :
    Apart (.of name default get put p) (.of name' default' get' put' q) :=
  ⟨.of keep comm, .of keep' fun b a s => (comm a b s).symm⟩

end Field

/-! ### Records -/

namespace RecordFormat

variable {f : RecordFormat Decoder σ α}

/-- **The fields of a record may be read in any order.** -/
structure Regular (f : RecordFormat Decoder σ α) : Prop where
  regular : ∀ field ∈ f.fields, field.Regular
  apart : f.fields.Pairwise Field.Apart

/-- Two fields of a record. -/
theorem Regular.of_two {a b : Field Decoder σ} (fields : f.fields = [a, b]) (ha : a.Regular)
    (hb : b.Regular) (hab : a.Apart b) : f.Regular where
  regular := by
    rw [fields]
    exact List.forall_mem_cons.mpr ⟨ha, List.forall_mem_singleton.mpr hb⟩
  apart := by
    rw [fields]
    exact List.pairwise_pair.mpr hab

/-- Three fields of a record. -/
theorem Regular.of_three {a b c : Field Decoder σ} (fields : f.fields = [a, b, c])
    (ha : a.Regular) (hb : b.Regular) (hc : c.Regular) (hab : a.Apart b) (hac : a.Apart c)
    (hbc : b.Apart c) : f.Regular where
  regular := by
    rw [fields]
    exact List.forall_mem_cons.mpr ⟨ha, List.forall_mem_cons.mpr ⟨hb,
      List.forall_mem_singleton.mpr hc⟩⟩
  apart := by
    rw [fields]
    exact .cons (List.forall_mem_cons.mpr ⟨hab, List.forall_mem_singleton.mpr hac⟩)
      (List.pairwise_pair.mpr hbc)

/-- A member is passed over, or read as a field that has not been read. -/
theorem decodeMember_eq_ok_iff {s t : σ} {m : String × Json} :
    f.decodeMember s m = .ok t ↔ f.fields.find? (·.name == m.1) = none ∧ t = s ∨
      ∃ field, f.fields.find? (·.name == m.1) = some field ∧ field.isRead s = false ∧
        field.read s m.2 = .ok t := by
  rw [decodeMember]
  cases f.fields.find? (·.name == m.1) with
  | none => simp [eq_comm (a := s)]
  | some field => cases h : field.isRead s <;> simp [h]

theorem Regular.decodeMember (hf : f.Regular) {s t : σ} {m n : String × Json}
    (h : ReorderedMember m n) (ht : f.decodeMember s m = .ok t) : f.decodeMember s n = .ok t := by
  rw [decodeMember_eq_ok_iff, h.1] at ht
  rw [decodeMember_eq_ok_iff]
  rcases ht with none | ⟨field, found, unread, read⟩
  · exact .inl none
  · have own := (hf.regular field (List.mem_of_find?_eq_some found)).orderFree s
    exact .inr ⟨field, found, unread, own h.2 read⟩

/-- **Two members that stand side by side may be swapped.** -/
theorem Regular.decodeMember_swap (hf : f.Regular) {s t u : σ} {m n : String × Json}
    (ht : f.decodeMember s m = .ok t) (hu : f.decodeMember t n = .ok u) :
    ∃ t', f.decodeMember s n = .ok t' ∧ f.decodeMember t' m = .ok u := by
  simp only [decodeMember_eq_ok_iff] at ht hu ⊢
  rcases ht with ⟨none, rfl⟩ | ⟨field, found, unread, read⟩
  · exact ⟨u, hu, .inl ⟨none, rfl⟩⟩
  · rcases hu with ⟨none, rfl⟩ | ⟨field', found', unread', read'⟩
    · exact ⟨s, .inl ⟨none, rfl⟩, .inr ⟨field, found, unread, read⟩⟩
    · have mem := List.mem_of_find?_eq_some found
      -- a field that has been read is not read again
      have other : field ≠ field' := by
        rintro rfl
        rw [(hf.regular field mem).isRead read] at unread'
        nomatch unread'
      obtain ⟨first, second⟩ := hf.apart.forall mem (List.mem_of_find?_eq_some found') other
      obtain ⟨t', here, there⟩ := first.swap read read'
      exact ⟨t', .inr ⟨field', found', (second.frame read).symm.trans unread', here⟩,
        .inr ⟨field, found, (first.frame here).trans unread, there⟩⟩

/-- **The members of an object may stand in any order** where they are read one after another. -/
theorem Regular.foldlM_decodeMember_perm (hf : f.Regular) {s t : σ} {ms ns : List (String × Json)}
    (order : ms.Perm ns) (h : ms.foldlM f.decodeMember s = .ok t) :
    ns.foldlM f.decodeMember s = .ok t := by
  induction order generalizing s with
  | nil => exact h
  | cons m _ ih =>
    rw [List.foldlM_cons, bind_eq_ok_iff] at h ⊢
    obtain ⟨u, first, others⟩ := h
    exact ⟨u, first, ih others⟩
  | swap m n rest =>
    simp only [List.foldlM_cons, bind_eq_ok_iff] at h ⊢
    obtain ⟨u, first, w, second, others⟩ := h
    obtain ⟨u', second, first⟩ := hf.decodeMember_swap first second
    exact ⟨u', second, w, first, others⟩
  | trans _ _ ih ih' => exact ih' (ih h)

theorem Regular.foldlM_decodeMember_reordered (hf : f.Regular) {s t : σ}
    {ms ns : List (String × Json)} (each : List.Forall₂ ReorderedMember ms ns)
    (h : ms.foldlM f.decodeMember s = .ok t) : ns.foldlM f.decodeMember s = .ok t := by
  induction each generalizing s with
  | nil => exact h
  | cons own _ ih =>
    rw [List.foldlM_cons, bind_eq_ok_iff] at h ⊢
    obtain ⟨u, first, others⟩ := h
    exact ⟨u, hf.decodeMember own first, ih others⟩

/-- The items of an array stand in their order, but the values in them need not. -/
theorem decodeItems_reordered {fields : List (Field Decoder σ)}
    (regular : ∀ field ∈ fields, field.Regular) {i : Nat} {s t : σ} {vs ws : List Json}
    (each : List.Forall₂ Reordered vs ws) (h : f.decodeItems i fields vs s = .ok t) :
    f.decodeItems i fields ws s = .ok t := by
  induction fields generalizing i s vs ws with
  | nil => cases each <;> exact h
  | cons field fields ih =>
    obtain ⟨own, others⟩ := List.forall_mem_cons.mp regular
    cases each with
    | nil => exact h
    | cons value values =>
      rw [decodeItems, bind_eq_ok_iff] at h ⊢
      obtain ⟨u, first, rest⟩ := h
      exact ⟨u, own.orderFree s value first, ih others values rest⟩

/-- **A record is read from its members in any order**, and so are the records in it. -/
theorem Regular.orderFree_decode (hf : f.Regular) : Decoder.OrderFree f.decode := by
  intro v w a h hv
  cases v with
  | array vs =>
    obtain ⟨ws, rfl, each⟩ := reordered_array_iff.mp h
    simp only [decode, bind_eq_ok_iff] at hv ⊢
    obtain ⟨s, items, rest⟩ := hv
    rw [each.length_eq] at rest
    exact ⟨s, decodeItems_reordered hf.regular each items, rest⟩
  | object ms =>
    obtain ⟨ns, ns', rfl, each, order⟩ := reordered_object_iff.mp h
    simp only [decode, bind_eq_ok_iff] at hv ⊢
    obtain ⟨s, members, finish⟩ := hv
    have any := hf.foldlM_decodeMember_perm order (hf.foldlM_decodeMember_reordered each members)
    exact ⟨s, any, finish⟩
  | _ => nomatch hv

end RecordFormat

end Json

end RowShape
