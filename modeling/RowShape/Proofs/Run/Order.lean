import RowShape.Proofs.Run
import Mathlib.Data.List.Basic
import Mathlib.Logic.Relation

/-!
# Procedures in any order

The document of a procedure depends on the tables only.  Procedures that take the name of no table
leave the tables alone, so that each of them builds the same document whenever its turn comes; and
if their names are distinct, they store their documents apart from each other.  Neither the order
nor the number of procedures matters then.

The same holds for workers that share the registry and lock it while they build and store a
document.  Whatever the names are, what such workers have done by a point of time is what the
procedures do one after another in the order of the locks (`FanOut.exists_follows`): a worker infers
its columns without the registry, and its turn comes when it takes the lock.

## Main definitions

* `FanOut`, `FanOut.Step`: workers with a registry, and what one of them does at a time
* `FanOut.Follows`: the workers have done what procedures do one after another
* `Pipeline.OrderFree`: procedures that give the same in any order

## Main results

* `Pipeline.synthesizeProcedures_eq_map`: no procedure notices those before it
* `FanOut.exists_follows`: interleaved workers follow some order
* `Pipeline.orderFree_of_distinct`: procedures with distinct names give the same in any order
-/

namespace RowShape

/-! ### One after another -/

namespace Pipeline

variable {p : Pipeline} {catalog : Catalog} {ps qs : List ProcedureDefinition}

/-- **No procedure notices those before it**, if none of them takes the name of a table: each builds
what it would have built first. -/
theorem synthesizeProcedures_eq_map (apart : ∀ q ∈ ps, q.name ∉ catalog.names) (r : Registry) :
    (p.synthesizeProcedures catalog ps r).1 =
      ps.map fun q => (p.synthesizeProcedure q catalog r).1 := by
  induction ps generalizing r with
  | nil => rfl
  | cons q ps ih =>
    obtain ⟨hq, hps⟩ := List.forall_mem_cons.mp apart
    -- the first one stores a document where no table is looked up
    have kept : Registry.AgreeOn (p.tableIds catalog) (p.synthesizeProcedure q catalog r).2 r :=
      Registry.agreeOn_insert_of_notMem (p.schemaId_notMem_tableIds hq) r
    rw [synthesizeProcedures_cons, List.map_cons, ih hps,
      List.map_congr_left fun q' _ => synthesizeProcedure_congr kept q']

/-- Every procedure beside what it gives. -/
def results (p : Pipeline) (catalog : Catalog) (ps : List ProcedureDefinition) (r : Registry) :
    List (ProcedureDefinition × Synthesis) :=
  ps.zip (p.synthesizeProcedures catalog ps r).1

theorem results_eq_map (apart : ∀ q ∈ ps, q.name ∉ catalog.names) (r : Registry) :
    p.results catalog ps r = ps.map fun q => (q, (p.synthesizeProcedure q catalog r).1) := by
  rw [results, synthesizeProcedures_eq_map apart]
  exact List.map_prod_left_eq_zip.symm

theorem fst_results (ps : List ProcedureDefinition) (r : Registry) :
    (p.results catalog ps r).map (·.1) = ps :=
  List.map_fst_zip (Nat.le_of_eq (length_synthesizeProcedures ps r).symm)

theorem results_concat (ps : List ProcedureDefinition) (q : ProcedureDefinition) (r : Registry) :
    p.results catalog (ps ++ [q]) r = p.results catalog ps r ++
      [(q, (p.synthesizeProcedure q catalog (p.synthesizeProcedures catalog ps r).2).1)] := by
  rw [results, synthesizeProcedures_append, List.zip_append (length_synthesizeProcedures ps r).symm]
  rfl

theorem results_perm (apart : ∀ q ∈ ps, q.name ∉ catalog.names) (perm : qs.Perm ps)
    (r : Registry) : (p.results catalog qs r).Perm (p.results catalog ps r) := by
  have apart' : ∀ q ∈ qs, q.name ∉ catalog.names := fun q hq => apart q (perm.mem_iff.mp hq)
  rw [results_eq_map apart, results_eq_map apart']
  exact perm.map _

/-- Procedures with distinct names store the same documents in any order. -/
theorem synthesizeProcedures_snd_same (apart : ∀ q ∈ ps, q.name ∉ catalog.names)
    (distinct : (ps.map (·.name)).Nodup) (perm : qs.Perm ps) (r : Registry) :
    (p.synthesizeProcedures catalog qs r).2.Same (p.synthesizeProcedures catalog ps r).2 := by
  have apart' : ∀ q ∈ qs, q.name ∉ catalog.names := fun q hq => apart q (perm.mem_iff.mp hq)
  have ids : ((p.synthesizeProcedures catalog ps r).1.map (·.document)).map (·.id) =
      (ps.map (·.name)).map p.schemaId := by
    rw [List.map_map, List.map_map]
    exact ids_synthesizeProcedures ps r
  rw [synthesizeProcedures_snd, synthesizeProcedures_snd]
  refine Registry.same_insertAll_of_perm ?_ ?_ r
  · rw [synthesizeProcedures_eq_map apart, synthesizeProcedures_eq_map apart']
    exact (perm.map _).map _
  · -- distinct names have distinct identifiers, so that no document takes the place of another
    rw [ids]
    exact distinct.map fun _ _ => p.schemaId_injective

/-- Builds and stores the document of a procedure whose columns are known. -/
def synthesizeInferred (p : Pipeline) (q : ProcedureDefinition) (inference : Resolution)
    (r : Registry) : Synthesis × Registry :=
  let (synthesis, r) := p.synthesizer.synthesizeProcedure q.name inference.columns r
  (⟨synthesis.document, inference.diagnostics ++ synthesis.diagnostics⟩, r)

/-- The columns of a procedure can be inferred beforehand. -/
theorem synthesizeInferred_inferProcedure (q : ProcedureDefinition) (r : Registry) :
    p.synthesizeInferred q (p.inferProcedure q catalog) r = p.synthesizeProcedure q catalog r := rfl

end Pipeline

/-! ### Interleaved -/

/-- How far a worker has come with its procedure. -/
inductive Progress where
  /-- The columns of the procedure are not known yet. -/
  | waiting
  /-- They are known, and the document is still to be built. -/
  | inferred (inference : Resolution)
  /-- The document is stored. -/
  | finished (synthesis : Synthesis)

/-- Workers with a procedure each, and the registry that they share. -/
structure FanOut where
  registry : Registry
  workers : List (ProcedureDefinition × Progress)

namespace FanOut

/-- No worker has begun. -/
def start (r : Registry) (ps : List ProcedureDefinition) : FanOut :=
  ⟨r, ps.map fun q => (q, .waiting)⟩

/-- What is done at a time: a worker infers the columns of its procedure, or takes the lock, builds
the document and stores it. -/
inductive Step (p : Pipeline) (catalog : Catalog) : FanOut → FanOut → Prop
  | infer (r : Registry) (before after : List (ProcedureDefinition × Progress))
      (q : ProcedureDefinition) :
      Step p catalog ⟨r, before ++ (q, .waiting) :: after⟩
        ⟨r, before ++ (q, .inferred (p.inferProcedure q catalog)) :: after⟩
  | synthesize (r : Registry) (before after : List (ProcedureDefinition × Progress))
      (q : ProcedureDefinition) (inference : Resolution) :
      Step p catalog ⟨r, before ++ (q, .inferred inference) :: after⟩
        ⟨(p.synthesizeInferred q inference r).2,
          before ++ (q, .finished (p.synthesizeInferred q inference r).1) :: after⟩

/-- Some steps lead from one state to another. -/
abbrev Reaches (p : Pipeline) (catalog : Catalog) : FanOut → FanOut → Prop :=
  Relation.ReflTransGen (Step p catalog)

/-- The synthesis of a worker that has finished. -/
def finished? : ProcedureDefinition × Progress → Option (ProcedureDefinition × Synthesis)
  | (q, .finished synthesis) => some (q, synthesis)
  | _ => none

/-- The procedures that are finished, each beside what it gave. -/
def results (s : FanOut) : List (ProcedureDefinition × Synthesis) := s.workers.filterMap finished?

/-- Every worker has finished. -/
def IsComplete (s : FanOut) : Prop := ∀ w ∈ s.workers, (finished? w).isSome

variable {p : Pipeline} {catalog : Catalog} {ps order : List ProcedureDefinition} {r : Registry}
  {s t : FanOut}

/-- The workers have done what the procedures do one after another in some order, from a registry
on, and what they know of columns is right. -/
structure Follows (p : Pipeline) (catalog : Catalog) (r : Registry) (s : FanOut)
    (order : List ProcedureDefinition) : Prop where
  registry : s.registry = (p.synthesizeProcedures catalog order r).2
  results : s.results.Perm (p.results catalog order r)
  inferred : ∀ q inference, (q, .inferred inference) ∈ s.workers →
    inference = p.inferProcedure q catalog

theorem results_start (r : Registry) (ps : List ProcedureDefinition) :
    (start r ps).results = [] := by
  rw [results, start, List.filterMap_map]
  exact List.filterMap_none _

theorem follows_start (r : Registry) (ps : List ProcedureDefinition) :
    Follows p catalog r (start r ps) [] where
  registry := rfl
  results := by rw [results_start]; rfl
  inferred q inference h := by
    obtain ⟨q', -, heq⟩ := List.mem_map.mp h
    cases heq

/-- The results with one worker singled out. -/
theorem results_split (r : Registry) (before after : List (ProcedureDefinition × Progress))
    (w : ProcedureDefinition × Progress) :
    (FanOut.mk r (before ++ w :: after)).results =
      before.filterMap finished? ++ ((finished? w).toList ++ after.filterMap finished?) := by
  rw [results, List.filterMap_append, List.filterMap_cons]
  cases finished? w <;> rfl

/-- **Step**: inferring columns leaves the order as it is, and a document that is built and stored
puts its procedure at the end. -/
theorem Follows.step (h : Follows p catalog r s order) (hst : Step p catalog s t) :
    ∃ order', Follows p catalog r t order' := by
  cases hst with
  | infer r' before after q =>
    -- the registry is not touched, and no result is added
    refine ⟨order, h.registry, ?_, ?_⟩
    · have results := h.results
      rw [results_split] at results ⊢
      exact results
    · intro q' inference hm
      rcases List.mem_append.mp hm with hm | hm
      · exact h.inferred q' inference (List.mem_append_left _ hm)
      rcases List.mem_cons.mp hm with heq | hm
      · -- this is the worker that has made the step
        obtain ⟨rfl, hi⟩ := Prod.mk.inj heq
        exact Progress.inferred.inj hi
      · exact h.inferred q' inference (List.mem_append_right _ (List.mem_cons_of_mem _ hm))
  | synthesize r' before after q inference =>
    have known : inference = p.inferProcedure q catalog :=
      h.inferred q inference (List.mem_append_right _ List.mem_cons_self)
    have now : (p.synthesizeProcedures catalog order r).2 = r' := h.registry.symm
    rw [known, Pipeline.synthesizeInferred_inferProcedure]
    refine ⟨order ++ [q], ?_, ?_, ?_⟩
    · rw [Pipeline.synthesizeProcedures_append, Pipeline.synthesizeProcedures_cons, now]
      rfl
    · -- the new result stands between those of the others, and at the end of the order
      rw [Pipeline.results_concat, now]
      have others := h.results
      rw [results_split] at others ⊢
      exact List.perm_middle.trans
        ((others.cons _).trans (List.perm_append_singleton _ _).symm)
    · intro q' inference hm
      rcases List.mem_append.mp hm with hm | hm
      · exact h.inferred q' inference (List.mem_append_left _ hm)
      rcases List.mem_cons.mp hm with heq | hm
      · cases heq
      · exact h.inferred q' inference (List.mem_append_right _ (List.mem_cons_of_mem _ hm))

/-- **Interleaved workers follow some order**: that in which they take the lock. -/
theorem exists_follows (h : Reaches p catalog (start r ps) s) :
    ∃ order, Follows p catalog r s order := by
  induction h with
  | refl => exact ⟨[], follows_start r ps⟩
  | tail _ hst ih =>
    obtain ⟨order, h⟩ := ih
    exact h.step hst

/-- Workers keep their procedures. -/
theorem procedures_of_step (h : Step p catalog s t) :
    t.workers.map (·.1) = s.workers.map (·.1) := by
  cases h <;> simp

theorem procedures_of_reaches (h : Reaches p catalog (start r ps) s) :
    s.workers.map (·.1) = ps := by
  induction h with
  | refl =>
    rw [start, List.map_map]
    exact List.map_id _
  | tail _ hst ih => rw [procedures_of_step hst, ih]

/-- Once all have finished, the results are those of the workers, one for each. -/
theorem IsComplete.workers_eq (h : s.IsComplete) :
    s.workers = s.results.map fun w => (w.1, .finished w.2) := by
  obtain ⟨r, ws⟩ := s
  induction ws with
  | nil => rfl
  | cons w ws ih =>
    obtain ⟨hw, hws⟩ := List.forall_mem_cons.mp h
    obtain ⟨q, _ | _ | synthesis⟩ := w
    · cases hw
    · cases hw
    · exact congrArg ((q, .finished synthesis) :: ·) (ih hws)

/-- The order of workers that have finished holds all of their procedures. -/
theorem Follows.perm (h : Follows p catalog r s order) (complete : s.IsComplete)
    (reached : Reaches p catalog (start r ps) s) : order.Perm ps := by
  have procedures : s.results.map (·.1) = ps := by
    rw [← procedures_of_reaches reached]
    conv_rhs => rw [complete.workers_eq, List.map_map]
    rfl
  have ordered : (p.results catalog order r).map (·.1) = order := Pipeline.fst_results order r
  rw [← ordered, ← procedures]
  exact (h.results.map _).symm

/-- Workers that take their turns one after another come to an end. -/
theorem exists_complete (p : Pipeline) (catalog : Catalog) (r : Registry)
    (ps : List ProcedureDefinition) : ∃ s, Reaches p catalog (start r ps) s ∧ s.IsComplete := by
  -- those before have finished, and those after have not begun
  suffices ∀ r before, (∀ w ∈ before, (finished? w).isSome) →
      ∃ s, Reaches p catalog ⟨r, before ++ ps.map fun q => (q, .waiting)⟩ s ∧ s.IsComplete from
    this r [] (List.forall_mem_nil _)
  induction ps with
  | nil =>
    intro r before hb
    refine ⟨_, .refl, ?_⟩
    rw [IsComplete, List.map_nil, List.append_nil]
    exact hb
  | cons q ps ih =>
    intro r before hb
    have hb' : ∀ w ∈ before ++ [(q, Progress.finished (p.synthesizeProcedure q catalog r).1)],
        (finished? w).isSome :=
      List.forall_mem_append.mpr ⟨hb, by simp [finished?]⟩
    obtain ⟨s, hs, complete⟩ := ih (p.synthesizeProcedure q catalog r).2 _ hb'
    rw [List.append_assoc] at hs
    refine ⟨s, .head (.infer r before _ q) (.head (.synthesize r before _ q _) hs), complete⟩

end FanOut

/-! ### Any order -/

namespace Pipeline

/-- **Procedures that give the same in any order**, one after another or interleaved. -/
structure OrderFree (p : Pipeline) (catalog : Catalog) (ps : List ProcedureDefinition)
    (r : Registry) : Prop where
  /-- In any order, every procedure gives the same document and the same diagnostics. -/
  results : ∀ qs, qs.Perm ps → (p.results catalog qs r).Perm (p.results catalog ps r)
  /-- In any order, the same documents are stored under the same identifiers. -/
  registry : ∀ qs, qs.Perm ps →
    (p.synthesizeProcedures catalog qs r).2.Same (p.synthesizeProcedures catalog ps r).2
  /-- Workers can finish. -/
  completes : ∃ s, FanOut.Reaches p catalog (.start r ps) s ∧ s.IsComplete
  /-- Once all workers have finished, in whatever way their steps were interleaved, the results and
  the registry are those of the procedures one after another. -/
  interleaved : ∀ s, FanOut.Reaches p catalog (.start r ps) s → s.IsComplete →
    s.workers = (p.results catalog ps r).map (fun w => (w.1, .finished w.2)) ∧
      s.registry.Same (p.synthesizeProcedures catalog ps r).2

/-- **Procedures with distinct names give the same in any order**, if no table has one of the names.
The tables may be registered or not. -/
theorem orderFree_of_distinct (p : Pipeline) {catalog : Catalog} {ps : List ProcedureDefinition}
    (distinct : (ps.map (·.name)).Nodup) (apart : ∀ q ∈ ps, q.name ∉ catalog.names)
    (r : Registry) : p.OrderFree catalog ps r where
  results _ perm := results_perm apart perm r
  registry _ perm := synthesizeProcedures_snd_same apart distinct perm r
  completes := FanOut.exists_complete p catalog r ps
  interleaved s reached complete := by
    obtain ⟨order, follows⟩ := FanOut.exists_follows reached
    have perm := follows.perm complete reached
    refine ⟨?_, follows.registry ▸ synthesizeProcedures_snd_same apart distinct perm r⟩
    -- the results stand in the order of the workers, and each belongs to its procedure
    have each : ∀ w ∈ s.results, (p.synthesizeProcedure w.1 catalog r).1 = w.2 := by
      intro w hw
      have hw' := (results_perm apart perm r).mem_iff.mp (follows.results.mem_iff.mp hw)
      rw [results_eq_map apart] at hw'
      obtain ⟨q, -, rfl⟩ := List.mem_map.mp hw'
      rfl
    have procedures : ps = s.results.map (·.1) := by
      rw [← FanOut.procedures_of_reaches reached]
      conv_lhs => rw [complete.workers_eq, List.map_map]
      rfl
    rw [results_eq_map apart, procedures, List.map_map, List.map_map]
    conv_lhs => rw [complete.workers_eq]
    exact List.map_congr_left fun w hw => by
      simp only [Function.comp_apply]
      rw [each w hw]

/-- Two procedures that read the tables of `plain`. -/
def readers : List ProcedureDefinition :=
  [.undated "report" "SELECT name FROM customers", .undated "numbers" "SELECT o.id FROM orders o"]

/-- They give the same in any order, once the tables are registered. -/
theorem orderFree_readers :
    (readers.map (·.name)).Nodup ∧ (∀ q ∈ readers, q.name ∉ plain.tables.names) ∧
      (standard .default).OrderFree plain.tables readers
        (Registry.empty.insertAll ((standard .default).tableDocuments plain.tables)) := by
  have distinct : (readers.map (·.name)).Nodup := by decide
  have apart : ∀ q ∈ readers, q.name ∉ plain.tables.names := by decide
  exact ⟨distinct, apart, orderFree_of_distinct (standard .default) distinct apart _⟩

end Pipeline

end RowShape
