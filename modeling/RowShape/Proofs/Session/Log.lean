import RowShape.Proofs.Session.Checks

/-!
# What a session remembers

A session answers as if it kept a log of the documents that have been stored since the last reset,
and looked up an identifier from the end of it.  Documents are stored one by one by hand, one for
each table or procedure that is described, and in a run all at once; a run that cannot list the
tables or the procedures has stored nothing by then.

An operation changes the registry by storing what it adds to the log and in no other way
(`Session.perform_snd`).  By induction the registry is at every point what storing the log makes of
an empty one (`Session.registry_eq`), and all that is asked of it can be answered from the log.

## Main definitions

* `Operation.stored`, `Operation.logged`: what an operation stores, and the log after it
* `Session.log`: the log of a session that began with an empty registry
* `lastStored?`: the document that a log has for an identifier
* `MetadataSource.FailsWith`: a listing fails, and it is the first one that does
* `Session.Reflects`: a session whose registry is as its log says

## Main results

* `Session.perform_snd`, `Session.performAll_snd`: one operation, and several
* `Pipeline.run_eq_error_iff`: when a run fails
* `Session.reflects_log`: at every point a session reflects its log
-/

namespace RowShape

/-! ### The log -/

/-- The documents that an operation stores, in their order. -/
def Operation.stored : Operation → Outcome → List SchemaDocument
  | .insert d, _ => [d]
  | _, answer => answer.emitted

/-- The log after an operation: nothing is left of it after a reset. -/
def Operation.logged (log : List SchemaDocument) : Operation → Outcome → List SchemaDocument
  | .reset, _ => []
  | op, answer => log ++ op.stored answer

/-- The document that a log has for an identifier: of several, the last one. -/
def lastStored? (log : List SchemaDocument) (id : String) : Option SchemaDocument :=
  log.findRev? (·.id == id)

/-- The identifiers of the documents of a log, each of them once. -/
def storedIds (log : List SchemaDocument) : List String := (log.map (·.id)).eraseDups

namespace Registry

variable (log : List SchemaDocument)

/-- The last document with an identifier is found under it. -/
theorem get?_insertAll_empty (id : String) :
    (empty.insertAll log).get? id = lastStored? log id := by
  rw [get?_insertAll, get?_empty, Option.or_none]
  rfl

/-- There are as many documents as identifiers. -/
theorem size_insertAll_empty : (empty.insertAll log).size = (storedIds log).length := by
  have keys : (empty.insertAll log).documents.keys = storedIds log := by
    rw [documents_insertAll]
    exact OrderedMap.keys_foldl_insert log
  rw [← keys, OrderedMap.keys, List.length_map]
  rfl

/-- A registry is empty if it has no documents. -/
theorem isEmpty_eq (r : Registry) : r.isEmpty = decide (r.size = 0) := by
  rw [isEmpty, OrderedMap.isEmpty, size, OrderedMap.size]
  cases r.documents.entries <;> rfl

end Registry

/-! ### Runs that fail -/

/-- A listing fails with an error, and no listing has failed before it.  Tables are listed before
procedures. -/
def MetadataSource.FailsWith (source : MetadataSource) (e : Error) : Prop :=
  source.tables = .error e ∨ (∃ catalog, source.tables = .ok catalog) ∧ source.procedures = .error e

/-- **A run fails if a listing does**, and with the error of the first one that does. -/
theorem Pipeline.run_eq_error_iff {p : Pipeline} {source : MetadataSource} {r : Registry}
    {e : Error} : p.run source r = .error e ↔ source.FailsWith e := by
  rw [MetadataSource.FailsWith]
  cases ht : source.tables with
  | error e' => simp [run, ht, bind, Except.bind]
  | ok catalog =>
    cases hp : source.procedures with
    | error e' => simp [run, ht, hp, bind, Except.bind]
    | ok procedures => simp [run_eq ht hp]

namespace Session

variable (s : Session)

/-- The log after some operations of a session, from a log that is there before. -/
def logFrom (log : List SchemaDocument) (ops : List Operation) (answers : List Outcome) :
    List SchemaDocument :=
  (ops.zip answers).foldl (fun log step => step.1.logged log step.2) log

/-- The answers of a session that begins with an empty registry. -/
def answers (ops : List Operation) : List Outcome := (s.performAll .empty ops).1

/-- The registry that such a session leaves behind. -/
def registry (ops : List Operation) : Registry := (s.performAll .empty ops).2

/-- What is answered when it is asked for after some operations. -/
def answerAfter (ops : List Operation) (op : Operation) : Outcome :=
  (s.perform (s.registry ops) op).1

/-- The documents that have been stored since the last reset, in their order. -/
def log (ops : List Operation) : List SchemaDocument := logFrom [] ops (s.answers ops)

/-! ### Operations one after another -/

theorem performAll_cons (r : Registry) (op : Operation) (ops : List Operation) :
    s.performAll r (op :: ops) =
      ((s.perform r op).1 :: (s.performAll (s.perform r op).2 ops).1,
        (s.performAll (s.perform r op).2 ops).2) := rfl

theorem performAll_append (r : Registry) (ops rest : List Operation) :
    s.performAll r (ops ++ rest) =
      ((s.performAll r ops).1 ++ (s.performAll (s.performAll r ops).2 rest).1,
        (s.performAll (s.performAll r ops).2 rest).2) := by
  induction ops generalizing r with
  | nil => rfl
  | cons op ops ih =>
    rw [List.cons_append, performAll_cons, ih]
    rfl

theorem length_performAll (r : Registry) (ops : List Operation) :
    (s.performAll r ops).1.length = ops.length := by
  induction ops generalizing r with
  | nil => rfl
  | cons op ops ih => rw [performAll_cons, List.length_cons, ih, List.length_cons]

/-- Whatever comes later, an operation is answered beside what those before it have left. -/
theorem getElem?_answers (ops : List Operation) (op : Operation) (rest : List Operation) :
    (s.answers (ops ++ op :: rest))[ops.length]? = some (s.answerAfter ops op) := by
  have before : (s.answers ops).length = ops.length := s.length_performAll .empty ops
  rw [answers, performAll_append]
  change (s.answers ops ++ (s.performAll (s.registry ops) (op :: rest)).1)[ops.length]? = _
  rw [List.getElem?_append_right (Nat.le_of_eq before), before, Nat.sub_self, performAll_cons]
  rfl

theorem registry_concat (ops : List Operation) (op : Operation) :
    s.registry (ops ++ [op]) = (s.perform (s.registry ops) op).2 := by
  rw [registry, performAll_append]
  rfl

/-! ### Storing and logging -/

/-- **Step**: an operation stores what it adds to the log, and a reset leaves nothing. -/
theorem perform_snd (log : List SchemaDocument) (op : Operation) :
    (s.perform (Registry.empty.insertAll log) op).2 =
      Registry.empty.insertAll
        (op.logged log (s.perform (Registry.empty.insertAll log) op).1) := by
  cases op with
  | run source =>
    -- a run that fails has stored nothing, and any other stores what it emits
    cases hr : s.pipeline.run source (Registry.empty.insertAll log) with
    | error e => simp [perform, hr, Operation.logged, Operation.stored, Outcome.emitted]
    | ok result =>
      obtain ⟨output, after⟩ := result
      obtain ⟨catalog, procedures, ht, hp⟩ := Pipeline.exists_listings_of_run hr
      obtain ⟨rfl, rfl⟩ := Pipeline.eq_of_run ht hp hr
      simp only [perform, hr, Operation.logged, Operation.stored, Outcome.emitted]
      rw [Registry.insertAll_append]
  | reset => rfl
  | _ =>
    -- a document that is built or given is stored, and a look-up stores nothing
    rw [Operation.logged, Registry.insertAll_append]
    · rfl
    · intro isReset
      cases isReset

/-- **Run**: operations one after another store what they add to the log. -/
theorem performAll_snd (log : List SchemaDocument) (ops : List Operation) :
    (s.performAll (Registry.empty.insertAll log) ops).2 =
      Registry.empty.insertAll
        (logFrom log ops (s.performAll (Registry.empty.insertAll log) ops).1) := by
  induction ops generalizing log with
  | nil => rfl
  | cons op ops ih =>
    rw [performAll_cons, perform_snd]
    exact ih _

/-- The registry of a session is what storing its log makes of an empty one. -/
theorem registry_eq (ops : List Operation) :
    s.registry ops = Registry.empty.insertAll (s.log ops) := s.performAll_snd [] ops

theorem get?_registry (ops : List Operation) (id : String) :
    (s.registry ops).get? id = lastStored? (s.log ops) id := by
  rw [registry_eq, Registry.get?_insertAll_empty]

theorem size_registry (ops : List Operation) :
    (s.registry ops).size = (storedIds (s.log ops)).length := by
  rw [registry_eq, Registry.size_insertAll_empty]

end Session

/-! ### Answers -/

/-- An operation that looks something up, or finds the columns of a procedure. -/
def Operation.IsLookup : Operation → Prop
  | .infer .. | .get _ | .require _ | .property .. | .contains _ | .isEmpty => True
  | _ => False

/-- A session whose registry, after some operations, is as its log says. -/
structure Session.Reflects (s : Session) (ops : List Operation) : Prop where
  /-- The answer that is spoken of below stands at its place among those of every longer session. -/
  answered : ∀ op rest, (s.answers (ops ++ op :: rest))[ops.length]? = some (s.answerAfter ops op)
  /-- What is found under an identifier is the last document with it, if there is one. -/
  get : ∀ id, s.answerAfter ops (.get id) = .document (lastStored? (s.log ops) id)
  /-- A document is found under its own identifier. -/
  keyed : ∀ id d, (s.registry ops).get? id = some d → d.id = id
  /-- There are as many documents as identifiers that have been stored. -/
  size : (s.registry ops).size = (storedIds (s.log ops)).length
  /-- There is a document under an identifier if one is found. -/
  contains : ∀ id, s.answerAfter ops (.contains id) = .truth (lastStored? (s.log ops) id).isSome
  /-- A document that has to be there is the one that is found, or an error names what is not. -/
  require : ∀ id, s.answerAfter ops (.require id) =
    .demanded ((lastStored? (s.log ops) id).elim (.error (.schemaNotFound id)) .ok)
  /-- A property is that of the document that is found. -/
  property : ∀ id name, s.answerAfter ops (.property id name) =
    .property ((lastStored? (s.log ops) id).bind (·.property? name))
  /-- It is empty if there are no documents. -/
  isEmpty : s.answerAfter ops .isEmpty = .truth (decide ((s.registry ops).size = 0))
  /-- To store a document gives what was found before under its identifier. -/
  insert : ∀ d, s.answerAfter ops (.insert d) = s.answerAfter ops (.get d.id)
  /-- A look-up leaves the registry as it is. -/
  unchanged : ∀ op : Operation, op.IsLookup → s.registry (ops ++ [op]) = s.registry ops
  /-- A run fails if a listing does, and with the error of the first one that does. -/
  fails : ∀ source e, s.answerAfter ops (.run source) = .ran (.error e) ↔ source.FailsWith e
  /-- A run that fails leaves the registry as it is. -/
  failed : ∀ source e, s.answerAfter ops (.run source) = .ran (.error e) →
    s.registry (ops ++ [.run source]) = s.registry ops

namespace Session

variable (s : Session) (ops : List Operation)

/-- A run is answered with an error if the pipeline gives one. -/
theorem answerAfter_run_eq_error_iff {source : MetadataSource} {e : Error} :
    s.answerAfter ops (.run source) = .ran (.error e) ↔
      s.pipeline.run source (s.registry ops) = .error e := by
  rw [answerAfter, perform]
  cases s.pipeline.run source (s.registry ops) <;> simp

/-- **At every point a session reflects its log**, whatever has been asked of it before, and in
whatever order. -/
theorem reflects_log : s.Reflects ops where
  answered := s.getElem?_answers ops
  get id := by
    rw [← get?_registry]
    rfl
  keyed _ _ := Registry.id_of_get?
  size := s.size_registry ops
  contains id := by
    rw [← get?_registry]
    rfl
  require id := by
    rw [← get?_registry, answerAfter, perform, Registry.require]
    cases (s.registry ops).get? id <;> rfl
  property id name := by
    rw [← get?_registry]
    rfl
  isEmpty := congrArg Outcome.truth (s.registry ops).isEmpty_eq
  insert _ := rfl
  unchanged op h := by
    rw [registry_concat]
    cases op <;> first | rfl | exact h.elim
  fails source e := by
    rw [answerAfter_run_eq_error_iff, Pipeline.run_eq_error_iff]
  failed source e h := by
    rw [answerAfter_run_eq_error_iff] at h
    rw [registry_concat, perform, h]

end Session

end RowShape
