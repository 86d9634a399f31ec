import RowShape.Proofs.Run

/-!
# Procedures of a run are isolated

If the definition of one procedure is replaced by any other text, broken or not, then a run gives
another document for this procedure and other diagnostics of it, and all else is as before.  Only
the name of the procedure matters: no table may have it, while other procedures may.

The later procedures read a registry in which another document stands.  It stands under an
identifier that no table has, and procedures read nothing but tables
(`Pipeline.synthesizeProcedures_congr`).

## Main definitions

* `Pipeline.synthesisAfter`: what a procedure gives after those before it
* `Pipeline.findings`: the diagnostics of a run, entity by entity
* `Pipeline.IsolatedAt`: two runs that differ in the procedure at one place only

## Main results

* `Pipeline.procedureSyntheses_set`: another procedure at one place changes one synthesis
* `Pipeline.isolatedAt_of_redefined`: replacing a definition changes its procedure only
-/

namespace RowShape

/-- The procedure with another definition. -/
def ProcedureDefinition.redefine (q : ProcedureDefinition) (text : String) : ProcedureDefinition :=
  { q with definition := text }

namespace Pipeline

variable {p : Pipeline} {catalog : Catalog} {procedures : List ProcedureDefinition}

/-! ### One entity after another -/

/-- The diagnostics of a run, a list for each table and each procedure. -/
def findings (p : Pipeline) (catalog : Catalog) (procedures : List ProcedureDefinition) :
    List (List Diagnostic) :=
  (p.syntheses catalog procedures).map (·.diagnostics)

theorem diagnostics_eq_flatten (procedures : List ProcedureDefinition) :
    (p.output catalog procedures).diagnostics = (p.findings catalog procedures).flatten := by
  rw [diagnostics_output, List.flatMap_def]
  rfl

/-- What a procedure gives in a run after the procedures before it. -/
def synthesisAfter (p : Pipeline) (catalog : Catalog) (earlier : List ProcedureDefinition)
    (q : ProcedureDefinition) : Synthesis :=
  (p.synthesizeProcedure q catalog
    (Registry.empty.insertAll (p.output catalog earlier).documents)).1

/-- The document of a procedure carries the identifier of its name. -/
theorem id_synthesisAfter (earlier : List ProcedureDefinition) (q : ProcedureDefinition) :
    (p.synthesisAfter catalog earlier q).document.id = p.schemaId q.name := rfl

/-- What is stored when the turn of a procedure comes. -/
theorem registry_after (earlier : List ProcedureDefinition) :
    (p.synthesizeProcedures catalog earlier
        (Registry.empty.insertAll (p.tableDocuments catalog))).2 =
      Registry.empty.insertAll (p.output catalog earlier).documents := by
  rw [synthesizeProcedures_snd, documents_output, Registry.insertAll_append]
  rfl

/-- The procedures of a run with one of them singled out. -/
theorem procedureSyntheses_append_cons (earlier later : List ProcedureDefinition)
    (q : ProcedureDefinition) :
    p.procedureSyntheses catalog (earlier ++ q :: later) =
      p.procedureSyntheses catalog earlier ++ p.synthesisAfter catalog earlier q ::
        (p.synthesizeProcedures catalog later
          ((Registry.empty.insertAll (p.output catalog earlier).documents).insert
            (p.synthesisAfter catalog earlier q).document)).1 := by
  rw [procedureSyntheses, synthesizeProcedures_append, synthesizeProcedures_cons, registry_after]
  rfl

/-! ### Another procedure at one place -/

/-- **Another procedure at one place changes one synthesis**, if neither has the name of a table:
those after it find the same tables. -/
theorem procedureSyntheses_set {k : Nat} {q q' : ProcedureDefinition} (hk : procedures[k]? = some q)
    (free : q.name ∉ catalog.names) (free' : q'.name ∉ catalog.names) :
    (p.procedureSyntheses catalog procedures)[k]? =
        some (p.synthesisAfter catalog (procedures.take k) q) ∧
      p.procedureSyntheses catalog (procedures.set k q') =
        (p.procedureSyntheses catalog procedures).set k
          (p.synthesisAfter catalog (procedures.take k) q') := by
  obtain ⟨hlt, rfl⟩ := List.getElem?_eq_some_iff.mp hk
  obtain ⟨earlier, later, hsplit, rfl, hset⟩ : ∃ earlier later,
      procedures = earlier ++ procedures[k] :: later ∧ earlier.length = k ∧
        procedures.set k q' = earlier ++ q' :: later := List.exists_of_set hlt
  have length : (p.procedureSyntheses catalog earlier).length = earlier.length :=
    length_synthesizeProcedures _ _
  have take : procedures.take earlier.length = earlier := by
    rw [hsplit]
    exact List.take_left
  generalize procedures[earlier.length] = q at *
  -- both documents stand where no table does, so that those after them find the same tables
  have tables : Registry.AgreeOn (p.tableIds catalog)
      ((Registry.empty.insertAll (p.output catalog earlier).documents).insert
        (p.synthesisAfter catalog earlier q).document)
      ((Registry.empty.insertAll (p.output catalog earlier).documents).insert
        (p.synthesisAfter catalog earlier q').document) :=
    (Registry.agreeOn_insert_of_notMem (p.schemaId_notMem_tableIds free) _).trans
      (Registry.agreeOn_insert_of_notMem (p.schemaId_notMem_tableIds free') _).symm
  rw [hset, take, hsplit, procedureSyntheses_append_cons, procedureSyntheses_append_cons, ← length]
  constructor
  · rw [List.getElem?_append_right (Nat.le_refl _), Nat.sub_self, List.getElem?_cons_zero]
  · rw [List.set_append_right _ _ (Nat.le_refl _), Nat.sub_self, List.set_cons_zero,
      synthesizeProcedures_congr later tables]

theorem syntheses_set {k : Nat} {q q' : ProcedureDefinition} (hk : procedures[k]? = some q)
    (free : q.name ∉ catalog.names) (free' : q'.name ∉ catalog.names) :
    (p.syntheses catalog procedures)[catalog.size + k]? =
        some (p.synthesisAfter catalog (procedures.take k) q) ∧
      p.syntheses catalog (procedures.set k q') =
        (p.syntheses catalog procedures).set (catalog.size + k)
          (p.synthesisAfter catalog (procedures.take k) q') := by
  obtain ⟨own, replaced⟩ := procedureSyntheses_set (p := p) hk free free'
  have tables : (catalog.tables.entries.map p.tableSynthesis).length = catalog.size :=
    List.length_map _
  have place : catalog.size + k - catalog.size = k := Nat.add_sub_cancel_left ..
  constructor
  · rw [syntheses, List.getElem?_append_right (by omega), tables, place, own]
  · rw [syntheses, syntheses, List.set_append_right _ _ (by omega), tables, place, replaced]

/-- Two runs over the tables of a catalog, the second of which finds another definition of the
procedure `q` at the place `k`. -/
structure IsolatedAt (p : Pipeline) (catalog : Catalog) (procedures : List ProcedureDefinition)
    (k : Nat) (q q' : ProcedureDefinition) (out out' : RunOutput) (f f' : Registry) : Prop where
  /-- The documents of tables are the same. -/
  tables : out'.tableDocuments = out.tableDocuments
  /-- The document at the place is what the procedure gives after those before it. -/
  document : out.procedureDocuments[k]? =
    some (p.synthesisAfter catalog (procedures.take k) q).document
  /-- It is replaced by what the other procedure gives there, and no other document is. -/
  documents : out'.procedureDocuments = out.procedureDocuments.set k
    (p.synthesisAfter catalog (procedures.take k) q').document
  /-- The diagnostics are those of the entities, one entity after another. -/
  diagnostics : out.diagnostics = (p.findings catalog procedures).flatten
  /-- Those at the place are what was found about the procedure. -/
  finding : (p.findings catalog procedures)[catalog.size + k]? =
    some (p.synthesisAfter catalog (procedures.take k) q).diagnostics
  /-- They are replaced by what is found about the other procedure, and no others are. -/
  findings : out'.diagnostics = ((p.findings catalog procedures).set (catalog.size + k)
    (p.synthesisAfter catalog (procedures.take k) q').diagnostics).flatten
  /-- The registries differ under the identifier of the procedure at most. -/
  registry : Registry.AgreeOn {id | id ≠ p.schemaId q.name} f f'

/-- **Replacing a definition changes its procedure only**: whatever the text of the definition is,
the other documents, the other diagnostics and the other entries of the registry stay as they
are. -/
theorem isolatedAt_of_redefined (p : Pipeline) {source : MetadataSource} {catalog : Catalog}
    {procedures : List ProcedureDefinition} (ht : source.tables = .ok catalog)
    (hp : source.procedures = .ok procedures) {k : Nat} {q : ProcedureDefinition}
    (hk : procedures[k]? = some q) (free : q.name ∉ catalog.names) (text : String) (r : Registry) :
    ∃ out out' f f', p.run source r = .ok (out, f) ∧
      p.run { source with procedures := .ok (procedures.set k (q.redefine text)) } r =
        .ok (out', f') ∧
      p.IsolatedAt catalog procedures k q (q.redefine text) out out' f f' := by
  have ht' : ({ source with procedures := .ok (procedures.set k (q.redefine text)) } :
      MetadataSource).tables = .ok catalog := ht
  obtain ⟨own, replaced⟩ := procedureSyntheses_set (p := p) hk free
    (show (q.redefine text).name ∉ catalog.names from free)
  obtain ⟨ownAll, replacedAll⟩ := syntheses_set (p := p) hk free
    (show (q.redefine text).name ∉ catalog.names from free)
  refine ⟨_, _, _, _, run_eq ht hp r, run_eq ht' rfl r, ?_⟩
  exact {
    tables := by rw [tableDocuments_output, tableDocuments_output]
    document := by rw [procedureDocuments_output, List.getElem?_map, own, Option.map_some]
    documents := by
      rw [procedureDocuments_output, procedureDocuments_output, replaced, List.map_set]
    diagnostics := diagnostics_eq_flatten procedures
    finding := by rw [findings, List.getElem?_map, ownAll, Option.map_some]
    findings := by rw [diagnostics_eq_flatten, findings, findings, replacedAll, List.map_set]
    registry := by
      have ownDocument : (p.output catalog procedures).documents[catalog.size + k]? =
          some (p.synthesisAfter catalog (procedures.take k) q).document := by
        rw [documents_output_eq_map, List.getElem?_map, ownAll, Option.map_some]
      have sameId : (p.synthesisAfter catalog (procedures.take k) (q.redefine text)).document.id =
          (p.synthesisAfter catalog (procedures.take k) q).document.id := by
        rw [id_synthesisAfter, id_synthesisAfter]
        rfl
      -- both runs store the same documents but one, and that under one identifier
      have apart := Registry.agreeOn_insertAll_set ownDocument sameId r
      rw [id_synthesisAfter] at apart
      rw [documents_output_eq_map (procedures.set k _), replacedAll, List.map_set,
        ← documents_output_eq_map]
      exact apart }

/-- A database with two procedures of one name. -/
def repeated : StaticMetadata where
  tables := plain.tables
  procedures := plain.procedures ++ [.undated "report" "SELECT o.id FROM orders o"]

/-- In `repeated`, a first definition that is no SQL leaves the second procedure alone. -/
theorem isolatedAt_of_redefined_repeated :
    ∃ q, repeated.procedures[0]? = some q ∧ q.name ∉ repeated.tables.names ∧
      ∃ out out' f f', (standard .default).run repeated.source .empty = .ok (out, f) ∧
        (standard .default).run { repeated.source with
          procedures := .ok (repeated.procedures.set 0 (q.redefine "SELECT FROM")) } .empty =
            .ok (out', f') ∧
        (standard .default).IsolatedAt repeated.tables repeated.procedures 0 q
          (q.redefine "SELECT FROM") out out' f f' := by
  have free : (ProcedureDefinition.undated "report" "SELECT name FROM customers").name ∉
      repeated.tables.names := by decide
  exact ⟨_, rfl, free, isolatedAt_of_redefined (standard .default) rfl rfl rfl free _ _⟩

end Pipeline

end RowShape
