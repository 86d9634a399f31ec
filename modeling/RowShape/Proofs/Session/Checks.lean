import RowShape.Proofs.Run
import RowShape.Session

/-!
# Checks only observe

Whether documents are checked, and by which rules, shows in the findings of the checks and nowhere
else.  A document is stored and returned before anybody asks what its check found, so that the next
document is built beside the same registry in either case.

Everything that can be asked of a session is compared with what a session answers that checks
nothing.  One operation gives the same but for the findings of checks (`Session.perform_unchecked`),
and by induction a sequence of operations does (`Session.performAll_unchecked`).  Two sessions with
the same choices apart from checks therefore agree with each other.

## Main definitions

* `Config.unchecked`, `Synthesizer.unchecked`, `Pipeline.unchecked`, `Session.unchecked`: the same
  without checks
* `Synthesis.unchecked`, `RunOutput.unchecked`, `Outcome.unchecked`: the same without what checks
  have found
* `Session.AgreeUnchecked`: two sessions that differ in what checks find only

## Main results

* `Pipeline.run_unchecked`: a run without checks
* `Session.performAll_unchecked`: a session without checks
* `Session.agreeUnchecked`: sessions that differ in their checks only agree
-/

namespace RowShape

/-! ### Leaving out checks -/

/-- The configuration with checks turned off. -/
def Config.unchecked (c : Config) : Config := { c with selfCheck := false }

/-- The synthesizer without checks and without rules for them. -/
def Synthesizer.unchecked (s : Synthesizer) : Synthesizer := ⟨s.config.unchecked, []⟩

/-- The pipeline without checks. -/
def Pipeline.unchecked (p : Pipeline) : Pipeline :=
  ⟨p.config.unchecked, p.parser, p.synthesizer.unchecked⟩

/-- The session without checks. -/
def Session.unchecked (s : Session) : Session := ⟨s.pipeline.unchecked, s.synthesizer.unchecked⟩

theorem Pipeline.synthesizer_unchecked (p : Pipeline) :
    p.unchecked.synthesizer = p.synthesizer.unchecked := rfl

theorem Session.pipeline_unchecked (s : Session) :
    s.unchecked.pipeline = s.pipeline.unchecked := rfl

theorem Session.synthesizer_unchecked (s : Session) :
    s.unchecked.synthesizer = s.synthesizer.unchecked := rfl

/-! ### Leaving out their findings -/

/-- Diagnostics without the findings of checks. -/
def withoutChecks (xs : List Diagnostic) : List Diagnostic := xs.filter (!·.isSelfCheckFailure)

/-- A document without the findings of its check. -/
def Synthesis.unchecked (s : Synthesis) : Synthesis := ⟨s.document, withoutChecks s.diagnostics⟩

/-- The output of a run without the findings of checks. -/
def RunOutput.unchecked (o : RunOutput) : RunOutput :=
  { o with diagnostics := withoutChecks o.diagnostics }

/-- An answer without the findings of checks. -/
def Outcome.unchecked : Outcome → Outcome
  | .ran output => .ran (output.map (·.unchecked))
  | .synthesized synthesis => .synthesized synthesis.unchecked
  | answer => answer

/-- The documents that are emitted with an answer. -/
def Outcome.emitted : Outcome → List SchemaDocument
  | .ran (.ok output) => output.documents
  | .synthesized synthesis => [synthesis.document]
  | _ => []

/-- The findings of checks are no documents. -/
theorem Outcome.emitted_unchecked (o : Outcome) : o.unchecked.emitted = o.emitted := by
  cases o with
  | ran output => cases output <;> rfl
  | _ => rfl

theorem withoutChecks_append (xs ys : List Diagnostic) :
    withoutChecks (xs ++ ys) = withoutChecks xs ++ withoutChecks ys := List.filter_append ..

theorem withoutChecks_eq_self {xs : List Diagnostic} (h : ∀ x ∈ xs, x.isSelfCheckFailure = false) :
    withoutChecks xs = xs :=
  List.filter_eq_self.mpr fun x hx => by rw [h x hx]; rfl

/-! ### Documents -/

namespace Synthesizer

variable (s : Synthesizer) (d : SchemaDocument) (r : Registry)

theorem selfCheck_unchecked : s.unchecked.selfCheck d = [] := rfl

/-- A check finds nothing but failures of checks. -/
theorem withoutChecks_selfCheck : withoutChecks (s.selfCheck d) = [] := by
  rw [selfCheck]
  split
  · cases checkDocument s.rules d <;> rfl
  · rfl

/-- **A document is stored and returned** whatever its check finds. -/
theorem finish_unchecked :
    s.unchecked.finish r d = ((s.finish r d).1.unchecked, (s.finish r d).2) := by
  simp only [finish, selfCheck_unchecked, Synthesis.unchecked, withoutChecks_selfCheck]

theorem synthesizeTable_unchecked (name : String) (columns : TableColumns) :
    s.unchecked.synthesizeTable name columns r =
      ((s.synthesizeTable name columns r).1.unchecked, (s.synthesizeTable name columns r).2) :=
  s.finish_unchecked _ r

theorem synthesizeProcedure_unchecked (name : String) (columns : List ResolvedColumn) :
    s.unchecked.synthesizeProcedure name columns r =
      ((s.synthesizeProcedure name columns r).1.unchecked,
        (s.synthesizeProcedure name columns r).2) :=
  s.finish_unchecked _ r

end Synthesizer

/-! ### Runs -/

/-- References are resolved without regard to checks. -/
theorem resolve_unchecked (entity : String) (c : Config) (catalog : Catalog)
    (refs : List ColumnRef) :
    resolve entity c.unchecked catalog refs = resolve entity c catalog refs := by
  induction refs with
  | nil => rfl
  | cons r refs ih =>
    rw [resolve, ih]
    rfl

namespace Pipeline

variable (p : Pipeline) (catalog : Catalog) (r : Registry)

theorem inferProcedure_unchecked (q : ProcedureDefinition) :
    p.unchecked.inferProcedure q catalog = p.inferProcedure q catalog := by
  simp only [inferProcedure, unchecked, resolve_unchecked]

theorem synthesizeProcedure_unchecked (q : ProcedureDefinition) :
    p.unchecked.synthesizeProcedure q catalog r =
      ((p.synthesizeProcedure q catalog r).1.unchecked, (p.synthesizeProcedure q catalog r).2) := by
  -- what inferring the columns finds is no finding of a check
  have own : withoutChecks (p.inferProcedure q catalog).diagnostics =
      (p.inferProcedure q catalog).diagnostics :=
    withoutChecks_eq_self fun _ => p.isSelfCheckFailure_inferProcedure
  have built := p.synthesizer.synthesizeProcedure_unchecked r q.name
    (p.inferProcedure q catalog).columns
  simp only [synthesizeProcedure, inferProcedure_unchecked, Synthesis.unchecked,
    withoutChecks_append, own]
  rw [synthesizer_unchecked, built]
  rfl

theorem synthesizeTables_unchecked (ts : List (String × TableColumns)) :
    p.unchecked.synthesizeTables ts r =
      ((p.synthesizeTables ts r).1.map (·.unchecked), (p.synthesizeTables ts r).2) := by
  have each (t : String × TableColumns) :
      p.unchecked.tableSynthesis t = (p.tableSynthesis t).unchecked :=
    congrArg Prod.fst (p.synthesizer.synthesizeTable_unchecked r t.1 t.2)
  rw [synthesizeTables_eq, synthesizeTables_eq, List.map_map, List.map_congr_left fun t _ => each t]
  rfl

theorem synthesizeProcedures_unchecked (ps : List ProcedureDefinition) :
    p.unchecked.synthesizeProcedures catalog ps r =
      ((p.synthesizeProcedures catalog ps r).1.map (·.unchecked),
        (p.synthesizeProcedures catalog ps r).2) := by
  induction ps generalizing r with
  | nil => rfl
  | cons q ps ih =>
    rw [synthesizeProcedures_cons, synthesizeProcedures_cons, synthesizeProcedure_unchecked, ih]
    rfl

/-- **A run without checks** emits the same documents and stores the same, and it finds the same
but for the failures of checks. -/
theorem run_unchecked (source : MetadataSource) :
    p.unchecked.run source r = (p.run source r).map fun o => (o.1.unchecked, o.2) := by
  -- a listing that fails does so whether or not there are checks
  rcases ht : source.tables with e | catalog
  · simp only [run, ht]
    rfl
  rcases hp : source.procedures with e | procedures
  · simp only [run, ht, hp]
    rfl
  have findings (ss : List Synthesis) :
      (ss.map (·.unchecked)).flatMap (·.diagnostics) =
        withoutChecks (ss.flatMap (·.diagnostics)) := by
    induction ss with
    | nil => rfl
    | cons s ss ih =>
      rw [List.map_cons, List.flatMap_cons, ih, List.flatMap_cons, withoutChecks_append]
      rfl
  simp only [run, ht, hp, bind, Except.bind, pure, Except.pure, synthesizeTables_unchecked,
    synthesizeProcedures_unchecked, ← List.map_append, findings, List.map_map]
  rfl

end Pipeline

/-! ### Sessions -/

namespace Session

variable (s : Session)

/-- **Step**: an operation on a session without checks. -/
theorem perform_unchecked (r : Registry) (op : Operation) :
    s.unchecked.perform r op = ((s.perform r op).1.unchecked, (s.perform r op).2) := by
  cases op with
  | run source =>
    simp only [perform, pipeline_unchecked, Pipeline.run_unchecked]
    cases s.pipeline.run source r <;> rfl
  | infer procedure catalog =>
    simp only [perform, pipeline_unchecked, Pipeline.inferProcedure_unchecked]
    rfl
  | synthesize procedure catalog =>
    simp only [perform, pipeline_unchecked, Pipeline.synthesizeProcedure_unchecked]
    rfl
  | tableDocument name columns =>
    simp only [perform, synthesizer_unchecked, Synthesizer.synthesizeTable_unchecked]
    rfl
  | procedureDocument name columns =>
    simp only [perform, synthesizer_unchecked, Synthesizer.synthesizeProcedure_unchecked]
    rfl
  | _ => rfl

/-- **Run**: operations one after another on a session without checks. -/
theorem performAll_unchecked (r : Registry) (ops : List Operation) :
    s.unchecked.performAll r ops =
      ((s.performAll r ops).1.map (·.unchecked), (s.performAll r ops).2) := by
  induction ops generalizing r with
  | nil => rfl
  | cons op ops ih =>
    simp only [performAll, perform_unchecked, ih]
    rfl

/-- Two sessions that differ in the findings of checks only. -/
structure AgreeUnchecked (s t : Session) : Prop where
  /-- Whatever they are asked for, be it tables, procedures or whole databases, and in whatever
  order, they emit the same documents. -/
  emitted : ∀ r ops, (s.performAll r ops).1.map (·.emitted) = (t.performAll r ops).1.map (·.emitted)
  /-- They leave the same registry behind. -/
  registries : ∀ r ops, (s.performAll r ops).2 = (t.performAll r ops).2
  /-- Their answers are the same but for the findings of checks. -/
  answers : ∀ r ops,
    (s.performAll r ops).1.map (·.unchecked) = (t.performAll r ops).1.map (·.unchecked)
  /-- So is the outcome of a run: both fail with the same error, or both emit the same documents,
  find the same but for failures of checks, and leave the same registry behind. -/
  runs : ∀ source r,
    (s.pipeline.run source r).map (fun o => (o.1.unchecked, o.2)) =
      (t.pipeline.run source r).map fun o => (o.1.unchecked, o.2)

/-- **Checks only observe**: sessions with the same choices, apart from whether documents are
checked and by which rules, agree. -/
theorem agreeUnchecked {s t : Session} (h : s.unchecked = t.unchecked) : s.AgreeUnchecked t := by
  have answers (r : Registry) (ops : List Operation) :
      (s.performAll r ops).1.map (·.unchecked) = (t.performAll r ops).1.map (·.unchecked) ∧
        (s.performAll r ops).2 = (t.performAll r ops).2 := by
    rw [← Prod.mk.injEq, ← performAll_unchecked, ← performAll_unchecked, h]
  have pipelines : s.pipeline.unchecked = t.pipeline.unchecked := congrArg (·.pipeline) h
  -- both sides are compared with what the session without checks gives, which is one session
  exact {
    emitted := fun r ops => by
      have same := congrArg (List.map (·.emitted)) (answers r ops).1
      simpa only [List.map_map, Function.comp_def, Outcome.emitted_unchecked] using same
    registries := fun r ops => (answers r ops).2
    answers := fun r ops => (answers r ops).1
    runs := fun source r => by
      rw [← Pipeline.run_unchecked, ← Pipeline.run_unchecked, pipelines] }

/-- A session in which every check fails. -/
def rejecting : Session :=
  ⟨⟨.default, sqlColumns Config.default.dialect Config.default.marks,
      ⟨.default, [fun _ => .error (.other "rejected")]⟩⟩,
    ⟨.default, [fun _ => .error (.other "rejected")]⟩⟩

/-- A session in which every check fails and one without checks agree. -/
theorem agreeUnchecked_rejecting :
    rejecting.unchecked = (standard Config.default.unchecked).unchecked ∧
      rejecting.AgreeUnchecked (standard Config.default.unchecked) :=
  ⟨rfl, agreeUnchecked rfl⟩

end Session

end RowShape
