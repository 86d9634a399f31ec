import RowShape.Proofs.Run

/-!
# Runs do not depend on their history

Whatever a registry holds when a run begins, left there by earlier runs, by hand or not at all, the
run emits the same documents with the same diagnostics.  What it leaves behind is the same under the
identifiers of these documents and untouched under all others, so that a second run of the same
source finds everything in place.

Names may coincide: the procedures of a run overwrite each other and its tables in the same order
from every start.

## Main definitions

* `Pipeline.RunsAgree`: two runs of one source with the same outcome

## Main results

* `Pipeline.runs_agree`: runs of one source agree from any two registries
-/

namespace RowShape

namespace Pipeline

/-- Two runs of one source, from `r` to `f` and from `s` to `g`, with the same outcome. -/
structure RunsAgree (p : Pipeline) (source : MetadataSource) (r s : Registry) (out : RunOutput)
    (f g : Registry) : Prop where
  /-- Both runs succeed and give the same documents, diagnostics and coverage. -/
  outputs : p.run source r = .ok (out, f) ∧ p.run source s = .ok (out, g)
  /-- Under the identifier of an emitted document both registries hold the same emitted document. -/
  emitted : ∀ d ∈ out.documents, ∃ e ∈ out.documents,
    e.id = d.id ∧ f.get? d.id = some e ∧ g.get? d.id = some e
  /-- Under any other identifier a registry is as it was before its run. -/
  others : ∀ id, (∀ d ∈ out.documents, d.id ≠ id) → f.get? id = r.get? id ∧ g.get? id = s.get? id
  /-- A second run gives the same once more and leaves the registry as it is. -/
  again : p.run source f = .ok (out, f)

/-- **Runs do not depend on their history**: from any two registries, the runs of a source whose
listings succeed agree. -/
theorem runs_agree (p : Pipeline) {source : MetadataSource} {catalog : Catalog}
    {procedures : List ProcedureDefinition} (ht : source.tables = .ok catalog)
    (hp : source.procedures = .ok procedures) (r s : Registry) :
    ∃ out f g, p.RunsAgree source r s out f g := by
  refine ⟨p.output catalog procedures, _, _, ⟨run_eq ht hp r, run_eq ht hp s⟩, ?_, ?_, ?_⟩
  · intro d hd
    obtain ⟨e, he, hid, found⟩ := Registry.exists_get?_insertAll ⟨d, hd, rfl⟩
    exact ⟨e, he, hid, found r, found s⟩
  · intro id hne
    exact ⟨Registry.get?_insertAll_of_ne hne, Registry.get?_insertAll_of_ne hne⟩
  · rw [run_eq ht hp, Registry.insertAll_insertAll]

/-- A registry with a table of another database under the name of that table. -/
def stale : Registry :=
  .insert .empty
    (Synthesizer.tableDocument .default "orders" (.ofList [("total", ⟨"money", true⟩)]))

/-- Runs agree although a procedure overwrites the table that it refers to, and one registry begins
with another table of that name. -/
theorem runs_agree_shadowed :
    shadowed.source.tables = .ok shadowed.tables ∧
      shadowed.source.procedures = .ok shadowed.procedures ∧
      ∃ out f g, (standard .default).RunsAgree shadowed.source .empty stale out f g :=
  ⟨rfl, rfl, runs_agree (standard .default) rfl rfl .empty stale⟩

end Pipeline

end RowShape
