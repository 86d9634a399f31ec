import RowShape.Proofs.Document.Pointer
import RowShape.Proofs.Run.Reference

/-!
# Addresses in a run

A reference of a procedure is the address of a property of a table.  Names of tables and columns
stand in it as they are, although an address is cut at its slashes when it is followed.  Columns
whose names have neither slashes nor tildes are addressed well, and two references of a run are the
same text only if they stand for the same column of the same table.  With a slash in the name of a
column neither needs to hold.

## Main results

* `Pipeline.addresses_exact`: which addresses of a run lead to their properties, and which
  references stand for the same column
* `Pipeline.addresses_slashed`: two columns with one address, which leads to none of them
-/

namespace RowShape

open Json

namespace Pipeline

variable {p : Pipeline} {catalog : Catalog} {out : RunOutput}

/-- References to columns without slashes in their names are the same text only if they stand for
the same column of the same table. -/
theorem RefersTo.same {column column' table table' : String} {property property' : PropertySchema}
    {t t' : SchemaDocument} (h : p.RefersTo catalog out column property table t)
    (h' : p.RefersTo catalog out column' property' table' t')
    (text : property.reference = property'.reference) (plain : '/' ∉ column.toList)
    (plain' : '/' ∉ column'.toList) : column = column' ∧ table = table' := by
  obtain ⟨description, rfl⟩ := h.pointing
  obtain ⟨description', rfl⟩ := h'.pointing
  obtain ⟨ids, rfl⟩ := pointerTo_inj plain plain' (Option.some.inj text)
  exact ⟨rfl, p.schemaId_injective ids⟩

/-- **Addresses and references.**  The address of a property leads to it if its name has neither a
slash nor a tilde, and in general exactly if the name has no slash and is not written like the
escape of another name.  Whatever a run emits, two of its references to columns without slashes in
their names are the same text only if they stand for the same column of the same table. -/
theorem addresses_exact (p : Pipeline) {source : MetadataSource} {catalog : Catalog}
    {procedures : List ProcedureDefinition} (ht : source.tables = .ok catalog)
    (hp : source.procedures = .ok procedures) {r f : Registry} {out : RunOutput}
    (hrun : p.run source r = .ok (out, f)) :
    (∀ (d : SchemaDocument) (name : String) (property : PropertySchema),
        d.property? name = some property →
        ('/' ∉ name.toList → '~' ∉ name.toList → d.Addresses name property) ∧
        (d.Addresses name property ↔ '/' ∉ name.toList ∧
          d.property? (String.ofList (Pointer.unescape name.toList)) = some property)) ∧
      ∀ d ∈ out.procedureDocuments, ∀ d' ∈ out.procedureDocuments,
        ∀ column property column' property', d.property? column = some property →
          d'.property? column' = some property' → property.reference.isSome →
          property.reference = property'.reference →
          '/' ∉ column.toList → '/' ∉ column'.toList →
          column = column' ∧ ∃ table t t', p.RefersTo catalog out column property table t ∧
            p.RefersTo catalog out column' property' table t' := by
  refine ⟨fun d name property h => ⟨fun slash tilde => ?_, SchemaDocument.addresses_iff⟩, ?_⟩
  · refine SchemaDocument.addresses_iff.mpr ⟨slash, ?_⟩
    rwa [Pointer.unescape_of_notMem tilde, String.ofList_toList]
  · obtain ⟨rfl, -⟩ := eq_of_run ht hp hrun
    intro d hd d' hd' column property column' property' h h' href text plain plain'
    obtain ⟨table, columns, -, refers⟩ := refersTo_of_reference hd h href
    obtain ⟨table', columns', -, refers'⟩ := refersTo_of_reference hd' h' (text ▸ href)
    obtain ⟨rfl, rfl⟩ := refers.same refers' text plain plain'
    exact ⟨rfl, table, _, _, refers, refers'⟩

/-- A database in which a column of one table and another table have slashes in their names, and
three procedures.  The last two of them read the same column. -/
def slashed : StaticMetadata where
  tables := .ofRows [⟨"sales", "net/properties/total", ⟨"money", false⟩⟩,
    ⟨"sales/properties/net", "total", ⟨"int", false⟩⟩]
  procedures := [.undated "sums" "SELECT [net/properties/total] FROM sales",
    .undated "counts" "SELECT total FROM [sales/properties/net]",
    .undated "recounts" "SELECT n.total FROM [sales/properties/net] AS n"]

/-- The run over `slashed` emits three procedures, each with one reference. -/
theorem exists_run_slashed :
    ∃ out f sums counts recounts, (standard .default).run slashed.source .empty = .ok (out, f) ∧
      out.procedureDocuments = [sums, counts, recounts] ∧
      sums.property? "net/properties/total" =
        some (.pointing "#/definitions/sales/properties/net/properties/total"
          "net/properties/total from table sales") ∧
      counts.property? "total" =
        some (.pointing "#/definitions/sales/properties/net/properties/total"
          "total from table sales/properties/net") ∧
      recounts.property? "total" = counts.property? "total" := by
  have run : (standard .default).run slashed.source .empty = _ := run_eq rfl rfl _
  have said : ((standard .default).output slashed.tables slashed.procedures).procedureDocuments.map
      (fun d => d.properties.entries) =
        [[("net/properties/total",
            .pointing "#/definitions/sales/properties/net/properties/total"
              "net/properties/total from table sales")],
          [("total", .pointing "#/definitions/sales/properties/net/properties/total"
            "total from table sales/properties/net")],
          [("total", .pointing "#/definitions/sales/properties/net/properties/total"
            "total from table sales/properties/net")]] := by
    decide +kernel
  obtain ⟨sums, rest, listed, hs, said⟩ := List.map_eq_cons_iff.mp said
  obtain ⟨counts, rest, rfl, hc, said⟩ := List.map_eq_cons_iff.mp said
  obtain ⟨recounts, rest, rfl, hr, said⟩ := List.map_eq_cons_iff.mp said
  obtain rfl := List.map_eq_nil_iff.mp said
  refine ⟨_, _, sums, counts, recounts, run, listed, ?_, ?_, ?_⟩
  · rw [SchemaDocument.property?, OrderedMap.get?, hs]
    rfl
  · rw [SchemaDocument.property?, OrderedMap.get?, hc]
    rfl
  · rw [SchemaDocument.property?, OrderedMap.get?, hr, SchemaDocument.property?, OrderedMap.get?,
      hc]

/-- The last two procedures of `slashed` refer to the same column, whose name has no slash, and
their own addresses of it lead to what they say. -/
theorem addresses_exact_slashed :
    ∃ out f, (standard .default).run slashed.source .empty = .ok (out, f) ∧
      ∃ d ∈ out.procedureDocuments, ∃ d' ∈ out.procedureDocuments, ∃ property,
        d.property? "total" = some property ∧ d'.property? "total" = some property ∧
        property.reference.isSome ∧ d.Addresses "total" property ∧
        ∃ table t t', (standard .default).RefersTo slashed.tables out "total" property table t ∧
          (standard .default).RefersTo slashed.tables out "total" property table t' := by
  obtain ⟨out, f, sums, counts, recounts, run, listed, -, hc, hr⟩ := exists_run_slashed
  rw [hc] at hr
  have first : counts ∈ out.procedureDocuments := by simp [listed]
  have second : recounts ∈ out.procedureDocuments := by simp [listed]
  obtain ⟨leads, same⟩ := addresses_exact (standard .default) rfl rfl run
  obtain ⟨-, table, t, t', refers, refers'⟩ := same counts first recounts second "total" _ "total" _
    hc hr rfl rfl (by decide) (by decide)
  exact ⟨out, f, run, counts, first, recounts, second, _, hc, hr, rfl,
    (leads counts "total" _ hc).1 (by decide) (by decide), table, t, t', refers, refers'⟩

/-- **A slash in the name of a column misleads.**  In the run over `slashed`, the address of a
column of a table does not lead to the column, and the references to two different columns are the
same text. -/
theorem addresses_slashed :
    ∃ out f, (standard .default).run slashed.source .empty = .ok (out, f) ∧
      (∃ t ∈ out.tableDocuments, ∃ property,
        t.property? "net/properties/total" = some property ∧
          ¬ t.Addresses "net/properties/total" property) ∧
      ∃ d ∈ out.procedureDocuments, ∃ d' ∈ out.procedureDocuments, ∃ property property',
        d.property? "net/properties/total" = some property ∧ d'.property? "total" = some property' ∧
          property.reference.isSome ∧ property.reference = property'.reference := by
  obtain ⟨out, f, sums, counts, recounts, run, listed, hs, hc, -⟩ := exists_run_slashed
  have emitted : sums ∈ out.procedureDocuments := by simp [listed]
  refine ⟨out, f, run, ?_, sums, emitted, counts, by simp [listed], _, _, hs, hc, rfl, rfl⟩
  -- the reference of the first procedure is to a column of an emitted table
  obtain ⟨rfl, -⟩ := eq_of_run rfl rfl run
  obtain ⟨table, columns, -, refers⟩ := refersTo_of_reference emitted hs rfl
  obtain ⟨type, format, own⟩ := refers.own
  exact ⟨_, refers.emitted.1, _, own, fun leads =>
    absurd (SchemaDocument.addresses_iff.mp leads).1 (by decide)⟩

end Pipeline

end RowShape
