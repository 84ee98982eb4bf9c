import OpPolicy.Proofs.Op.Columns

set_option autoImplicit false

/-!
The columns of the catalogue are consistent, whichever of its ops permissions lead back to, so that
the builtin table is the catalogue (`OpTable.builtin_eq`).
-/

namespace OpPolicy.OpTable

theorem rows_columns : Catalogue.columns.rows = Catalogue.rows := by rfl

theorem full_columns : Catalogue.columns.Full := by
  rw [OpColumns.full_iff]
  decide

theorem nodup_publicNames : (Catalogue.rows.filterMap (·.publicName)).Nodup := by decide +kernel

theorem consistent_columns {runtimeOps : List OpId}
    (known : ∀ op ∈ runtimeOps, op.toNat < opCount) :
    Catalogue.columns.Consistent runtimeOps := by
  rw [consistent_iff, rows_columns]
  refine ⟨full_columns, ?_, nodup_publicNames, known⟩
  decide

theorem ofColumns_catalogue {runtimeOps : List OpId}
    (known : ∀ op ∈ runtimeOps, op.toNat < opCount) :
    ofColumns Catalogue.columns runtimeOps = .ok (ofRows Catalogue.rows runtimeOps) :=
  ofColumns_eq_ok_iff.mpr ⟨consistent_columns known, by rw [rows_columns]⟩

theorem runtimeOps_lt : ∀ op ∈ Catalogue.runtimeOps, op.toNat < opCount := by
  have all : Catalogue.runtimeOps.all (·.toNat < opCount) = true := by decide
  simpa using all

theorem builtin_eq : builtin = ofRows Catalogue.rows Catalogue.runtimeOps := by
  rw [builtin, ofColumns_catalogue runtimeOps_lt]

theorem row?_builtin (op : OpId) : builtin.row? op = Catalogue.rows[op.toNat]? := by
  rw [builtin_eq, row?, ofRows, List.getElem?_toArray]

end OpPolicy.OpTable
