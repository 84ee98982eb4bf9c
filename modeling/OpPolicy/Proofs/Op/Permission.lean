import Mathlib.Data.List.Nodup
import OpPolicy.Proofs.Op.Table

set_option autoImplicit false

/-!
What permissions lead back to. Of all ops of the runtime set with one permission, the last is found
by it, so that every op is found by its permission if and only if no two share one
(`OpTable.found_by_permission`). The builtin table is of this kind, but not every table that can be
built is (`OpTable.shared_permission_lost`).
-/

namespace OpPolicy.OpTable

theorem permissionFor?_ofRows (rows : List OpRow) (runtimeOps : List OpId) (op : OpId) :
    (ofRows rows runtimeOps).permissionFor? op = rows[op.toNat]?.bind (·.permission) := by
  rw [permissionFor?, row?, ofRows, List.getElem?_toArray]

theorem nodup_permissions :
    (Catalogue.runtimeOps.map fun op => Catalogue.rows[op.toNat]?.bind (·.permission)).Nodup := by
  decide +kernel

/-- A permission leads to the last op that has it, and to every op only if each has its own. -/
theorem found_by_permission {c : OpColumns} {runtimeOps : List OpId} {t : OpTable}
    (accepted : ofColumns c runtimeOps = .ok t) :
    (∀ p, t.opForPermission? p = (runtimeOps.filter (t.permissionFor? · = some p)).getLast?) ∧
    ((∀ op ∈ runtimeOps, ∀ p, t.permissionFor? op = some p → t.opForPermission? p = some op) ↔
      ∀ op ∈ runtimeOps, ∀ other ∈ runtimeOps, ∀ p,
        t.permissionFor? op = some p → t.permissionFor? other = some p → op = other) := by
  obtain ⟨-, rfl⟩ := ofColumns_eq_ok_iff.mp accepted
  have last (p : String) : (ofRows c.rows runtimeOps).opForPermission? p =
      (runtimeOps.filter ((ofRows c.rows runtimeOps).permissionFor? · = some p)).getLast? :=
    opForPermission?_ofRows c.rows runtimeOps p
  refine ⟨last, fun found op mem other mem' p has has' => ?_, fun alone op mem p has => ?_⟩
  · exact Option.some.inj ((found op mem p has).symm.trans (found other mem' p has'))
  · have among : op ∈ runtimeOps.filter ((ofRows c.rows runtimeOps).permissionFor? · = some p) :=
      List.mem_filter.mpr ⟨mem, by simpa using has⟩
    obtain ⟨other, found⟩ := Option.isSome_iff_exists.mp
      (List.getLast?_isSome.mpr (List.ne_nil_of_mem among))
    obtain ⟨mem', has'⟩ := List.mem_filter.mp (List.mem_of_getLast? found)
    rw [last, found, alone op mem other mem' p has (by simpa using has')]

theorem builtin_found_by_permission :
    ofColumns Catalogue.columns Catalogue.runtimeOps = .ok builtin ∧
      ∀ op ∈ Catalogue.runtimeOps, ∀ p,
        builtin.permissionFor? op = some p → builtin.opForPermission? p = some op := by
  have accepted : ofColumns Catalogue.columns Catalogue.runtimeOps = .ok builtin := by
    rw [builtin_eq, ofColumns_catalogue runtimeOps_lt]
  refine ⟨accepted, (found_by_permission accepted).2.mpr ?_⟩
  intro op mem other mem' p has has'
  rw [builtin_eq, permissionFor?_ofRows] at has has'
  exact List.inj_on_of_nodup_map nodup_permissions mem mem' (has.trans has'.symm)

/-- `READ_SMS` and `READ_ICC_SMS` share a permission, and the table forgets the first of them. -/
theorem shared_permission_lost :
    ∃ t, ofColumns Catalogue.columns [14, 21] = .ok t ∧
      t.permissionFor? 14 = some "android.permission.READ_SMS" ∧
      t.opForPermission? "android.permission.READ_SMS" = some 21 := by
  refine ⟨_, ofColumns_catalogue (by simp [opCount]), ?_, ?_⟩
  · rw [permissionFor?_ofRows]
    rfl
  · simp only [opForPermission?_ofRows, permissionFor?_ofRows]
    rfl

end OpPolicy.OpTable
