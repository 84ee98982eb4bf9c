import Mathlib.Data.List.ReduceOption
import Std.Data.HashMap.Lemmas
import OpPolicy.Op.Table
import OpPolicy.Proofs.Outcome

set_option autoImplicit false

/-!
Which columns make an op table, and what the table then says. The rows of full columns are their
entries place by place (`OpColumns.Full.getElem?_rows_eq_some_iff`). Both indexes are filled in the
same way, and the last entry of a key stays (`OpTable.getElem?_foldl_enter`). Consistent columns are
accepted and no others (`OpTable.ofColumns_eq_ok_iff`), and then every lookup can be read off them
(`OpTable.consistent_columns_accepted`).
-/

namespace OpPolicy

namespace OpColumns

/-- Every column has one entry for each op. -/
structure Full (c : OpColumns) : Prop where
  switches : c.switches.length = opCount
  publicNames : c.publicNames.length = opCount
  names : c.names.length = opCount
  permissions : c.permissions.length = opCount
  restrictions : c.restrictions.length = opCount
  systemBypass : c.systemBypass.length = opCount
  defaultModes : c.defaultModes.length = opCount
  disableReset : c.disableReset.length = opCount

/-- A row is made of the entries that all columns have at its op's place. -/
structure Shows (c : OpColumns) (row : OpRow) : Prop where
  switch : c.switches[row.op.toNat]? = some row.switch
  publicName : c.publicNames[row.op.toNat]? = some row.publicName
  name : c.names[row.op.toNat]? = some row.name
  permission : c.permissions[row.op.toNat]? = some row.permission
  restriction : c.restrictions[row.op.toNat]? = some row.restriction
  systemBypass : c.systemBypass[row.op.toNat]? = some row.systemBypass
  defaultMode : c.defaultModes[row.op.toNat]? = some row.defaultMode
  resettable : c.disableReset[row.op.toNat]? = some (!row.resettable)

/-- Columns that fit together, and fit with the ops that permissions lead back to. -/
structure Consistent (c : OpColumns) (runtimeOps : List OpId) : Prop where
  full : c.Full
  switches : ∀ switch ∈ c.switches, switch.toNat < opCount
  publicNames : c.publicNames.reduceOption.Nodup
  runtimeOps : ∀ op ∈ runtimeOps, op.toNat < opCount

variable {c : OpColumns}

theorem full_iff : c.Full ↔ ∀ column ∈ c.lengths, column.2 = opCount := by
  simp only [lengths, List.forall_mem_cons, List.not_mem_nil, false_implies, implies_true, and_true]
  constructor
  · rintro ⟨h₁, h₂, h₃, h₄, h₅, h₆, h₇, h₈⟩
    exact ⟨h₁, h₂, h₃, h₄, h₅, h₆, h₇, h₈⟩
  · rintro ⟨h₁, h₂, h₃, h₄, h₅, h₆, h₇, h₈⟩
    exact ⟨h₁, h₂, h₃, h₄, h₅, h₆, h₇, h₈⟩

theorem row?_eq_some_iff {i : Nat} (known : i < opCount) {row : OpRow} :
    c.row? i = some row ↔ row.op.toNat = i ∧ c.Shows row := by
  have small : (UInt32.ofNat i).toNat = i :=
    UInt32.toNat_ofNat_of_lt' (Nat.lt_trans known (by decide))
  simp only [row?, Option.pure_def, Option.bind_eq_bind, Option.bind_eq_some_iff, Option.some.injEq]
  constructor
  · rintro ⟨switch, h₁, publicName, h₂, name, h₃, permission, h₄, restriction, h₅, bypass, h₆, mode,
      h₇, reset, h₈, rfl⟩
    refine ⟨small, ?_⟩
    constructor <;> simp only [small, Bool.not_not] <;> assumption
  · rintro ⟨rfl, shows⟩
    refine ⟨_, shows.switch, _, shows.publicName, _, shows.name, _, shows.permission, _,
      shows.restriction, _, shows.systemBypass, _, shows.defaultMode, _, shows.resettable, ?_⟩
    simp

theorem getElem?_filterMap {α β : Type} {f : α → Option β} {l : List α}
    (all : ∀ a ∈ l, ∃ b, f a = some b) (i : Nat) : (l.filterMap f)[i]? = l[i]?.bind f := by
  induction l generalizing i with
  | nil => rfl
  | cons a l ih =>
    obtain ⟨⟨b, first⟩, later⟩ := List.forall_mem_cons.mp all
    rw [List.filterMap_cons_some first]
    cases i with
    | zero => simp [first]
    | succ i => simpa using ih later i

namespace Full

theorem exists_row (full : c.Full) {i : Nat} (known : i < opCount) :
    ∃ row, c.row? i = some row := by
  have entry {α : Type} {column : List α} (length : column.length = opCount) :
      ∃ a, column[i]? = some a := ⟨_, List.getElem?_eq_getElem (length ▸ known)⟩
  obtain ⟨_, switch⟩ := entry full.switches
  obtain ⟨_, publicName⟩ := entry full.publicNames
  obtain ⟨_, name⟩ := entry full.names
  obtain ⟨_, permission⟩ := entry full.permissions
  obtain ⟨_, restriction⟩ := entry full.restrictions
  obtain ⟨_, systemBypass⟩ := entry full.systemBypass
  obtain ⟨_, defaultMode⟩ := entry full.defaultModes
  obtain ⟨_, disableReset⟩ := entry full.disableReset
  simp [row?, switch, publicName, name, permission, restriction, systemBypass, defaultMode,
    disableReset]

theorem getElem?_rows (full : c.Full) (i : Nat) : c.rows[i]? = c.row? i := by
  have all : ∀ i ∈ List.range opCount, ∃ row, c.row? i = some row := fun i mem =>
    full.exists_row (List.mem_range.mp mem)
  rw [rows, getElem?_filterMap all]
  by_cases known : i < opCount
  · simp [known]
  · -- one column that ends here is enough for there to be no row
    have beyond : c.switches[i]? = none :=
      List.getElem?_eq_none (full.switches ▸ Nat.le_of_not_lt known)
    simp [known, row?, beyond]

theorem lt_of_getElem?_rows (full : c.Full) {i : Nat} {row : OpRow}
    (found : c.rows[i]? = some row) : i < opCount := by
  by_contra beyond
  have none : c.switches[i]? = none :=
    List.getElem?_eq_none (full.switches ▸ Nat.le_of_not_lt beyond)
  simp [full.getElem?_rows, row?, none] at found

/-- The row at a place is that of its own op, with the entries of its own place. -/
theorem getElem?_rows_eq_some_iff (full : c.Full) {i : Nat} {row : OpRow} :
    c.rows[i]? = some row ↔ row.op.toNat = i ∧ c.Shows row := by
  constructor
  · intro found
    have known := full.lt_of_getElem?_rows found
    rwa [full.getElem?_rows, row?_eq_some_iff known] at found
  · rintro ⟨rfl, shows⟩
    have known : row.op.toNat < opCount := by
      obtain ⟨known, -⟩ := List.getElem?_eq_some_iff.mp shows.switch
      rwa [full.switches] at known
    rw [full.getElem?_rows, row?_eq_some_iff known]
    exact ⟨rfl, shows⟩

theorem mem_rows_iff (full : c.Full) {row : OpRow} : row ∈ c.rows ↔ c.Shows row := by
  constructor
  · intro mem
    obtain ⟨i, found⟩ := List.mem_iff_getElem?.mp mem
    exact (full.getElem?_rows_eq_some_iff.mp found).2
  · intro shows
    exact List.mem_of_getElem? (full.getElem?_rows_eq_some_iff.mpr ⟨rfl, shows⟩)

/-- Along the rows, one finds each column again. -/
theorem map_rows (full : c.Full) {α : Type} {column : List α} (length : column.length = opCount)
    {entry : OpRow → α} (shows : ∀ row, c.Shows row → column[row.op.toNat]? = some (entry row)) :
    c.rows.map entry = column := by
  refine List.ext_getElem? fun i => ?_
  rw [List.getElem?_map]
  by_cases known : i < opCount
  · obtain ⟨row, found⟩ := full.exists_row known
    obtain ⟨rfl, shown⟩ := (row?_eq_some_iff known).mp found
    rw [full.getElem?_rows, found, shows row shown, Option.map_some]
  · have beyond : column[i]? = none := List.getElem?_eq_none (length ▸ Nat.le_of_not_lt known)
    have none : c.rows[i]? = none := by
      rw [Option.eq_none_iff_forall_ne_some]
      exact fun row found => known (full.lt_of_getElem?_rows found)
    rw [beyond, none, Option.map_none]

theorem map_name_rows (full : c.Full) : c.rows.map (·.name) = c.names :=
  full.map_rows full.names fun _ shows => shows.name

theorem map_switch_rows (full : c.Full) : c.rows.map (·.switch) = c.switches :=
  full.map_rows full.switches fun _ shows => shows.switch

theorem map_publicName_rows (full : c.Full) : c.rows.map (·.publicName) = c.publicNames :=
  full.map_rows full.publicNames fun _ shows => shows.publicName

theorem map_permission_rows (full : c.Full) : c.rows.map (·.permission) = c.permissions :=
  full.map_rows full.permissions fun _ shows => shows.permission

theorem length_rows (full : c.Full) : c.rows.length = opCount := by
  rw [← List.length_map (·.name), full.map_name_rows, full.names]

theorem filterMap_publicName_rows (full : c.Full) :
    c.rows.filterMap OpRow.publicName = c.publicNames.reduceOption := by
  rw [← full.map_publicName_rows, List.reduceOption, List.filterMap_map]
  rfl

end Full

end OpColumns

namespace OpTable

section Index
variable {α : Type} (key : α → Option String) (op : α → OpId)

/-- Enter an op under its key, if it has one, in place of what was found there. -/
def enter (index : Std.HashMap String OpId) (a : α) : Std.HashMap String OpId :=
  match key a with
  | none => index
  | some k => index.insert k (op a)

variable {key op} in
theorem enter_of_none {index : Std.HashMap String OpId} {a : α} (none : key a = none) :
    enter key op index a = index := by
  rw [enter, none]

variable {key op} in
theorem enter_of_some {index : Std.HashMap String OpId} {a : α} {k : String}
    (own : key a = some k) : enter key op index a = index.insert k (op a) := by
  rw [enter, own]

theorem getElem?_enter (index : Std.HashMap String OpId) (a : α) (k : String) :
    (enter key op index a)[k]? = if key a = some k then some (op a) else index[k]? := by
  cases own : key a with
  | none => simp [enter_of_none own]
  | some k' => simp [enter_of_some own, Std.HashMap.getElem?_insert]

variable {key op} in
/-- A key is free after an entry if it was free before and is another key. -/
theorem enter_free_iff {index : Std.HashMap String OpId} {a : α} {k : String}
    (own : key a = some k) {keys : List String} :
    (∀ k' ∈ keys, (enter key op index a)[k']? = none) ↔
      k ∉ keys ∧ ∀ k' ∈ keys, index[k']? = none := by
  have each (k' : String) :
      (enter key op index a)[k']? = none ↔ k ≠ k' ∧ index[k']? = none := by
    rw [getElem?_enter, own]
    by_cases same : k = k'
    · simp only [same, if_true, reduceCtorEq, ne_eq, not_true, false_and]
    · simp only [Option.some.injEq, same, if_false, ne_eq, not_false_eq_true, true_and]
  simp only [each, forall_and]
  refine and_congr_left fun _ => ⟨fun ne mem => ne k mem rfl, fun other k' mem same => ?_⟩
  exact other (same ▸ mem)

/-- The last entry of a key stays. -/
theorem getElem?_foldl_enter (l : List α) (index : Std.HashMap String OpId) (k : String) :
    (l.foldl (enter key op) index)[k]? =
      ((l.filter (key · = some k)).getLast?.map op).or index[k]? := by
  induction l generalizing index with
  | nil => rfl
  | cons a l ih =>
    rw [List.foldl_cons, ih, getElem?_enter]
    by_cases own : key a = some k
    · rw [List.filter_cons_of_pos (by simpa using own), List.getLast?_cons]
      cases (l.filter (key · = some k)).getLast? <;> simp [own]
    · simp [own]

end Index

theorem checkLengths_eq_ok_iff {c : OpColumns} : checkLengths c = .ok () ↔ c.Full := by
  rw [OpColumns.full_iff]
  have none :
      c.lengths.find? (·.2 ≠ opCount) = none ↔ ∀ column ∈ c.lengths, column.2 = opCount := by
    rw [List.find?_eq_none]
    simp
  rw [← none, checkLengths]
  cases c.lengths.find? (·.2 ≠ opCount) <;> simp

section PublicNames
variable {rows : List OpRow} {index index' : Std.HashMap String OpId}

theorem enterPublicName_eq_ok_iff {row : OpRow} :
    enterPublicName index row = .ok index' ↔
      row.switch.toNat < opCount ∧ (∀ p ∈ row.publicName, index[p]? = none) ∧
        index' = enter OpRow.publicName OpRow.op index row := by
  by_cases known : row.switch.toNat < opCount
  · rw [enterPublicName, if_neg (Nat.not_le.mpr known)]
    cases name : row.publicName with
    | none =>
      rw [enter_of_none name]
      simp [known, eq_comm]
    | some p =>
      rw [enter_of_some name]
      simp only [known, Option.mem_def, Option.some.injEq, forall_eq', true_and]
      cases index[p]? with
      | none => simp only [Except.ok.injEq, true_and, eq_comm]
      | some earlier => simp only [reduceCtorEq, false_and]
  · rw [enterPublicName, if_pos (Nat.le_of_not_lt known)]
    simp [known]

/-- No name may be there before, and none may come twice. -/
theorem foldlM_enterPublicName_eq_ok_iff :
    rows.foldlM enterPublicName index = .ok index' ↔
      (∀ row ∈ rows, row.switch.toNat < opCount) ∧ (rows.filterMap OpRow.publicName).Nodup ∧
        (∀ p ∈ rows.filterMap OpRow.publicName, index[p]? = none) ∧
        index' = rows.foldl (enter OpRow.publicName OpRow.op) index := by
  induction rows generalizing index with
  | nil => simp [pure, Except.pure, eq_comm]
  | cons row rows ih =>
    have step : (row :: rows).foldlM enterPublicName index = .ok index' ↔
        (row.switch.toNat < opCount ∧ ∀ p ∈ row.publicName, index[p]? = none) ∧
          rows.foldlM enterPublicName (enter OpRow.publicName OpRow.op index row) = .ok index' := by
      simp only [List.foldlM_cons, bind_eq_ok, enterPublicName_eq_ok_iff]
      constructor
      · rintro ⟨_, ⟨known, free, rfl⟩, later⟩
        exact ⟨⟨known, free⟩, later⟩
      · rintro ⟨⟨known, free⟩, later⟩
        exact ⟨_, ⟨known, free, rfl⟩, later⟩
    rw [step, ih, List.forall_mem_cons, List.foldl_cons]
    cases name : row.publicName with
    | none =>
      rw [List.filterMap_cons_none name, enter_of_none name]
      simp only [Option.mem_def, reduceCtorEq, false_implies, implies_true, and_true, and_assoc]
    | some p =>
      -- the later names have to be free after this one was entered, so they have to be others
      rw [List.filterMap_cons_some name, List.nodup_cons, List.forall_mem_cons,
        enter_free_iff name]
      simp only [Option.mem_def, Option.some.injEq, forall_eq']
      tauto

end PublicNames

section Permissions
variable {rows : Array OpRow} {ops : List OpId} {index index' : Std.HashMap String OpId}

/-- The permission of an op, if it has a row and the row has a permission. -/
def permissionIn (rows : Array OpRow) (op : OpId) : Option String :=
  rows[op.toNat]?.bind (·.permission)

theorem enterPermission_eq_ok_iff {op : OpId} :
    enterPermission rows index op = .ok index' ↔
      op.toNat < rows.size ∧ index' = enter (permissionIn rows) id index op := by
  by_cases known : op.toNat < rows.size
  · have row : rows[op.toNat]? = some rows[op.toNat] := Array.getElem?_eq_getElem known
    cases has : rows[op.toNat].permission with
    | none =>
      have own : permissionIn rows op = none := by rw [permissionIn, row, Option.bind_some, has]
      simp [enterPermission, has, known, enter_of_none own, eq_comm]
    | some p =>
      have own : permissionIn rows op = some p := by rw [permissionIn, row, Option.bind_some, has]
      simp [enterPermission, has, known, enter_of_some own, eq_comm]
  · simp [enterPermission, known]

theorem foldlM_enterPermission_eq_ok_iff :
    ops.foldlM (enterPermission rows) index = .ok index' ↔
      (∀ op ∈ ops, op.toNat < rows.size) ∧
        index' = ops.foldl (enter (permissionIn rows) id) index := by
  induction ops generalizing index with
  | nil => simp [pure, Except.pure, eq_comm]
  | cons op ops ih =>
    simp only [List.foldlM_cons, bind_eq_ok, enterPermission_eq_ok_iff, ih, List.forall_mem_cons,
      List.foldl_cons]
    constructor
    · rintro ⟨_, ⟨here, rfl⟩, later, rfl⟩
      exact ⟨⟨here, later⟩, rfl⟩
    · rintro ⟨⟨here, later⟩, rfl⟩
      exact ⟨_, ⟨here, rfl⟩, later, rfl⟩

end Permissions

/-- The table of rows, whether they are consistent or not. -/
def ofRows (rows : List OpRow) (runtimeOps : List OpId) : OpTable where
  rows := rows.toArray
  byPublicName := rows.foldl (enter OpRow.publicName OpRow.op) ∅
  byPermission := runtimeOps.foldl (enter (permissionIn rows.toArray) id) ∅

variable {c : OpColumns} {runtimeOps : List OpId} {t : OpTable}

theorem consistent_iff :
    c.Consistent runtimeOps ↔
      c.Full ∧ (∀ row ∈ c.rows, row.switch.toNat < opCount) ∧
        (c.rows.filterMap OpRow.publicName).Nodup ∧
        ∀ op ∈ runtimeOps, op.toNat < c.rows.toArray.size := by
  have switches (full : c.Full) :
      (∀ row ∈ c.rows, row.switch.toNat < opCount) ↔
        ∀ switch ∈ c.switches, switch.toNat < opCount := by
    rw [← full.map_switch_rows, List.forall_mem_map]
  have size (full : c.Full) : c.rows.toArray.size = opCount := full.length_rows
  constructor
  · rintro ⟨full, known, distinct, runtime⟩
    rw [size full, full.filterMap_publicName_rows, switches full]
    exact ⟨full, known, distinct, runtime⟩
  · rintro ⟨full, known, distinct, runtime⟩
    rw [size full] at runtime
    rw [full.filterMap_publicName_rows] at distinct
    exact ⟨full, (switches full).mp known, distinct, runtime⟩

/-- Consistent columns are accepted, and no others. -/
theorem ofColumns_eq_ok_iff :
    ofColumns c runtimeOps = .ok t ↔ c.Consistent runtimeOps ∧ t = ofRows c.rows runtimeOps := by
  simp only [ofColumns, bind_eq_ok, foldlM_enterPublicName_eq_ok_iff,
    foldlM_enterPermission_eq_ok_iff, pure, Except.pure, Except.ok.injEq]
  constructor
  · rintro ⟨_, lengths, _, ⟨known, distinct, -, rfl⟩, _, ⟨runtime, rfl⟩, rfl⟩
    have full : c.Full := checkLengths_eq_ok_iff.mp lengths
    exact ⟨consistent_iff.mpr ⟨full, known, distinct, runtime⟩, rfl⟩
  · rintro ⟨consistent, rfl⟩
    obtain ⟨full, known, distinct, runtime⟩ := consistent_iff.mp consistent
    have free : ∀ p ∈ c.rows.filterMap OpRow.publicName,
        (∅ : Std.HashMap String OpId)[p]? = none := fun p _ => Std.HashMap.getElem?_empty
    exact ⟨(), checkLengths_eq_ok_iff.mpr full, _, ⟨known, distinct, free, rfl⟩, _,
      ⟨runtime, rfl⟩, rfl⟩

theorem failsByConfiguration_ofColumns (c : OpColumns) (runtimeOps : List OpId) :
    FailsByConfiguration (ofColumns c runtimeOps) := by
  have lengths : FailsByConfiguration (checkLengths c) := by
    unfold checkLengths
    split
    · exact failsByConfiguration_error _
    · exact failsByConfiguration_ok ()
  have publicName (index : Std.HashMap String OpId) (row : OpRow) :
      FailsByConfiguration (enterPublicName index row) := by
    unfold enterPublicName
    split
    · exact failsByConfiguration_error _
    · split
      · exact failsByConfiguration_ok _
      · split
        · exact failsByConfiguration_error _
        · exact failsByConfiguration_ok _
  have permission (index : Std.HashMap String OpId) (op : OpId) :
      FailsByConfiguration (enterPermission c.rows.toArray index op) := by
    unfold enterPermission
    split
    · exact failsByConfiguration_error _
    · split
      · exact failsByConfiguration_ok _
      · exact failsByConfiguration_ok _
  refine lengths.bind fun _ => ?_
  refine (FailsByConfiguration.foldlM publicName c.rows ∅).bind fun byPublicName => ?_
  refine (FailsByConfiguration.foldlM permission runtimeOps ∅).bind fun byPermission => ?_
  exact failsByConfiguration_ok _

theorem eq_of_nodup_filterMap {α β : Type} {f : α → Option β} {l : List α}
    (distinct : (l.filterMap f).Nodup) {a b : α} (memA : a ∈ l) (memB : b ∈ l) {k : β}
    (ownA : f a = some k) (ownB : f b = some k) : a = b := by
  induction l with
  | nil => cases memA
  | cons d l ih =>
    have alone {e : α} (mem : e ∈ l) (own : f e = some k) : f d ≠ some k := by
      intro own'
      rw [List.filterMap_cons_some own', List.nodup_cons] at distinct
      exact distinct.1 (List.mem_filterMap.mpr ⟨e, mem, own⟩)
    rcases List.mem_cons.mp memA with rfl | laterA <;>
      rcases List.mem_cons.mp memB with rfl | laterB
    · rfl
    · exact absurd ownA (alone laterB ownB)
    · exact absurd ownB (alone laterA ownA)
    · exact ih (distinct.sublist ((List.sublist_cons_self d l).filterMap f)) laterA laterB

section Lookups
variable (full : c.Full)
include full

theorem row?_ofRows_eq_some_iff {op : OpId} {row : OpRow} :
    (ofRows c.rows runtimeOps).row? op = some row ↔ row.op = op ∧ c.Shows row := by
  have rows : (ofRows c.rows runtimeOps).row? op = c.rows[op.toNat]? := by
    rw [row?, ofRows, List.getElem?_toArray]
  rw [rows, full.getElem?_rows_eq_some_iff, UInt32.toNat_inj]

theorem row?_ofRows_eq_none_iff {op : OpId} :
    (ofRows c.rows runtimeOps).row? op = none ↔ opCount ≤ op.toNat := by
  rw [row?, ofRows, List.getElem?_toArray, List.getElem?_eq_none_iff, full.length_rows]

theorem permissionIn_rows_eq_some_iff {op : OpId} {p : String} :
    permissionIn c.rows.toArray op = some p ↔ c.permissions[op.toNat]? = some (some p) := by
  rw [permissionIn, List.getElem?_toArray, ← full.map_permission_rows, List.getElem?_map]
  cases c.rows[op.toNat]? <;> simp

/-- A public name leads to the one op that has it. -/
theorem opForPublicName?_ofRows_eq_some_iff (distinct : (c.rows.filterMap OpRow.publicName).Nodup)
    {p : String} {op : OpId} :
    (ofRows c.rows runtimeOps).opForPublicName? p = some op ↔
      c.publicNames[op.toNat]? = some (some p) := by
  rw [opForPublicName?, ofRows, getElem?_foldl_enter, Std.HashMap.getElem?_empty, Option.or_none,
    Option.map_eq_some_iff]
  constructor
  · rintro ⟨row, last, rfl⟩
    obtain ⟨mem, named⟩ := List.mem_filter.mp (List.mem_of_getLast? last)
    rw [(full.mem_rows_iff.mp mem).publicName]
    simpa using named
  · intro entry
    rw [← full.map_publicName_rows, List.getElem?_map, Option.map_eq_some_iff] at entry
    obtain ⟨row, found, named⟩ := entry
    have mem : row ∈ c.rows.filter (·.publicName = some p) :=
      List.mem_filter.mpr ⟨List.mem_of_getElem? found, by simpa using named⟩
    obtain ⟨row', last⟩ : ∃ row', (c.rows.filter (·.publicName = some p)).getLast? = some row' :=
      Option.isSome_iff_exists.mp (List.getLast?_isSome.mpr (List.ne_nil_of_mem mem))
    obtain ⟨mem', named'⟩ := List.mem_filter.mp (List.mem_of_getLast? last)
    -- names are distinct, so that the last row with the name is the only one
    obtain rfl := eq_of_nodup_filterMap distinct mem' (List.mem_of_getElem? found)
      (by simpa using named') named
    exact ⟨row', last, UInt32.toNat_inj.mp (full.getElem?_rows_eq_some_iff.mp found).1⟩

/-- A name leads to the least op that has it. -/
theorem opForName?_ofRows_eq_some_iff {s : String} {op : OpId} :
    (ofRows c.rows runtimeOps).opForName? s = some op ↔
      c.names[op.toNat]? = some s ∧ ∀ i < op.toNat, c.names[i]? ≠ some s := by
  have entry (i : Nat) : c.names[i]? = c.rows[i]?.map (·.name) := by
    rw [← full.map_name_rows, List.getElem?_map]
  rw [opForName?, ofRows, List.find?_toArray, Option.map_eq_some_iff]
  constructor
  · rintro ⟨row, found, rfl⟩
    obtain ⟨named, i, known, rfl, before⟩ := List.find?_eq_some_iff_getElem.mp found
    obtain ⟨place, shows⟩ := full.getElem?_rows_eq_some_iff.mp (List.getElem?_eq_getElem known)
    refine ⟨shows.name.trans (congrArg some (by simpa using named)), fun j earlier => ?_⟩
    rw [place] at earlier
    have other := before j earlier
    rw [entry, List.getElem?_eq_getElem (Nat.lt_trans earlier known)]
    simpa using other
  · rintro ⟨named, before⟩
    rw [entry, Option.map_eq_some_iff] at named
    obtain ⟨row, found, named⟩ := named
    obtain ⟨known, here⟩ := List.getElem?_eq_some_iff.mp found
    refine ⟨row, List.find?_eq_some_iff_getElem.mpr ⟨by simpa using named, _, known, here, ?_⟩,
      UInt32.toNat_inj.mp (full.getElem?_rows_eq_some_iff.mp found).1⟩
    intro j earlier
    have other := before j earlier
    rw [entry, List.getElem?_eq_getElem (Nat.lt_trans earlier known)] at other
    simpa using other

theorem opForName?_ofRows_eq_none_iff {s : String} :
    (ofRows c.rows runtimeOps).opForName? s = none ↔ s ∉ c.names := by
  rw [opForName?, ofRows, List.find?_toArray, Option.map_eq_none_iff, List.find?_eq_none,
    ← full.map_name_rows]
  simp

end Lookups

/-- What a table says is what the columns say, row by row and lookup by lookup. -/
structure Reflects (t : OpTable) (c : OpColumns) (runtimeOps : List OpId) : Prop where
  row : ∀ op row, t.row? op = some row ↔ row.op = op ∧ c.Shows row
  beyond : ∀ op, t.row? op = none ↔ opCount ≤ op.toNat
  publicName : ∀ p op, t.opForPublicName? p = some op ↔ c.publicNames[op.toNat]? = some (some p)
  permission : ∀ p op, t.opForPermission? p = some op →
    op ∈ runtimeOps ∧ c.permissions[op.toNat]? = some (some p)
  noPermission : ∀ p, t.opForPermission? p = none ↔
    ∀ op ∈ runtimeOps, c.permissions[op.toNat]? ≠ some (some p)
  name : ∀ s op, t.opForName s = .ok op ↔
    c.names[op.toNat]? = some s ∧ ∀ i < op.toNat, c.names[i]? ≠ some s
  noName : ∀ s, s ∉ c.names → t.opForName s = .error (.notFound s!"unknown op name {s}")

/-- The permission of an op, if it is an op of the table and has one. -/
def permissionFor? (t : OpTable) (op : OpId) : Option String := (t.row? op).bind (·.permission)

theorem opForPermission?_ofRows (rows : List OpRow) (runtimeOps : List OpId) (p : String) :
    (ofRows rows runtimeOps).opForPermission? p =
      (runtimeOps.filter ((ofRows rows runtimeOps).permissionFor? · = some p)).getLast? := by
  rw [opForPermission?, ofRows, getElem?_foldl_enter, Std.HashMap.getElem?_empty, Option.or_none,
    Option.map_id]
  rfl

theorem reflects_of_ok (accepted : ofColumns c runtimeOps = .ok t) : t.Reflects c runtimeOps := by
  obtain ⟨consistent, rfl⟩ := ofColumns_eq_ok_iff.mp accepted
  obtain ⟨full, -, distinct, -⟩ := consistent_iff.mp consistent
  have permission (op : OpId) (p : String) :
      (ofRows c.rows runtimeOps).permissionFor? op = some p ↔
        c.permissions[op.toNat]? = some (some p) := permissionIn_rows_eq_some_iff full
  constructor
  · exact fun op row => row?_ofRows_eq_some_iff full
  · exact fun op => row?_ofRows_eq_none_iff full
  · exact fun p op => opForPublicName?_ofRows_eq_some_iff full distinct
  · intro p op found
    rw [opForPermission?_ofRows] at found
    obtain ⟨mem, has⟩ := List.mem_filter.mp (List.mem_of_getLast? found)
    exact ⟨mem, (permission op p).mp (by simpa using has)⟩
  · intro p
    rw [opForPermission?_ofRows, List.getLast?_eq_none_iff, List.filter_eq_nil_iff]
    simp only [decide_eq_true_eq, permission, ne_eq]
  · intro s op
    have least : (ofRows c.rows runtimeOps).opForName? s = some op ↔
        c.names[op.toNat]? = some s ∧ ∀ i < op.toNat, c.names[i]? ≠ some s :=
      opForName?_ofRows_eq_some_iff full
    rw [← least, opForName]
    cases (ofRows c.rows runtimeOps).opForName? s <;> simp
  · intro s absent
    rw [opForName, (opForName?_ofRows_eq_none_iff full).mpr absent]

/-- The consistent columns are accepted, all others are mistakes in the configuration, and a table
says what its columns say. -/
theorem consistent_columns_accepted (c : OpColumns) (runtimeOps : List OpId) :
    ((∃ t, ofColumns c runtimeOps = .ok t) ↔ c.Consistent runtimeOps) ∧
    (∀ e, ofColumns c runtimeOps = .error e → ∃ text, e = .configuration text) ∧
    ∀ t, ofColumns c runtimeOps = .ok t → t.Reflects c runtimeOps := by
  refine ⟨⟨?_, fun consistent => ?_⟩, failsByConfiguration_ofColumns c runtimeOps,
    fun t => reflects_of_ok⟩
  · rintro ⟨t, accepted⟩
    exact (ofColumns_eq_ok_iff.mp accepted).1
  · exact ⟨_, ofColumns_eq_ok_iff.mpr ⟨consistent, rfl⟩⟩

end OpTable

end OpPolicy
