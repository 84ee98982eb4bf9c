import Std.Data.HashMap
import OpPolicy.Op.Catalogue

set_option autoImplicit false

/-!
The op table: rows in op order, with an index by public name and one by permission. A table is made
from columns and refuses columns that do not fit together; only the ops of the runtime set can be
found by their permission.
-/

namespace OpPolicy

structure OpTable where
  rows : Array OpRow
  byPublicName : Std.HashMap String OpId
  byPermission : Std.HashMap String OpId

namespace OpTable

def checkLengths (c : OpColumns) : Except Error Unit :=
  match c.lengths.find? (·.2 ≠ opCount) with
  | some (title, length) =>
    .error (.configuration s!"{title} column has {length} entries, expected {opCount}")
  | none => .ok ()

/-- Enter a row's public name, once its switch is known to be an op. -/
def enterPublicName (index : Std.HashMap String OpId) (row : OpRow) :
    Except Error (Std.HashMap String OpId) :=
  if opCount ≤ row.switch.toNat then
    .error (.configuration s!"op {row.op} ({row.name}) switches on unknown op {row.switch}")
  else
    match row.publicName with
    | none => .ok index
    | some p =>
      match index[p]? with
      | some earlier =>
        .error (.configuration s!"public name {p} used by both op {earlier} and op {row.op}")
      | none => .ok (index.insert p row.op)

/-- Enter the permission of an op of the runtime set; the last op of a permission keeps it. -/
def enterPermission (rows : Array OpRow) (index : Std.HashMap String OpId) (op : OpId) :
    Except Error (Std.HashMap String OpId) :=
  match rows[op.toNat]? with
  | none => .error (.configuration s!"runtime permission op {op} is unknown")
  | some row =>
    match row.permission with
    | none => .ok index
    | some p => .ok (index.insert p op)

def ofColumns (c : OpColumns) (runtimeOps : List OpId) : Except Error OpTable := do
  checkLengths c
  let byPublicName ← c.rows.foldlM enterPublicName ∅
  let rows := c.rows.toArray
  let byPermission ← runtimeOps.foldlM (enterPermission rows) ∅
  return ⟨rows, byPublicName, byPermission⟩

def row? (t : OpTable) (op : OpId) : Option OpRow := t.rows[op.toNat]?

def size (t : OpTable) : Nat := t.rows.size

def opForPublicName? (t : OpTable) (name : String) : Option OpId := t.byPublicName[name]?

def opForPermission? (t : OpTable) (permission : String) : Option OpId :=
  t.byPermission[permission]?

/-- The least op with a name. -/
def opForName? (t : OpTable) (name : String) : Option OpId :=
  (t.rows.find? (·.name = name)).map (·.op)

def opForName (t : OpTable) (name : String) : Except Error OpId :=
  match t.opForName? name with
  | some op => .ok op
  | none => .error (.notFound s!"unknown op name {name}")

/-- The op whose mode governs `op`. -/
def switchFor? (t : OpTable) (op : OpId) : Option OpId := (t.row? op).map (·.switch)

def defaultModeFor? (t : OpTable) (op : OpId) : Option Mode := (t.row? op).map (·.defaultMode)

/-- The name of an op; no op at all has a name too, and so has an op beyond the table. -/
def nameFor (t : OpTable) : Option OpId → String
  | none => "NONE"
  | some op =>
    match t.row? op with
    | some row => row.name
    | none => s!"Unknown({op})"

/-- The table of the catalogue. -/
def builtin : OpTable :=
  match ofColumns Catalogue.columns Catalogue.runtimeOps with
  | .ok t => t
  | .error _ => ⟨#[], ∅, ∅⟩

end OpTable

end OpPolicy
