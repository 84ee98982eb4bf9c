import OpPolicy.Authority.Call
import OpPolicy.Json.Value
import OpPolicy.Package.App
import OpPolicy.Text.Numeral

set_option autoImplicit false

/-!
How modes, flags, apps and op records cross the wire. A mode is its number, and a number that is no
mode is refused; flags are a bit mask whose unknown bits are dropped.
-/

namespace OpPolicy

namespace Json

def uint32? (v : Json) : Option UInt32 := do
  let n ← v.int?
  if 0 ≤ n ∧ n ≤ Numeral.maxUInt32 then some (UInt32.ofNat n.toNat) else none

def int64? (v : Json) : Option Int64 := do
  let n ← v.int?
  if Numeral.fitsInt64 n then some (Int64.ofInt n) else none

def ofUInt32 (n : UInt32) : Json := integer n.toNat

def ofInt64 (n : Int64) : Json := integer n.toInt

end Json

def Mode.toJson (m : Mode) : Json := .integer m.number

def Mode.ofJson? (v : Json) : Option Mode := v.int?.bind Mode.ofNumber?

def Flags.toJson (f : Flags) : Json := .integer f.toNat

def Flags.ofJson? (v : Json) : Option Flags := v.uint32?.map fun n => .ofNat n.toNat

namespace App

def fieldNames : List String := ["pkg_name", "uid", "flags", "label"]

def toJson (app : App) : Json :=
  .record (fieldNames.zip
    [.text app.name, .ofUInt32 app.uid, app.flags.toJson, .text app.label])

def ofJson? (v : Json) : Option App := do
  match ← v.fields? fieldNames with
  | [name, uid, flags, label] =>
    return ⟨← name.text?, ← uid.uint32?, ← Flags.ofJson? flags, ← label.text?⟩
  | _ => none

end App

namespace OpEntry

def fieldNames : List String := ["op", "mode", "time", "reject_time", "duration"]

def toJson (e : OpEntry) : Json :=
  .record (fieldNames.zip
    [.ofUInt32 e.op, e.mode.toJson, .ofInt64 e.time, .ofInt64 e.rejectTime, .ofInt64 e.duration])

def ofJson? (v : Json) : Option OpEntry := do
  match ← v.fields? fieldNames with
  | [op, mode, time, rejectTime, duration] =>
    return ⟨← op.uint32?, ← Mode.ofJson? mode, ← time.int64?, ← rejectTime.int64?,
      ← duration.int64?⟩
  | _ => none

end OpEntry

namespace PackageOps

def fieldNames : List String := ["package_name", "uid", "ops"]

def toJson (p : PackageOps) : Json :=
  .record (fieldNames.zip
    [.text p.packageName, .ofUInt32 p.uid, .array (p.ops.map OpEntry.toJson)])

def ofJson? (v : Json) : Option PackageOps := do
  match ← v.fields? fieldNames with
  | [name, uid, ops] =>
    return ⟨← name.text?, ← uid.uint32?, ← (← ops.array?).mapM OpEntry.ofJson?⟩
  | _ => none

end PackageOps

namespace OpRow

/-- A row as JSON; an absent column is null. -/
def toJson (row : OpRow) : Json :=
  .record [("op", .ofUInt32 row.op), ("name", .text row.name),
    ("public_name", optional row.publicName), ("switch", .ofUInt32 row.switch),
    ("permission", optional row.permission), ("restriction", optional row.restriction),
    ("default_mode", row.defaultMode.toJson), ("allow_system_bypass", .bool row.systemBypass),
    ("allow_reset", .bool row.resettable)]
where
  optional (s : Option String) : Json := (s.map Json.text).getD .null

end OpRow

end OpPolicy
