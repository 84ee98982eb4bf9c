import OpPolicy.Proofs.Json.Record

set_option autoImplicit false

/-!
The types that cross the wire. Each is written and read by rules of its own; what they have to keep
is that what is written is spelled as JSON spells it and that reading it gives back the value
(`Wire`). Whatever keeps that survives the text: a written value reads back (`Wire.decode?_encode`),
and a text that was read once is settled by being written (`Wire.settles`).
-/

namespace OpPolicy

open Json (Spelled Holds)

/-- How the values of a type cross the wire. -/
structure Wire (α : Type) where
  toJson : α → Json
  ofJson? : Json → Option α
  spelled : ∀ a, Spelled (toJson a)
  ofJson?_toJson : ∀ a, ofJson? (toJson a) = some a

namespace Wire
variable {α : Type} (w : Wire α)

/-- The compact text of a value. -/
def encode (a : α) : String := String.ofList (w.toJson a).render

/-- The value that a text means. -/
def decode? (text : String) : Option α := (Json.read text.toList).bind w.ofJson?

theorem decode?_encode (a : α) : w.decode? (w.encode a) = some a := by
  rw [decode?, encode, String.toList_ofList, Json.read_render (w.spelled a), Option.bind_some,
    w.ofJson?_toJson]

/-- A text that a text was read and written to does not change if it is read and written again. -/
def Settles : Prop :=
  ∀ text a, w.decode? text = some a → (w.decode? (w.encode a)).map w.encode = some (w.encode a)

theorem settles : w.Settles := by
  intro text a _
  rw [w.decode?_encode, Option.map_some]

theorem decode?_eq_none {text : String} {v : Json} (read : Json.read text.toList = some v)
    (refused : w.ofJson? v = none) : w.decode? text = none := by
  rw [decode?, read, Option.bind_some, refused]

end Wire

section Modes

theorem Mode.ofJson?_toJson (m : Mode) : ofJson? m.toJson = some m := by
  rw [ofJson?, toJson, Json.int?_integer, Option.bind_some, ofNumber?_number]

def Mode.wire : Wire Mode where
  toJson := Mode.toJson
  ofJson? := Mode.ofJson?
  spelled m := Json.spelled_integer m.number
  ofJson?_toJson := Mode.ofJson?_toJson

theorem Mode.number_bounds (m : Mode) : 0 ≤ m.number ∧ m.number ≤ 4 := by
  cases m <;> decide

/-- A value is an integer that is no mode's number. -/
def Mode.Unknown (v : Json) : Prop := ∃ n : Int, v.int? = some n ∧ ¬ (0 ≤ n ∧ n ≤ 4)

theorem Mode.ofJson?_of_unknown {v : Json} (unknown : Mode.Unknown v) : ofJson? v = none := by
  obtain ⟨n, spelled, outside⟩ := unknown
  rw [ofJson?, spelled, Option.bind_some]
  cases known : ofNumber? n with
  | none => rfl
  | some m =>
    rw [ofNumber?_eq_some_iff] at known
    exact absurd (known ▸ m.number_bounds) outside

theorem Flags.ofJson?_toJson (f : Flags) : ofJson? f.toJson = some f := by
  have small : f.toNat < 2 ^ 7 := f.bits.isLt
  have same : (UInt32.ofNat f.toNat).toNat = f.toNat :=
    UInt32.toNat_ofNat_of_lt' (Nat.lt_of_lt_of_le small (by decide))
  have written : f.toJson = Json.ofUInt32 (UInt32.ofNat f.toNat) := by
    rw [toJson, Json.ofUInt32, same]
  rw [ofJson?, written, Json.uint32?_ofUInt32, Option.map_some, same, ofNat, toNat,
    BitVec.ofNat_toNat, BitVec.setWidth_eq]

def Flags.wire : Wire Flags where
  toJson := Flags.toJson
  ofJson? := Flags.ofJson?
  spelled f := Json.spelled_integer f.toNat
  ofJson?_toJson := Flags.ofJson?_toJson

end Modes

section Records

theorem App.ofJson?_toJson (app : App) : ofJson? app.toJson = some app := by
  rw [ofJson?, toJson, Json.fields?_record (by decide) rfl]
  simp only [Option.bind_eq_bind, Option.bind_some, Json.text?_text, Json.uint32?_ofUInt32,
    Flags.ofJson?_toJson, Option.pure_def]

theorem OpEntry.ofJson?_toJson (e : OpEntry) : ofJson? e.toJson = some e := by
  rw [ofJson?, toJson, Json.fields?_record (by decide) rfl]
  simp only [Option.bind_eq_bind, Option.bind_some, Json.int64?_ofInt64, Json.uint32?_ofUInt32,
    Mode.ofJson?_toJson, Option.pure_def]

theorem PackageOps.ofJson?_toJson (p : PackageOps) : ofJson? p.toJson = some p := by
  have entries : (p.ops.map OpEntry.toJson).mapM OpEntry.ofJson? = some p.ops := by
    rw [mapM_eq_some_iff, List.forall₂_map_left_iff, List.forall₂_same]
    exact fun e _ => OpEntry.ofJson?_toJson e
  rw [ofJson?, toJson, Json.fields?_record (by decide) rfl]
  simp only [Option.bind_eq_bind, Option.bind_some, Json.text?_text, Json.uint32?_ofUInt32,
    Json.array?, entries, Option.pure_def]

theorem App.spelled_toJson (app : App) : Spelled app.toJson := by
  apply Json.spelled_record
  simp [fieldNames, Json.spelled_text, Json.spelled_integer, Json.ofUInt32, Flags.toJson]

theorem OpEntry.spelled_toJson (e : OpEntry) : Spelled e.toJson := by
  apply Json.spelled_record
  simp [fieldNames, Json.spelled_integer, Json.ofUInt32, Json.ofInt64, Mode.toJson]

theorem PackageOps.spelled_toJson (p : PackageOps) : Spelled p.toJson := by
  have entries : Spelled (.array (p.ops.map OpEntry.toJson)) := by
    apply Spelled.array
    intro v mem
    obtain ⟨e, -, rfl⟩ := List.mem_map.mp mem
    exact e.spelled_toJson
  apply Json.spelled_record
  simp [fieldNames, Json.spelled_text, Json.spelled_integer, Json.ofUInt32, entries]

def App.wire : Wire App := ⟨toJson, ofJson?, spelled_toJson, ofJson?_toJson⟩

def OpEntry.wire : Wire OpEntry := ⟨toJson, ofJson?, spelled_toJson, ofJson?_toJson⟩

def PackageOps.wire : Wire PackageOps := ⟨toJson, ofJson?, spelled_toJson, ofJson?_toJson⟩

theorem OpEntry.ofJson?_of_unknown {v m : Json} (holds : Holds fieldNames "mode" v m)
    (unknown : Mode.Unknown m) : ofJson? v = none := by
  unfold ofJson?
  cases read : v.fields? fieldNames with
  | none => rfl
  | some values =>
    have there := holds.eq_of_fields? (by decide) read (i := 1) rfl
    simp only [Option.bind_eq_bind, Option.bind_some]
    split
    · rename_i op mode time rejectTime duration
      obtain rfl : mode = m := Option.some.inj there
      simp only [Mode.ofJson?_of_unknown unknown, Option.bind_none, Option.bind_fun_none]
    · rfl

theorem PackageOps.ofJson?_of_unknown {v e m : Json} {entries : List Json}
    (ops : Holds fieldNames "ops" v (.array entries)) (mem : e ∈ entries)
    (holds : Holds OpEntry.fieldNames "mode" e m) (unknown : Mode.Unknown m) :
    ofJson? v = none := by
  have refused : entries.mapM OpEntry.ofJson? = none := by
    rw [Option.eq_none_iff_forall_ne_some]
    intro es read
    obtain ⟨entry, own⟩ := exists_of_mem_of_mapM read mem
    rw [OpEntry.ofJson?_of_unknown holds unknown] at own
    cases own
  unfold ofJson?
  cases read : v.fields? fieldNames with
  | none => rfl
  | some values =>
    have there := ops.eq_of_fields? (by decide) read (i := 2) rfl
    simp only [Option.bind_eq_bind, Option.bind_some]
    split
    · rename_i name uid list
      obtain rfl : list = .array entries := Option.some.inj there
      simp only [Json.array?, Option.bind_some, refused, Option.bind_none, Option.bind_fun_none]
    · rfl

end Records

/-- Package records and apps survive their text; whatever is read as any of the five types is
settled by being written; and no unknown mode gets in, by itself, in an entry or in one of the
entries of a package. -/
theorem Wire.round_trips :
    (∀ p, PackageOps.wire.decode? (PackageOps.wire.encode p) = some p) ∧
    (∀ app, App.wire.decode? (App.wire.encode app) = some app) ∧
    (Mode.wire.Settles ∧ Flags.wire.Settles ∧ App.wire.Settles ∧ OpEntry.wire.Settles ∧
      PackageOps.wire.Settles) ∧
    ∀ text v, Json.read text.toList = some v →
      (Mode.Unknown v → Mode.wire.decode? text = none) ∧
      (∀ m, Holds OpEntry.fieldNames "mode" v m → Mode.Unknown m →
        OpEntry.wire.decode? text = none) ∧
      ∀ entries e m, Holds PackageOps.fieldNames "ops" v (.array entries) → e ∈ entries →
        Holds OpEntry.fieldNames "mode" e m → Mode.Unknown m →
        PackageOps.wire.decode? text = none := by
  refine ⟨PackageOps.wire.decode?_encode, App.wire.decode?_encode,
    ⟨Mode.wire.settles, Flags.wire.settles, App.wire.settles, OpEntry.wire.settles,
      PackageOps.wire.settles⟩, ?_⟩
  intro text v read
  refine ⟨fun unknown => ?_, fun m holds unknown => ?_, fun entries e m ops mem holds unknown => ?_⟩
  · exact Mode.wire.decode?_eq_none read (Mode.ofJson?_of_unknown unknown)
  · exact OpEntry.wire.decode?_eq_none read (OpEntry.ofJson?_of_unknown holds unknown)
  · exact PackageOps.wire.decode?_eq_none read (PackageOps.ofJson?_of_unknown ops mem holds unknown)

example : OpEntry.wire.decode? "[26, 1, -5, 1, 0]" = some ⟨26, .ignored, -5, 1, 0⟩ ∧
    OpEntry.wire.decode? "[26, 5, -5, 1, 0]" = none := by
  decide +kernel

end OpPolicy
