import Mathlib.Data.List.Forall2
import Mathlib.Data.List.Nodup
import OpPolicy.Json.Record
import OpPolicy.Proofs.Json.Value
import OpPolicy.Proofs.Outcome

set_option autoImplicit false

/-!
Records and their fields. A record that was written with distinct field names has just these values
at them (`fields?_record`), and a field of whatever is read, object or array, is what stands at it
(`holds_of_fields?`).
-/

namespace OpPolicy

theorem exists_of_mem_of_mapM {α β : Type} {f : α → Option β} {as : List α} {bs : List β}
    (all : as.mapM f = some bs) {a : α} (mem : a ∈ as) : ∃ b, f a = some b := by
  obtain ⟨i, inside, rfl⟩ := List.getElem_of_mem mem
  obtain ⟨full, each⟩ := List.forall₂_iff_get.mp (mapM_eq_some_iff.mp all)
  exact ⟨_, each i inside (full ▸ inside)⟩

namespace Json

section Scalars

theorem text?_text (s : String) : (text s).text? = some s := by
  rw [text, text?, unescape_escape, Option.map_some, String.ofList_toList]

theorem int?_integer (n : Int) : (integer n).int? = some n := integer?_spellInteger n

theorem uint32?_ofUInt32 (n : UInt32) : (ofUInt32 n).uint32? = some n := by
  have small : n.toNat ≤ Numeral.maxUInt32 := Nat.le_of_lt_succ n.toNat_lt
  rw [uint32?, ofUInt32, int?_integer]
  simp [small]

theorem int64?_ofInt64 (n : Int64) : (ofInt64 n).int64? = some n := by
  have fits : Numeral.fitsInt64 n.toInt = true := by
    have low := n.le_toInt
    have high := n.toInt_lt
    rw [Numeral.fitsInt64, Bool.and_eq_true, decide_eq_true_eq, decide_eq_true_eq]
    exact ⟨low, Int.le_of_lt_add_one high⟩
  rw [int64?, ofInt64, int?_integer]
  simp [fits]

theorem spelled_text (s : String) : Spelled (text s) := .string (.escape s.toList)

theorem spelled_integer (n : Int) : Spelled (integer n) := .number (.spellInteger n)

end Scalars

section Fields

theorem spelled_record {fields : List (String × Json)} (values : ∀ f ∈ fields, Spelled f.2) :
    Spelled (record fields) := by
  apply Spelled.object
  · intro m mem
    obtain ⟨f, -, rfl⟩ := List.mem_map.mp mem
    exact .escape f.1.toList
  · intro m mem
    obtain ⟨f, own, rfl⟩ := List.mem_map.mp mem
    exact values f own

theorem filter_name {fields : List (String × Json)} (distinct : (fields.map Prod.fst).Nodup)
    {name : String} {v : Json} (mem : (name, v) ∈ fields) :
    fields.filter (fun f => f.1 = name) = [(name, v)] := by
  obtain ⟨before, after, rfl⟩ := List.append_of_mem mem
  rw [List.map_append, List.map_cons, List.nodup_middle, List.nodup_cons, List.mem_append,
    not_or] at distinct
  have elsewhere {part : List (String × Json)} (fresh : name ∉ part.map Prod.fst) :
      part.filter (fun f => f.1 = name) = [] := by
    rw [List.filter_eq_nil_iff]
    intro f mem same
    exact fresh (of_decide_eq_true same ▸ List.mem_map_of_mem mem)
  rw [List.filter_append, elsewhere distinct.1.1, List.nil_append,
    List.filter_cons_of_pos (by simp), elsewhere distinct.1.2]

theorem member?_record {fields : List (String × Json)} (distinct : (fields.map Prod.fst).Nodup)
    {name : String} {v : Json} (mem : (name, v) ∈ fields) :
    member? name (fields.map fun f => (escape f.1.toList, f.2)) = some v := by
  have named : (fun m : List Char × Json => decide (unescape m.1 = some name.toList)) ∘
      (fun f : String × Json => (escape f.1.toList, f.2)) = fun f => decide (f.1 = name) := by
    funext f
    simp [unescape_escape, String.toList_inj]
  rw [member?, List.filter_map, named, filter_name distinct mem]
  rfl

theorem fields?_record {names : List String} {values : List Json} (distinct : names.Nodup)
    (full : names.length = values.length) :
    (record (names.zip values)).fields? names = some values := by
  have readable : ((names.zip values).map fun f => (escape f.1.toList, f.2)).all
      (fun m => (unescape m.1).isSome) = true := by
    rw [List.all_eq_true]
    intro m mem
    obtain ⟨f, -, rfl⟩ := List.mem_map.mp mem
    rw [unescape_escape, Option.isSome_some]
  rw [record, fields?, if_pos readable, mapM_eq_some_iff, List.forall₂_iff_zip]
  refine ⟨full, fun {name v} mem => member?_record ?_ mem⟩
  rwa [List.map_fst_zip (Nat.le_of_eq full)]

/-- A value stands at a field of a record: as a member of that name in an object, or in an array as
the item in the place of the field. -/
inductive Holds (names : List String) (field : String) : Json → Json → Prop
  | member {ms : List (List Char × Json)} {m : List Char × Json} (mem : m ∈ ms)
      (named : unescape m.1 = some field.toList) : Holds names field (.object ms) m.2
  | item {vs : List Json} {v : Json} {i : Nat} (place : names[i]? = some field)
      (there : vs[i]? = some v) : Holds names field (.array vs) v

theorem member?_eq_of_mem {name : String} {ms : List (List Char × Json)} {m : List Char × Json}
    {v : Json} (mem : m ∈ ms) (named : unescape m.1 = some name.toList)
    (only : member? name ms = some v) : v = m.2 := by
  have found : m ∈ ms.filter fun m => unescape m.1 = some name.toList :=
    List.mem_filter.mpr ⟨mem, decide_eq_true named⟩
  unfold member? at only
  split at only
  · rename_i own single
    rw [single, List.mem_singleton] at found
    rw [found]
    exact (Option.some.inj only).symm
  · cases only

/-- What stands at a field is the value that is read there. -/
theorem Holds.eq_of_fields? {names : List String} {field : String} {v x : Json}
    (holds : Holds names field v x) (distinct : names.Nodup) {values : List Json}
    (read : v.fields? names = some values) {i : Nat} (place : names[i]? = some field) :
    values[i]? = some x := by
  obtain ⟨inside, same⟩ := List.getElem?_eq_some_iff.mp place
  cases holds with
  | @member ms m mem named =>
    rw [fields?] at read
    split at read
    · obtain ⟨full, each⟩ := List.forall₂_iff_get.mp (mapM_eq_some_iff.mp read)
      have only := each i inside (full ▸ inside)
      rw [List.get_eq_getElem, same] at only
      rw [List.getElem?_eq_getElem (full ▸ inside)]
      exact congrArg some (member?_eq_of_mem mem named only)
    · cases read
  | @item vs v j own there =>
    obtain rfl := (List.getElem?_inj inside distinct).mp (place.trans own.symm)
    rw [fields?] at read
    split at read
    · cases read
      exact there
    · cases read

end Fields

end Json

end OpPolicy
