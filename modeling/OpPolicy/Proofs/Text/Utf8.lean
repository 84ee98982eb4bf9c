import Mathlib.Data.List.Basic
import OpPolicy.Text.Utf8

set_option autoImplicit false

/-!
Where UTF-8 may be cut. A byte below 0x80 is a character of its own wherever it stands, so it cuts a
byte string into two that are read one by one (`parts_append_ascii`), and a byte string is text just
when each piece between such bytes is (`isSome_strict?_intercalate`).
-/

namespace OpPolicy.Utf8

/-- What is owed is no byte below 0x80. -/
def Pending.Sound : Pending → Prop
  | .none => True
  | .owed _ _ low _ => 0x80 ≤ low

theorem sound_none : Pending.none.Sound := trivial

theorem sound_of_lead? {b : UInt8} {p : Pending} (starts : lead? b = some p) : p.Sound := by
  grind [lead?, Pending.Sound]

theorem parts_none_cons (b : UInt8) (s : List UInt8) :
    parts .none (b :: s) =
      if b < 0x80 then some (Char.ofNat b.toNat) :: parts .none s
      else match lead? b with
        | some p => parts p s
        | none => none :: parts .none s := rfl

theorem parts_owed_cons (value more low high : Nat) (b : UInt8) (s : List UInt8) :
    parts (.owed value more low high) (b :: s) =
      if low ≤ b.toNat ∧ b.toNat ≤ high then
        if more ≤ 1 then some (Char.ofNat (value * 64 + continuation b)) :: parts .none s
        else parts (.owed (value * 64 + continuation b) (more - 1) 0x80 0xBF) s
      else none :: parts .none (b :: s) := rfl

section Cut
variable {b : UInt8} {p : Pending}

theorem parts_append_ascii (ascii : b < 0x80) (sound : p.Sound) (front rest : List UInt8) :
    parts p (front ++ b :: rest) =
      parts p front ++ some (Char.ofNat b.toNat) :: parts .none rest := by
  induction front generalizing p with
  | nil =>
    have start : parts .none (b :: rest) = some (Char.ofNat b.toNat) :: parts .none rest := by
      rw [parts_none_cons, if_pos ascii]
    cases p with
    | none => exact start
    | owed value more low high =>
      have sound : 0x80 ≤ low := sound
      have below : b.toNat < 0x80 := ascii
      rw [List.nil_append, parts_owed_cons, if_neg (by omega), start]
      rfl
  | cons a front ih =>
    have start : parts .none (a :: (front ++ b :: rest)) =
        parts .none (a :: front) ++ some (Char.ofNat b.toNat) :: parts .none rest := by
      rw [parts_none_cons, parts_none_cons]
      split
      · rw [ih sound_none, List.cons_append]
      · cases starts : lead? a with
        | some q => exact ih (sound_of_lead? starts)
        | none =>
          dsimp only
          rw [ih sound_none, List.cons_append]
    cases p with
    | none => exact start
    | owed value more low high =>
      rw [List.cons_append, parts_owed_cons, parts_owed_cons]
      split
      · split
        · rw [ih sound_none, List.cons_append]
        · exact ih (Nat.le_refl 0x80)
      · rw [start, List.cons_append]

theorem isSome_strict?_iff {bytes : List UInt8} :
    (strict? bytes).isSome = true ↔ none ∉ parts .none bytes := by
  unfold strict?
  induction parts .none bytes with
  | nil => simp
  | cons c l ih =>
    cases c with
    | none => simp
    | some c =>
      rw [List.mapM_cons]
      cases rest : l.mapM id <;> simp_all

theorem isSome_strict?_append_ascii (ascii : b < 0x80) (front rest : List UInt8) :
    (strict? (front ++ b :: rest)).isSome = true ↔
      (strict? front).isSome = true ∧ (strict? rest).isSome = true := by
  rw [isSome_strict?_iff, isSome_strict?_iff, isSome_strict?_iff,
    parts_append_ascii ascii sound_none]
  simp

theorem isSome_strict?_intercalate (ascii : b < 0x80) (pieces : List (List UInt8)) :
    (strict? ([b].intercalate pieces)).isSome = true ↔
      ∀ piece ∈ pieces, (strict? piece).isSome = true := by
  induction pieces with
  | nil => exact iff_of_true rfl nofun
  | cons piece pieces ih =>
    cases pieces with
    | nil => simp
    | cons next pieces =>
      rw [List.intercalate_cons_cons, List.append_assoc, List.singleton_append,
        isSome_strict?_append_ascii ascii, ih, List.forall_mem_cons (a := piece)]

/-- A byte string is text just when each of its pieces is. -/
theorem isSome_strict?_iff_splitOn (ascii : b < 0x80) (bytes : List UInt8) :
    (strict? bytes).isSome = true ↔
      ∀ piece ∈ bytes.splitOn b, (strict? piece).isSome = true := by
  rw [← isSome_strict?_intercalate ascii, List.intercalate_splitOn]

end Cut

end OpPolicy.Utf8
