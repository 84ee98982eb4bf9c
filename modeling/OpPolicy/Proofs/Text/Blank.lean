import Mathlib.Data.List.TakeWhile
import OpPolicy.Text.Blank

set_option autoImplicit false

/-!
What trimming leaves: a text whose ends are not blank, which does not change when it is trimmed
again (`trimmed_trim`, `trim_trim`). Blanks around a text make no difference to it (`trim_framed`).
-/

namespace OpPolicy.Text

/-- A text of nothing but blanks. -/
def AllBlank (s : List Char) : Prop := ∀ c ∈ s, isBlank c = true

instance (s : List Char) : Decidable (AllBlank s) :=
  decidable_of_iff (s.all isBlank = true) List.all_eq_true

instance (s : List Char) : Decidable (Trimmed s) :=
  decidable_of_iff
    (s.head?.all (isBlank · = false) = true ∧ s.getLast?.all (isBlank · = false) = true)
    (by simp [Trimmed, Option.all_eq_true])

/-- A line is a text with blanks before and after it, if any. -/
def Framed (s line : List Char) : Prop :=
  ∃ before after, AllBlank before ∧ AllBlank after ∧ line = before ++ s ++ after

variable {s rest before line : List Char}

theorem trimEnd_isPrefix (s : List Char) : trimEnd s <+: s := by
  have suffix : s.reverse.dropWhile isBlank <:+ s.reverse := List.dropWhile_suffix _
  simpa [trimEnd] using List.reverse_prefix.mpr suffix

theorem trimStart_eq_nil (blank : AllBlank s) : trimStart s = [] :=
  List.dropWhile_eq_nil_iff.mpr blank

theorem trim_eq_nil (blank : AllBlank s) : trim s = [] := by
  rw [trim, trimStart_eq_nil blank]
  rfl

theorem trim_subset (s : List Char) : trim s ⊆ s :=
  List.Subset.trans (trimEnd_isPrefix _).subset (List.dropWhile_sublist _).subset

theorem not_blank_head_trimStart (s : List Char) :
    ∀ c ∈ (trimStart s).head?, isBlank c = false := by
  induction s with
  | nil => simp [trimStart]
  | cons c s ih =>
    by_cases blank : isBlank c = true
    · simpa [trimStart, blank] using ih
    · simp [trimStart, blank]

theorem not_blank_getLast_trimEnd (s : List Char) :
    ∀ c ∈ (trimEnd s).getLast?, isBlank c = false := by
  have head := not_blank_head_trimStart s.reverse
  simpa [trimEnd, trimStart, List.getLast?_reverse] using head

theorem trimmed_trim (s : List Char) : Trimmed (trim s) := by
  refine ⟨fun c first => ?_, not_blank_getLast_trimEnd _⟩
  obtain ⟨rest, split⟩ := trimEnd_isPrefix (trimStart s)
  have head : (trimStart s).head? = some c := by
    have first : (trimEnd (trimStart s)).head? = some c := first
    rw [← split, List.head?_append, first]
    rfl
  exact not_blank_head_trimStart s c head

@[simp] theorem trim_trim (s : List Char) : trim (trim s) = trim s :=
  trim_of_trimmed (trimmed_trim s)

theorem trimmed_of_dark (dark : ∀ c ∈ s, isBlank c = false) : Trimmed s :=
  ⟨fun c first => dark c (List.mem_of_mem_head? first),
    fun c last => dark c (List.mem_of_getLast? last)⟩

theorem not_blank_of_isDigit {c : Char} (digit : c.isDigit = true) : isBlank c = false := by
  have range : 48 ≤ c.toNat ∧ c.toNat ≤ 57 := Char.isDigit_iff_toNat.mp digit
  simp only [isBlank, Bool.or_eq_false_iff, Bool.and_eq_false_iff, decide_eq_false_iff_not,
    beq_eq_false_iff_ne]
  omega

theorem trimEnd_append_of_last (last : ∀ c ∈ s.getLast?, isBlank c = false) :
    trimEnd (s ++ rest) = s ++ trimEnd rest := by
  have kept : s.reverse.dropWhile isBlank = s.reverse :=
    trimStart_of_head (by simpa using last)
  by_cases blank : (rest.reverse.dropWhile isBlank).isEmpty = true
  · have gone : trimEnd rest = [] := by simpa [trimEnd] using blank
    rw [gone, List.append_nil, trimEnd, List.reverse_append, List.dropWhile_append, if_pos blank,
      kept, List.reverse_reverse]
  · rw [trimEnd, List.reverse_append, List.dropWhile_append, if_neg blank, List.reverse_append,
      List.reverse_reverse, trimEnd]

/-- Trimming reaches no further than the ends of a text that is trimmed already. -/
theorem trim_append (blank : AllBlank before) (filled : s ≠ []) (trimmed : Trimmed s) :
    trim (before ++ s ++ rest) = s ++ trimEnd rest := by
  obtain ⟨c, s, rfl⟩ := List.exists_cons_of_ne_nil filled
  have start : trimStart (c :: s ++ rest) = c :: s ++ rest :=
    trimStart_of_head (by simpa using trimmed.1)
  rw [trim, List.append_assoc, trimStart_append blank, start, trimEnd_append_of_last trimmed.2]

theorem trim_append_blank (blank : AllBlank rest) : trim (s ++ rest) = trim s := by
  have start : trimStart (s ++ rest) =
      if (trimStart s).isEmpty then trimStart rest else trimStart s ++ rest :=
    List.dropWhile_append
  by_cases empty : (trimStart s).isEmpty = true
  · rw [trim, trim, start, if_pos empty, trimStart_eq_nil blank, List.isEmpty_iff.mp empty]
  · rw [trim, trim, start, if_neg empty, trimEnd_append blank]

theorem trim_trimStart (s : List Char) : trim (trimStart s) = trim s := by
  rw [trim, trimStart_of_head (not_blank_head_trimStart s), ← trim]

theorem trim_trimEnd (s : List Char) : trim (trimEnd s) = trim s := by
  have parts : s = trimEnd s ++ (s.reverse.takeWhile isBlank).reverse := by
    rw [trimEnd, ← List.reverse_append, List.takeWhile_append_dropWhile, List.reverse_reverse]
  have blank : AllBlank (s.reverse.takeWhile isBlank).reverse := fun c mem =>
    List.mem_takeWhile_imp (List.mem_reverse.mp mem)
  exact (trim_append_blank blank).symm.trans (congrArg trim parts.symm)

/-- Where a character that is not blank cuts a text, the two parts are trimmed one by one. -/
theorem trim_cut {c : Char} (dark : isBlank c = false) (front rest : List Char) :
    trim (front ++ c :: rest) = trimStart front ++ c :: trimEnd rest := by
  have start : trimStart (front ++ c :: rest) = trimStart front ++ [c] ++ rest := by
    rw [trimStart, List.dropWhile_append, ← trimStart]
    by_cases empty : (trimStart front).isEmpty = true
    · rw [if_pos empty, List.isEmpty_iff.mp empty, List.dropWhile_cons_of_neg (by simp [dark])]
      rfl
    · rw [if_neg empty, List.append_assoc]
      rfl
  rw [trim, start, trimEnd_append_of_last (by simp [dark]), List.append_assoc]
  rfl

theorem trim_framed (framed : Framed s line) : trim line = trim s := by
  obtain ⟨before, after, blank, blank', rfl⟩ := framed
  rw [trim_append_blank blank', trim, trimStart_append blank, ← trim]

end OpPolicy.Text
