import Mathlib.Data.List.Infix
import OpPolicy.Text.Split

set_option autoImplicit false

/-!
Lines of words with spaces between them. The first word of a line is found whatever spaces stand
around it (`Spaced.firstWord?`), and a text without blanks that occurs in a line occurs in one of
its words (`Spaced.infix_iff`).
-/

namespace OpPolicy.Text

/-- What keeps the words of a line apart. -/
def IsSpace (c : Char) : Prop := isAsciiBlank c = true ∧ c ≠ '\n'

def IsWord (w : List Char) : Prop := w ≠ [] ∧ ∀ c ∈ w, isAsciiBlank c = false

instance (w : List Char) : Decidable (IsWord w) :=
  decidable_of_iff (w ≠ [] ∧ w.all (fun c => !isAsciiBlank c) = true) (by simp [IsWord])

/-- A line is some words with spaces between them, and perhaps around them. -/
inductive Spaced : List (List Char) → List Char → Prop
  | nil : Spaced [] []
  | space {c : Char} {words : List (List Char)} {line : List Char} (space : IsSpace c)
      (rest : Spaced words line) : Spaced words (c :: line)
  | word {w : List Char} {words : List (List Char)} {line : List Char} (isWord : IsWord w)
      (apart : ∀ c ∈ line.head?, IsSpace c) (rest : Spaced words line) :
      Spaced (w :: words) (w ++ line)

section Spaced
variable {c : Char} {w line needle front rest : List Char} {words : List (List Char)}

theorem isSpace_blank : IsSpace ' ' := ⟨rfl, by decide⟩

theorem IsWord.newline_not_mem (isWord : IsWord w) : '\n' ∉ w := fun mem => by
  cases isWord.2 _ mem

/-- Words with one blank between each and the next. -/
theorem spaced_intercalate (areWords : ∀ w ∈ words, IsWord w) :
    Spaced words ([' '].intercalate words) := by
  induction words with
  | nil => exact .nil
  | cons w words ih =>
    obtain ⟨isWord, areWords⟩ := List.forall_mem_cons.mp areWords
    cases words with
    | nil =>
      have alone : Spaced [w] (w ++ []) := .word isWord nofun .nil
      simpa using alone
    | cons next words =>
      rw [List.intercalate_cons_cons, List.append_assoc]
      refine .word isWord ?_ (.space isSpace_blank (ih areWords))
      rintro _ ⟨⟩
      exact isSpace_blank

theorem Spaced.newline_not_mem (spaced : Spaced words line) : '\n' ∉ line := by
  induction spaced with
  | nil => exact List.not_mem_nil
  | space space _ ih =>
    rw [List.mem_cons, not_or]
    exact ⟨space.2.symm, ih⟩
  | word isWord _ _ ih => exact List.mem_append.not.mpr (not_or.mpr ⟨isWord.newline_not_mem, ih⟩)

/-- The first word of a line that starts with a word. -/
theorem firstWord?_append (isWord : IsWord w) (apart : ∀ c ∈ rest.head?, isAsciiBlank c = true) :
    firstWord? isAsciiBlank (w ++ rest) = some w := by
  obtain ⟨filled, dark⟩ := isWord
  have here : (w ++ rest).dropWhile isAsciiBlank = w ++ rest := by
    obtain ⟨c, w, rfl⟩ := List.exists_cons_of_ne_nil filled
    rw [List.cons_append, List.dropWhile_cons_of_neg (by simp [dark])]
  have ends : rest.takeWhile (fun c => !isAsciiBlank c) = [] := by
    cases rest with
    | nil => rfl
    | cons c rest =>
      have blank : isAsciiBlank c = true := apart c rfl
      rw [List.takeWhile_cons_of_neg (by simp [blank])]
  have whole : (w ++ rest).takeWhile (fun c => !isAsciiBlank c) = w := by
    rw [List.takeWhile_append_of_pos (by simpa using dark), ends, List.append_nil]
  rw [firstWord?, here, whole]
  cases w with
  | nil => exact absurd rfl filled
  | cons c w => rfl

/-- Blanks in front do not count. -/
theorem firstWord?_cons_of_blank (blank : isAsciiBlank c = true) :
    firstWord? isAsciiBlank (c :: line) = firstWord? isAsciiBlank line := by
  rw [firstWord?, List.dropWhile_cons_of_pos blank, ← firstWord?]

/-- A blank at the end does not count. -/
theorem firstWord?_concat_of_blank (blank : isAsciiBlank c = true) (line : List Char) :
    firstWord? isAsciiBlank (line ++ [c]) = firstWord? isAsciiBlank line := by
  have stops (s : List Char) : (s ++ [c]).takeWhile (fun c => !isAsciiBlank c) =
      s.takeWhile fun c => !isAsciiBlank c := by
    rw [List.takeWhile_append, List.takeWhile_cons_of_neg (by simp [blank]), List.append_nil]
    split
    · next whole => exact ((List.takeWhile_prefix _).eq_of_length whole).symm
    · rfl
  rw [firstWord?, firstWord?, List.dropWhile_append]
  by_cases empty : (line.dropWhile isAsciiBlank).isEmpty = true
  · rw [if_pos empty, List.isEmpty_iff.mp empty, List.dropWhile_cons_of_pos blank]
    rfl
  · rw [if_neg empty, stops]

theorem Spaced.firstWord? (spaced : Spaced words line) :
    firstWord? isAsciiBlank line = words.head? := by
  induction spaced with
  | nil => rfl
  | space space _ ih => rw [firstWord?_cons_of_blank space.1, ih]
  | word isWord apart _ _ =>
    exact firstWord?_append isWord fun c first => (apart c first).1

/-- Where a text is cut by a character that a needle has not, the needle is on either side. -/
theorem infix_append_iff (apart : ∀ c ∈ rest.head?, c ∉ needle) :
    needle <:+: front ++ rest ↔ needle <:+: front ∨ needle <:+: rest := by
  constructor
  · intro within
    induction front with
    | nil => exact .inr within
    | cons d front ih =>
      rcases List.infix_cons_iff.mp within with start | later
      · refine .inl (List.IsPrefix.isInfix ?_)
        rcases List.prefix_or_prefix_of_prefix start (List.prefix_append (d :: front) rest) with
          short | ⟨tail, rfl⟩
        · exact short
        · -- the needle would reach into the rest, whose first character it has not
          cases tail with
          | nil => rw [List.append_nil]
          | cons c tail =>
            have reaches : c :: tail <+: rest :=
              (List.prefix_append_right_inj (d :: front)).mp start
            obtain ⟨more, rfl⟩ := reaches
            exact absurd (List.mem_append_right _ List.mem_cons_self) (apart c rfl)
      · exact (ih later).imp_left fun within => within.trans (List.suffix_cons d front).isInfix
  · rintro (within | within)
    · exact within.trans (List.prefix_append front rest).isInfix
    · exact within.trans (List.suffix_append front rest).isInfix

theorem infix_cons_iff_of_not_mem (filled : needle ≠ []) (absent : c ∉ needle) :
    needle <:+: c :: line ↔ needle <:+: line := by
  rw [List.infix_cons_iff, or_iff_right_iff_imp]
  intro start
  obtain ⟨d, needle, rfl⟩ := List.exists_cons_of_ne_nil filled
  obtain ⟨rfl, -⟩ := List.cons_prefix_cons.mp start
  exact absurd List.mem_cons_self absent

/-- A needle without blanks is in one of the words. -/
theorem Spaced.infix_iff (spaced : Spaced words line) (isWord : IsWord needle) :
    needle <:+: line ↔ ∃ w ∈ words, needle <:+: w := by
  have outside {c : Char} (space : IsSpace c) : c ∉ needle := fun mem => by
    cases (isWord.2 c mem).symm.trans space.1
  induction spaced with
  | nil => simp [isWord.1]
  | space space _ ih => exact (infix_cons_iff_of_not_mem isWord.1 (outside space)).trans ih
  | word _ apart _ ih =>
    rw [List.exists_mem_cons_iff]
    refine (infix_append_iff ?_).trans (or_congr_right ih)
    intro c first
    exact outside (apart c first)

end Spaced

end OpPolicy.Text
