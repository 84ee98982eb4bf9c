import Mathlib.Data.List.Infix
import OpPolicy.Proofs.Text.Blank
import OpPolicy.Text.Split

set_option autoImplicit false

/-!
Where texts are cut. A text that is laid out as lines is read as these lines, but for blanks at
their ends (`map_trim_lines`, `map_lines`). A cut at the first or the last occurrence of a separator
is told by what stands before and after it (`splitFirst?_eq_some_iff`, `splitLast?_eq_some_iff`).
-/

namespace OpPolicy.Text

section Lines

/-- A text is some lines one after another. A line ends with a line feed or with a carriage return
and a line feed, and the last may end with the text. -/
inductive Laid : List (List Char) → List Char → Prop
  | nil : Laid [] []
  | last {line : List Char} (one : '\n' ∉ line) (filled : line ≠ []) : Laid [line] line
  | line {line ending rest : List Char} {lines : List (List Char)} (one : '\n' ∉ line)
      (ends : ending = ['\n'] ∨ ending = ['\r', '\n']) (next : Laid lines rest) :
      Laid (line :: lines) (line ++ ending ++ rest)

theorem chomp_concat (s : List Char) : chomp (s ++ ['\r']) = s := by
  simp [chomp]

theorem trim_chomp (s : List Char) : trim (chomp s) = trim s := by
  unfold chomp
  split
  · next last =>
    obtain ⟨init, rfl⟩ := List.getLast?_eq_some_iff.mp last
    have blank : AllBlank ['\r'] := by simp [AllBlank, isBlank]
    rw [List.dropLast_concat, trim_append_blank blank]
  · rfl

theorem lines_append (line rest : List Char) (one : '\n' ∉ line) :
    lines (line ++ '\n' :: rest) = chomp line :: lines rest := by
  obtain ⟨first, more, parts⟩ := List.exists_cons_of_ne_nil (List.splitOn_ne_nil '\n' rest)
  simp only [lines, List.splitOn_append_cons_self_of_not_mem one, parts]
  rfl

theorem lines_of_one {line : List Char} (one : '\n' ∉ line) (filled : line ≠ []) :
    lines line = [line] := by
  rw [lines, List.splitOn_eq_singleton one]
  simp [filled]

/-- A line is cut off at a line feed, with what else its ending has. -/
theorem exists_piece {line ending : List Char} (one : '\n' ∉ line)
    (ends : ending = ['\n'] ∨ ending = ['\r', '\n']) (rest : List Char) :
    ∃ piece, (piece = line ∨ piece = line ++ ['\r']) ∧ '\n' ∉ piece ∧
      line ++ ending ++ rest = piece ++ '\n' :: rest := by
  rcases ends with rfl | rfl
  · exact ⟨line, .inl rfl, one, by simp⟩
  · exact ⟨line ++ ['\r'], .inr rfl, by simp [one], by simp⟩

/-- However its lines end, a text has these lines. -/
theorem map_trim_lines {ls : List (List Char)} {text : List Char} (laid : Laid ls text) :
    (lines text).map trim = ls.map trim := by
  induction laid with
  | nil => rfl
  | last one filled => rw [lines_of_one one filled]
  | @line line ending rest ls one ends next ih =>
    obtain ⟨piece, own, one', text⟩ := exists_piece one ends rest
    rw [text, lines_append piece rest one', List.map_cons, ih, List.map_cons]
    rcases own with rfl | rfl
    · rw [trim_chomp]
    · rw [chomp_concat]

/-- What reads trimmed lines reads the lines that a text is laid out as. -/
theorem map_lines {α : Type} {f : List Char → α} (trims : ∀ line, f (trim line) = f line)
    {ls : List (List Char)} {text : List Char} (laid : Laid ls text) :
    (lines text).map f = ls.map f := by
  have both (ls : List (List Char)) : ls.map f = (ls.map trim).map f := by
    simp [trims]
  rw [both, map_trim_lines laid, ← both]

section Pieces
variable {α : Type} {f : List Char → Option α} (chomps : ∀ line, f (line ++ ['\r']) = f line)
  (nothing : f [] = none)
include chomps nothing

/-- What reads lines, and nothing from an empty one, reads the lines that a text is laid out as. -/
theorem filterMap_splitOn {ls : List (List Char)} {text : List Char} (laid : Laid ls text) :
    (text.splitOn '\n').filterMap f = ls.filterMap f := by
  induction laid with
  | nil => simp [nothing]
  | last one => rw [List.splitOn_eq_singleton one]
  | line one ends _ ih =>
    obtain ⟨piece, own, one', text⟩ := exists_piece one ends _
    rw [text, List.splitOn_append_cons_self_of_not_mem one', List.filterMap_cons, ih,
      List.filterMap_cons]
    rcases own with rfl | rfl
    · rfl
    · rw [chomps]

/-- The same without the first line. -/
theorem filterMap_tail_splitOn {header : List Char} {ls : List (List Char)} {text : List Char}
    (laid : Laid (header :: ls) text) :
    ((text.splitOn '\n').drop 1).filterMap f = ls.filterMap f := by
  cases laid with
  | last one => rw [List.splitOn_eq_singleton one]; rfl
  | line one ends next =>
    obtain ⟨piece, -, one', text⟩ := exists_piece one ends _
    rw [text, List.splitOn_append_cons_self_of_not_mem one', List.drop_succ_cons, List.drop_zero,
      filterMap_splitOn chomps nothing next]

end Pieces

end Lines

section Cuts
variable {sep s front rest : List Char}

theorem isPrefixOf?_eq_none_iff : sep.isPrefixOf? s = none ↔ ¬ sep <+: s := by
  rw [Option.eq_none_iff_forall_ne_some]
  simp only [ne_eq, List.isPrefixOf?_eq_some_iff_append_eq, List.IsPrefix, not_exists]

theorem splitFirst?_eq_some_iff {c : Char} :
    splitFirst? [c] s = some (front, rest) ↔ s = front ++ c :: rest ∧ c ∉ front := by
  induction s generalizing front with
  | nil => simp [splitFirst?]
  | cons d s ih =>
    rw [splitFirst?]
    by_cases here : d = c
    · subst here
      cases front with
      | nil => simp [List.isPrefixOf?]
      | cons e front => simp +contextual [List.isPrefixOf?]
    · have next : [c].isPrefixOf? (d :: s) = none := by
        simp [isPrefixOf?_eq_none_iff, Ne.symm here]
      simp only [next, Option.map_eq_some_iff, Prod.exists, Prod.mk.injEq]
      cases front with
      | nil => simp [here]
      | cons e front =>
        simp only [List.cons.injEq, List.cons_append, List.mem_cons, not_or]
        constructor
        · rintro ⟨front, rest, later, ⟨rfl, rfl⟩, rfl⟩
          obtain ⟨split, absent⟩ := ih.mp later
          exact ⟨⟨rfl, split⟩, Ne.symm here, absent⟩
        · rintro ⟨⟨rfl, split⟩, -, absent⟩
          exact ⟨front, rest, ih.mpr ⟨split, absent⟩, ⟨rfl, rfl⟩, rfl⟩

theorem splitFirst?_eq_none_iff {c : Char} : splitFirst? [c] s = none ↔ c ∉ s := by
  constructor
  · intro none mem
    obtain ⟨front, rest, split, absent⟩ := List.eq_append_cons_of_mem mem
    rw [splitFirst?_eq_some_iff.mpr ⟨split, absent⟩] at none
    cases none
  · intro absent
    rw [Option.eq_none_iff_forall_ne_some]
    rintro ⟨front, rest⟩ found
    obtain ⟨rfl, -⟩ := splitFirst?_eq_some_iff.mp found
    simp at absent

theorem contains_iff : contains s sep = true ↔ sep <:+: s := by
  rw [contains]
  induction s with
  | nil => cases sep <;> simp [splitFirst?]
  | cons c s ih =>
    rw [splitFirst?, List.infix_cons_iff]
    cases here : sep.isPrefixOf? (c :: s) with
    | none => rw [Option.isSome_map, ih, or_iff_right (isPrefixOf?_eq_none_iff.mp here)]
    | some rest =>
      have start : sep <+: c :: s := ⟨rest, List.isPrefixOf?_eq_some_iff_append_eq.mp here⟩
      simp [start]

theorem splitLast?_eq_none_iff (filled : sep ≠ []) :
    splitLast? sep s = none ↔ ¬ sep <:+: s := by
  induction s with
  | nil => simp [splitLast?, filled]
  | cons c s ih =>
    rw [splitLast?, List.infix_cons_iff, not_or, ← ih, ← isPrefixOf?_eq_none_iff]
    cases later : splitLast? sep s with
    | none => simp
    | some r => simp

/-- The separator does not occur once more, not even where it overlaps itself. -/
theorem splitLast?_eq_some_iff (filled : sep ≠ []) :
    splitLast? sep s = some (front, rest) ↔
      s = front ++ sep ++ rest ∧ ¬ sep <:+: (sep ++ rest).tail := by
  induction s generalizing front with
  | nil => simp [splitLast?, filled]
  | cons c s ih =>
    rw [splitLast?]
    cases later : splitLast? sep s with
    | none =>
      have absent : ¬ sep <:+: s := (splitLast?_eq_none_iff filled).mp later
      simp only [Option.map_eq_some_iff, List.isPrefixOf?_eq_some_iff_append_eq, Prod.mk.injEq]
      constructor
      · rintro ⟨rest, split, rfl, rfl⟩
        refine ⟨split.symm, ?_⟩
        rwa [split]
      · rintro ⟨split, -⟩
        cases front with
        | nil => exact ⟨rest, split.symm, rfl, rfl⟩
        | cons d front =>
          -- a front that is not empty would leave a separator in the rest
          simp only [List.cons_append, List.cons.injEq] at split
          exact absurd ⟨front, rest, split.2.symm⟩ absent
    | some r =>
      obtain ⟨front', rest'⟩ := r
      simp only [Option.some.injEq, Prod.mk.injEq]
      constructor
      · rintro ⟨rfl, rfl⟩
        obtain ⟨rfl, last⟩ := ih.mp later
        exact ⟨rfl, last⟩
      · rintro ⟨split, last⟩
        cases front with
        | nil =>
          -- the separator that was found later contradicts `last`
          rw [List.nil_append] at split
          rw [← split, List.tail_cons, ← splitLast?_eq_none_iff filled, later] at last
          cases last
        | cons d front =>
          simp only [List.cons_append, List.cons.injEq] at split
          obtain ⟨rfl, split⟩ := split
          have again := later.symm.trans (ih.mpr ⟨split, last⟩)
          simp only [Option.some.injEq, Prod.mk.injEq] at again
          exact ⟨congrArg _ again.1, again.2⟩

/-- A separator whose first character is not in it again cannot overlap itself. -/
theorem infix_of_infix_append {c : Char} {w pre : List Char} (fresh : c ∉ pre)
    (within : c :: w <:+: pre ++ rest) : c :: w <:+: rest := by
  induction pre with
  | nil => exact within
  | cons d pre ih =>
    obtain ⟨other, fresh⟩ := not_or.mp (List.mem_cons.not.mp fresh)
    rcases List.infix_cons_iff.mp within with here | later
    · exact absurd (List.cons_prefix_cons.mp here).1 other
    · exact ih fresh later

theorem splitLast?_fresh_iff {c : Char} {w : List Char} (fresh : c ∉ w) :
    splitLast? (c :: w) s = some (front, rest) ↔
      s = front ++ c :: w ++ rest ∧ ¬ c :: w <:+: rest := by
  rw [splitLast?_eq_some_iff (List.cons_ne_nil c w)]
  have overlap : c :: w <:+: w ++ rest ↔ c :: w <:+: rest :=
    ⟨infix_of_infix_append fresh, fun within => within.trans (List.suffix_append w rest).isInfix⟩
  exact and_congr_right fun _ => not_congr overlap

end Cuts

end OpPolicy.Text
