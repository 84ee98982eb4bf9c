import OpPolicy.Proofs.Package.Order
import OpPolicy.Proofs.Text.Blank

set_option autoImplicit false

/-!
Lists of category names. A list is read if and only if each of its parts is `all` or the name of a
category, and a set then has a category just when a part stands for it
(`Flags.foldlM_addPart_eq_ok_iff`); otherwise the first part that means nothing is reported
(`Flags.foldlM_addPart_eq_error_iff`). All else follows: a list of two lists is their union, nothing
but the parts counts, and what is printed of a set is read as that set (`Flags.lists_unite`).
-/

namespace OpPolicy

namespace Category

theorem name_ne_nil (c : Category) : c.name.toList ≠ [] := by cases c <;> decide

theorem name_ne_all (c : Category) : c.name.toList ≠ "all".toList := by cases c <;> decide

theorem comma_not_mem_name (c : Category) : ',' ∉ c.name.toList := by cases c <;> decide

theorem trimmed_name (c : Category) : Text.Trimmed c.name.toList := by cases c <;> decide

theorem name_injective {c d : Category} (same : c.name.toList = d.name.toList) : c = d := by
  cases c <;> cases d <;> first | rfl | exact absurd same (by decide)

end Category

namespace Flags

/-- A part of a list that means something. -/
def Known (part : List Char) : Prop :=
  part = "all".toList ∨ ∃ c : Category, part = c.name.toList

theorem known_iff {part : List Char} :
    Known part ↔ part = "all".toList ∨ ∃ c ∈ Category.order, part = c.name.toList := by
  simp only [Known, Category.mem_order, true_and]

instance (part : List Char) : Decidable (Known part) := decidable_of_iff _ known_iff.symm

/-- What is said of a part that means nothing. -/
def unknownPart (part : List Char) : Error := .notFound s!"app category {String.ofList part}"

/-- A set is told by its categories. -/
theorem eq_of_has {f g : Flags} (same : ∀ c, f.has c = true ↔ g.has c = true) : f = g := by
  suffices bits : f.bits = g.bits by
    cases f
    cases g
    exact congrArg Flags.mk bits
  refine BitVec.eq_of_getLsbD_eq fun i lt => ?_
  obtain ⟨c, rfl⟩ := Category.exists_bit lt
  exact Bool.eq_iff_iff.mpr (same c)

section Parts
variable {part : List Char} {ps : List (List Char)} {f g : Flags} {e : Error}

theorem ofPart?_name (c : Category) : ofPart? c.name.toList = some (single c) := by
  cases c <;> decide

theorem ofPart?_of_not_known (unknown : ¬ Known part) : ofPart? part = none := by
  obtain ⟨notAll, notName⟩ := not_or.mp unknown
  rw [ofPart?, if_neg notAll, Option.map_eq_none_iff, List.find?_eq_none]
  intro c _ same
  exact notName ⟨c, (of_decide_eq_true same).symm⟩

/-- A part that means something stands for all categories or for the one that it names. -/
theorem exists_ofPart? (known : Known part) :
    ∃ g, ofPart? part = some g ∧
      ∀ c, g.has c = true ↔ part = "all".toList ∨ part = c.name.toList := by
  rcases known with rfl | ⟨d, rfl⟩
  · refine ⟨all, rfl, fun c => ?_⟩
    exact iff_of_true (has_all c) (.inl rfl)
  · refine ⟨single d, ofPart?_name d, fun c => ?_⟩
    rw [has_single, decide_eq_true_iff, or_iff_right (Category.name_ne_all d)]
    constructor
    · rintro rfl
      rfl
    · exact Category.name_injective

theorem addPart_of_not_known (unknown : ¬ Known part) :
    addPart f part = .error (unknownPart part) := by
  rw [addPart, ofPart?_of_not_known unknown]
  rfl

/-- A part that means something adds what it stands for. -/
theorem exists_addPart (f : Flags) (known : Known part) :
    ∃ g, addPart f part = .ok g ∧
      ∀ c, g.has c = true ↔ f.has c = true ∨ part = "all".toList ∨ part = c.name.toList := by
  obtain ⟨g, meaning, has⟩ := exists_ofPart? known
  refine ⟨f ∪ g, by rw [addPart, meaning], fun c => ?_⟩
  rw [has_union, Bool.or_eq_true, has]

theorem foldlM_addPart_eq_error_iff :
    ps.foldlM addPart f = .error e ↔
      ∃ part, ps.find? (fun part => ¬ Known part) = some part ∧ e = unknownPart part := by
  induction ps generalizing f with
  | nil => simp [pure, Except.pure]
  | cons part ps ih =>
    rw [List.foldlM_cons]
    by_cases known : Known part
    · obtain ⟨g, added, -⟩ := exists_addPart f known
      rw [added, List.find?_cons_of_neg (by simpa using known)]
      exact ih
    · rw [addPart_of_not_known known, List.find?_cons_of_pos (by simpa using known)]
      simp [bind, Except.bind, eq_comm]

theorem foldlM_addPart_eq_ok_iff :
    ps.foldlM addPart f = .ok g ↔
      (∀ part ∈ ps, Known part) ∧
        ∀ c, g.has c = true ↔ f.has c = true ∨ "all".toList ∈ ps ∨ c.name.toList ∈ ps := by
  induction ps generalizing f with
  | nil =>
    simp only [List.foldlM_nil, pure, Except.pure, Except.ok.injEq, List.not_mem_nil, or_false,
      false_implies, implies_true, true_and]
    constructor
    · rintro rfl c
      rfl
    · intro same
      exact (eq_of_has same).symm
  | cons part ps ih =>
    rw [List.foldlM_cons, List.forall_mem_cons]
    by_cases known : Known part
    · obtain ⟨h, added, has⟩ := exists_addPart f known
      rw [added]
      refine ih.trans ?_
      simp only [known, true_and, has, List.mem_cons, or_assoc, or_left_comm, eq_comm]
    · rw [addPart_of_not_known known]
      exact iff_of_false nofun fun all => known all.1.1

end Parts

section Lists
variable {s t : String} {f : Flags} {e : Error}

theorem parts_append (s t : List Char) : parts (s ++ ',' :: t) = parts s ++ parts t := by
  rw [parts, List.splitOn_append_cons_self, List.map_append, List.filter_append, parts, parts]

theorem ofList_eq_error_iff :
    ofList s = .error e ↔
      ∃ part, (parts s.toList).find? (fun part => ¬ Known part) = some part ∧
        e = unknownPart part :=
  foldlM_addPart_eq_error_iff

theorem ofList_eq_ok_iff :
    ofList s = .ok f ↔
      (∀ part ∈ parts s.toList, Known part) ∧
        ∀ c, f.has c = true ↔
          "all".toList ∈ parts s.toList ∨ c.name.toList ∈ parts s.toList := by
  refine foldlM_addPart_eq_ok_iff.trans ?_
  simp only [has_empty, Bool.false_eq_true, false_or]

/-- Two lists one after the other, with a comma between them. -/
theorem ofList_append (s t : String) :
    ofList (s ++ "," ++ t) =
      match ofList s, ofList t with
      | .ok f, .ok g => .ok (f ∪ g)
      | .error e, _ => .error e
      | .ok _, .error e => .error e := by
  have both : parts (s ++ "," ++ t).toList = parts s.toList ++ parts t.toList := by
    rw [← parts_append, String.toList_append, String.toList_append, List.append_assoc]
    rfl
  cases first : ofList s with
  | error e =>
    obtain ⟨part, found, rfl⟩ := ofList_eq_error_iff.mp first
    refine ofList_eq_error_iff.mpr ⟨part, ?_, rfl⟩
    rw [both, List.find?_append, found]
    rfl
  | ok f =>
    obtain ⟨known, has⟩ := ofList_eq_ok_iff.mp first
    cases second : ofList t with
    | error e =>
      obtain ⟨part, found, rfl⟩ := ofList_eq_error_iff.mp second
      refine ofList_eq_error_iff.mpr ⟨part, ?_, rfl⟩
      have none : (parts s.toList).find? (fun part => ¬ Known part) = none := by
        simpa [List.find?_eq_none] using known
      rw [both, List.find?_append, none, found]
      rfl
    | ok g =>
      obtain ⟨known', has'⟩ := ofList_eq_ok_iff.mp second
      refine ofList_eq_ok_iff.mpr ⟨?_, fun c => ?_⟩
      · rw [both]
        exact List.forall_mem_append.mpr ⟨known, known'⟩
      · rw [both, has_union, Bool.or_eq_true, has, has', List.mem_append, List.mem_append,
          or_or_or_comm]

/-- Whether a list is read, and as what, is a matter of which parts it has. -/
theorem toOption_ofList_congr (same : ∀ part, part ∈ parts s.toList ↔ part ∈ parts t.toList) :
    (ofList s).toOption = (ofList t).toOption := by
  have carries {f : Flags} : ofList s = .ok f ↔ ofList t = .ok f := by
    simp only [ofList_eq_ok_iff, same]
  cases first : ofList s with
  | ok f => rw [carries.mp first]
  | error e =>
    cases second : ofList t with
    | ok g => cases first.symm.trans (carries.mpr second)
    | error e' => rfl

/-- A list of pieces, with a comma between each and the next. -/
def join (pieces : List (List Char)) : String := String.ofList ([','].intercalate pieces)

theorem parts_join {pieces : List (List Char)} (commaless : ∀ piece ∈ pieces, ',' ∉ piece) :
    parts (join pieces).toList = (pieces.map Text.trim).filter (· ≠ []) := by
  rw [join, String.toList_ofList]
  by_cases none : pieces = []
  · rw [none]
    rfl
  · rw [parts, List.splitOn_intercalate ',' commaless none]

/-- Blanks around the parts make no difference. -/
theorem ofList_join_framed {pieces padded : List (List Char)}
    (commaless : ∀ piece ∈ pieces, ',' ∉ piece) (framed : List.Forall₂ Text.Framed pieces padded) :
    ofList (join padded) = ofList (join pieces) := by
  have same : padded.map Text.trim = pieces.map Text.trim ∧ ∀ line ∈ padded, ',' ∉ line := by
    induction framed with
    | nil => exact ⟨rfl, nofun⟩
    | @cons piece line _ _ head _ ih =>
      obtain ⟨here, later⟩ := List.forall_mem_cons.mp commaless
      obtain ⟨trims, commaless⟩ := ih later
      refine ⟨?_, List.forall_mem_cons.mpr ⟨?_, commaless⟩⟩
      · rw [List.map_cons, List.map_cons, Text.trim_framed head, trims]
      · obtain ⟨before, after, blankBefore, blankAfter, rfl⟩ := head
        have dark : Text.isBlank ',' = false := by decide
        simp only [List.mem_append, not_or]
        refine ⟨⟨fun mem => ?_, here⟩, fun mem => ?_⟩
        · exact absurd (blankBefore ',' mem) (by simp [dark])
        · exact absurd (blankAfter ',' mem) (by simp [dark])
  rw [ofList, ofList, parts_join commaless, parts_join same.2, same.1]

/-- A blank part makes no difference. -/
theorem ofList_join_blank {before after : List (List Char)} {piece : List Char}
    (commaless : ∀ piece ∈ before ++ after, ',' ∉ piece) (blank : Text.AllBlank piece) :
    ofList (join (before ++ piece :: after)) = ofList (join (before ++ after)) := by
  have commaless' : ∀ own ∈ before ++ piece :: after, ',' ∉ own := by
    intro own mem
    rcases List.mem_append.mp mem with mem | mem
    · exact commaless own (List.mem_append_left _ mem)
    rcases List.mem_cons.mp mem with rfl | mem
    · intro comma
      exact absurd (blank ',' comma) (by decide)
    · exact commaless own (List.mem_append_right _ mem)
  rw [ofList, ofList, parts_join commaless, parts_join commaless']
  simp [Text.trim_eq_nil blank]

theorem render_eq_join (f : Flags) : f.render = join (f.categories.map (·.name.toList)) := by
  have letters : f.render.toList = [','].intercalate (f.categories.map (·.name.toList)) := by
    rw [render, String.toList_intercalate, List.map_map]
    rfl
  rw [join, ← letters, String.ofList_toList]

theorem parts_render (f : Flags) : parts f.render.toList = f.categories.map (·.name.toList) := by
  have commaless : ∀ name ∈ f.categories.map (·.name.toList), ',' ∉ name :=
    List.forall_mem_map.mpr fun c _ => c.comma_not_mem_name
  have trims : (f.categories.map (·.name.toList)).map Text.trim =
      f.categories.map (·.name.toList) := by
    rw [List.map_map]
    exact List.map_congr_left fun c _ => Text.trim_of_trimmed c.trimmed_name
  rw [render_eq_join, parts_join commaless, trims]
  exact List.filter_eq_self.mpr (List.forall_mem_map.mpr fun c _ => decide_eq_true c.name_ne_nil)

/-- What is printed of a set is read as that set. -/
theorem ofList_render (f : Flags) : ofList f.render = .ok f := by
  rw [ofList_eq_ok_iff, parts_render]
  refine ⟨List.forall_mem_map.mpr fun c _ => .inr ⟨c, rfl⟩, fun c => ?_⟩
  have notAll : "all".toList ∉ f.categories.map (·.name.toList) := fun mem => by
    obtain ⟨d, -, same⟩ := List.mem_map.mp mem
    exact d.name_ne_all same
  rw [or_iff_right notAll, ← mem_categories, List.mem_map]
  constructor
  · intro mem
    exact ⟨c, mem, rfl⟩
  · rintro ⟨d, mem, same⟩
    exact Category.name_injective same ▸ mem

end Lists

end Flags

end OpPolicy
