import OpPolicy.Json.Value
import OpPolicy.Proofs.Json.Literal

set_option autoImplicit false

/-!
Compact text reads back as the value it was rendered from (`read_render`), for every value whose
literals are spelled as JSON spells them. The induction is on the value; what it carries from one
part to the next is that a part reads back before whatever may follow it (`Reads`), with no more
fuel than its text is long.
-/

namespace OpPolicy.Json

/-- Literals are spelled as JSON spells them, all the way down. -/
inductive Spelled : Json → Prop
  | null : Spelled null
  | bool (b : Bool) : Spelled (bool b)
  | number {spelling : List Char} (spelled : IsNumber spelling) : Spelled (number spelling)
  | string {spelling : List Char} (spelled : IsString spelling) : Spelled (string spelling)
  | array {vs : List Json} (items : ∀ v ∈ vs, Spelled v) : Spelled (array vs)
  | object {ms : List (List Char × Json)} (names : ∀ m ∈ ms, IsString m.1)
      (values : ∀ m ∈ ms, Spelled m.2) : Spelled (object ms)

/-- A text in which a value may end: at its end, at a comma or at a closing bracket. -/
def Ends (rest : List Char) : Prop := ∀ c ∈ rest.head?, c = ',' ∨ c = ']' ∨ c = '\x7d'

theorem Ends.endsNumber {rest : List Char} (ends : Ends rest) : EndsNumber rest := by
  intro c head
  obtain rfl | rfl | rfl := ends c head <;> decide

theorem ends_cons {c : Char} (closes : c = ',' ∨ c = ']' ∨ c = '\x7d') (s : List Char) :
    Ends (c :: s) := by
  rintro d ⟨⟩
  exact closes

theorem ends_renderItems (vs : List Json) (rest : List Char) : Ends (renderItems vs ++ rest) := by
  cases vs with
  | nil => exact ends_cons (by decide) _
  | cons v vs => exact ends_cons (by decide) _

theorem skip_cons {c : Char} (dark : isBlank c = false) (s : List Char) : skip (c :: s) = c :: s :=
  List.dropWhile_cons_of_neg (by simp [dark])

section Dispatch
variable (fuel : Nat)

theorem value_quote (s : List Char) :
    value (fuel + 1) ('\x22' :: s) = (scanString s).map fun r => (.string r.1, r.2) := by
  rw [value, skip_cons (by decide)]
  rfl

theorem value_bracket {c : Char} (dark : isBlank c = false) (more : c ≠ ']') (s : List Char) :
    value (fuel + 1) ('[' :: c :: s) = (items fuel (c :: s)).map fun r => (.array r.1, r.2) := by
  rw [value, skip_cons (by decide)]
  simp [skip_cons dark, more]

theorem value_brace {c : Char} (dark : isBlank c = false) (more : c ≠ '\x7d') (s : List Char) :
    value (fuel + 1) ('\x7b' :: c :: s) =
      (members fuel (c :: s)).map fun r => (.object r.1, r.2) := by
  rw [value, skip_cons (by decide)]
  simp [skip_cons dark, more]

theorem ne_of_startsNumber {c d : Char} (starts : c = '-' ∨ c.isDigit = true)
    (other : ¬ (d = '-' ∨ d.isDigit = true)) : c ≠ d := by
  rintro rfl
  exact other starts

theorem isBlank_of_startsNumber {c : Char} (starts : c = '-' ∨ c.isDigit = true) :
    isBlank c = false := by
  have dark d (other : ¬ (d = '-' ∨ d.isDigit = true)) := ne_of_startsNumber starts other
  simp [isBlank, dark ' ' (by decide), dark '\t' (by decide), dark '\n' (by decide),
    dark '\r' (by decide)]

theorem value_startsNumber {c : Char} (starts : c = '-' ∨ c.isDigit = true) (s : List Char) :
    value (fuel + 1) (c :: s) = (scanNumber (c :: s)).map fun r => (.number r.1, r.2) := by
  have other d (other : ¬ (d = '-' ∨ d.isDigit = true)) := ne_of_startsNumber starts other
  rw [value, skip_cons (isBlank_of_startsNumber starts)]
  simp [other 'n' (by decide), other 't' (by decide), other 'f' (by decide),
    other '\x22' (by decide), other '[' (by decide), other '\x7b' (by decide)]

end Dispatch

/-- A character that starts a value: no blank, nor what closes an empty array. -/
structure StartsValue (c : Char) : Prop where
  dark : isBlank c = false
  bracket : c ≠ ']'

theorem Spelled.render_eq_cons {v : Json} (spelled : Spelled v) :
    ∃ c s, v.render = c :: s ∧ StartsValue c := by
  cases spelled with
  | null => exact ⟨'n', _, rfl, by constructor <;> decide⟩
  | bool b => cases b <;> exact ⟨_, _, rfl, by constructor <;> decide⟩
  | number spelled =>
    obtain ⟨c, head, starts⟩ := spelled.starts
    obtain ⟨s, rfl⟩ := List.head?_eq_some_iff.mp head
    exact ⟨c, s, rfl, isBlank_of_startsNumber starts, ne_of_startsNumber starts (by decide)⟩
  | string spelled => exact ⟨'\x22', _, rfl, by constructor <;> decide⟩
  | @array vs items => cases vs <;> exact ⟨'[', _, rfl, by constructor <;> decide⟩
  | @object ms names values => cases ms <;> exact ⟨'\x7b', _, rfl, by constructor <;> decide⟩

/-- The text of a value reads back before any text in which it may end. -/
def Reads (v : Json) : Prop :=
  ∀ fuel rest, v.render.length ≤ fuel → Ends rest → value fuel (v.render ++ rest) = some (v, rest)

/-- Every text has room for the first step. -/
theorem Spelled.reads_of_succ {v : Json} (spelled : Spelled v)
    (reads : ∀ fuel rest, v.render.length ≤ fuel + 1 → Ends rest →
      value (fuel + 1) (v.render ++ rest) = some (v, rest)) : Reads v := by
  intro fuel rest enough ends
  cases fuel with
  | zero =>
    obtain ⟨c, s, render, -⟩ := spelled.render_eq_cons
    rw [render, List.length_cons] at enough
    omega
  | succ fuel => exact reads fuel rest enough ends

/-- The items of an array read back up to its closing bracket. -/
theorem items_render {v : Json} {vs : List Json} (first : Reads v) (others : ∀ u ∈ vs, Reads u)
    (fuel : Nat) (rest : List Char) (enough : (v.render ++ renderItems vs).length ≤ fuel) :
    items fuel (v.render ++ (renderItems vs ++ rest)) = some (v :: vs, rest) := by
  induction vs generalizing v fuel with
  | nil =>
    cases fuel with
    | zero => simp [renderItems] at enough
    | succ fuel =>
      simp only [renderItems, List.length_append, List.length_singleton] at enough
      rw [items, first fuel _ (by omega) (ends_renderItems [] rest)]
      rfl
  | cons u us ih =>
    cases fuel with
    | zero => simp [renderItems] at enough
    | succ fuel =>
      simp only [renderItems, List.length_append, List.length_cons] at enough
      obtain ⟨second, others⟩ := List.forall_mem_cons.mp others
      have tail := ih second others fuel (by rw [List.length_append]; omega)
      rw [items, first fuel _ (by omega) (ends_renderItems (u :: us) rest)]
      simp only [renderItems, List.cons_append, List.append_assoc]
      rw [skip_cons (by decide)]
      simp only [tail, Option.map_some]

theorem length_value_le_renderMember (m : List Char × Json) :
    m.2.render.length ≤ (renderMember m).length := by
  rw [renderMember, List.length_append, List.length_cons]
  omega

theorem members_succ {m : List Char × Json} (name : IsString m.1) (first : Reads m.2) {fuel : Nat}
    (enough : m.2.render.length ≤ fuel) (s : List Char) :
    members (fuel + 1) (renderMember m ++ ',' :: s) =
        (members fuel s).map (fun r => (m :: r.1, r.2)) ∧
      members (fuel + 1) (renderMember m ++ '\x7d' :: s) = some ([m], s) := by
  have comma := first fuel (',' :: s) enough (ends_cons (by decide) s)
  have brace := first fuel ('\x7d' :: s) enough (ends_cons (by decide) s)
  unfold IsString at name
  constructor
  all_goals
    rw [renderMember, quoted, members]
    simp only [List.cons_append, List.append_assoc, List.nil_append]
    rw [skip_cons (by decide)]
    simp only [name]
    rw [skip_cons (by decide)]
    simp only [comma, brace]
    rw [skip_cons (by decide)]
    rfl

/-- The members of an object read back up to its closing brace. -/
theorem members_render {m : List Char × Json} {ms : List (List Char × Json)}
    (name : IsString m.1) (first : Reads m.2) (names : ∀ n ∈ ms, IsString n.1)
    (others : ∀ n ∈ ms, Reads n.2) (fuel : Nat) (rest : List Char)
    (enough : (renderMember m ++ renderMembers ms).length ≤ fuel) :
    members fuel (renderMember m ++ (renderMembers ms ++ rest)) = some (m :: ms, rest) := by
  have shorter := length_value_le_renderMember m
  induction ms generalizing m fuel with
  | nil =>
    cases fuel with
    | zero => simp [renderMembers] at enough
    | succ fuel =>
      simp only [renderMembers, List.length_append, List.length_singleton] at enough
      exact (members_succ name first (by omega) rest).2
  | cons n ns ih =>
    cases fuel with
    | zero => simp [renderMembers] at enough
    | succ fuel =>
      simp only [renderMembers, List.length_append, List.length_cons] at enough
      obtain ⟨called, names⟩ := List.forall_mem_cons.mp names
      obtain ⟨second, others⟩ := List.forall_mem_cons.mp others
      have tail := ih called second names others fuel (by rw [List.length_append]; omega)
        (length_value_le_renderMember n)
      have room : m.2.render.length ≤ fuel := by omega
      have step := members_succ name first room (renderMember n ++ (renderMembers ns ++ rest))
      rw [renderMembers, List.cons_append, List.cons_append, List.append_assoc, step.1, tail,
        Option.map_some]

theorem Spelled.reads {v : Json} (spelled : Spelled v) : Reads v := by
  induction spelled with
  | null => exact Spelled.null.reads_of_succ fun _ _ _ _ => rfl
  | bool b => cases b <;> exact (Spelled.bool _).reads_of_succ fun _ _ _ _ => rfl
  | number spelled =>
    apply (Spelled.number spelled).reads_of_succ
    intro fuel rest _ ends
    obtain ⟨c, head, starts⟩ := spelled.starts
    obtain ⟨s, rfl⟩ := List.head?_eq_some_iff.mp head
    have scans := spelled.scans rest ends.endsNumber
    rw [render, List.cons_append, value_startsNumber _ starts, ← List.cons_append, scans,
      Option.map_some]
  | string spelled =>
    apply (Spelled.string spelled).reads_of_succ
    intro fuel rest _ _
    rw [render, quoted, List.cons_append, List.cons_append, List.append_assoc, value_quote,
      List.singleton_append, spelled rest, Option.map_some]
  | @array vs spelled ih =>
    apply (Spelled.array spelled).reads_of_succ
    intro fuel rest enough _
    cases vs with
    | nil => rfl
    | cons v vs =>
      obtain ⟨c, s, same, starts⟩ := (spelled v List.mem_cons_self).render_eq_cons
      obtain ⟨first, others⟩ := List.forall_mem_cons.mp ih
      have items := items_render first others fuel rest (by simpa [render] using enough)
      rw [render, List.cons_append, List.cons_append, List.append_assoc]
      rw [same, List.cons_append] at items ⊢
      rw [value_bracket _ starts.dark starts.bracket, items, Option.map_some]
  | @object ms names spelled ih =>
    apply (Spelled.object names spelled).reads_of_succ
    intro fuel rest enough _
    cases ms with
    | nil => rfl
    | cons m ms =>
      obtain ⟨called, names⟩ := List.forall_mem_cons.mp names
      obtain ⟨first, others⟩ := List.forall_mem_cons.mp ih
      have members := members_render called first names others fuel rest
        (by simpa [render] using enough)
      rw [render, List.cons_append, List.cons_append, List.append_assoc]
      rw [renderMember, quoted, List.cons_append, List.cons_append, List.cons_append] at members ⊢
      rw [value_brace _ (by decide) (by decide), members, Option.map_some]

/-- Compact text reads back as the value that it was rendered from. -/
theorem read_render {v : Json} (spelled : Spelled v) : read v.render = some v := by
  have reads := spelled.reads (2 * v.render.length + 2) [] (by omega) nofun
  rw [List.append_nil] at reads
  rw [read, reads]
  rfl

end OpPolicy.Json
