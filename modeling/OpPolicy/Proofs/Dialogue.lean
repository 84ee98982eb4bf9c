import OpPolicy.Dialogue

set_option autoImplicit false

/-!
Dialogues that follow others: they ask the same questions in the same order whatever the answers
are, and end with related values, but may note more on the way. What follows can be played against
the same surroundings with the same outcome (`Follows.play`). A dialogue whose questions another one
answers is played as if the other's answers were given to it (`play_through`).
-/

namespace OpPolicy.Dialogue
variable {Q : Type} {A : Q → Type} {α β γ δ : Type} {R : α → β → Prop} {S : γ → δ → Prop}

inductive Follows (R : α → β → Prop) : Dialogue Q A α → Dialogue Q A β → Prop
  | done {a : α} {b : β} (related : R a b) : Follows R (done a) (done b)
  | note {r : Record} {m : Dialogue Q A α} {n : Dialogue Q A β} (next : Follows R m n) :
    Follows R (note r m) n
  | ask {q : Q} {m : A q → Dialogue Q A α} {n : A q → Dialogue Q A β}
    (next : ∀ a, Follows R (m a) (n a)) : Follows R (ask q m) (ask q n)

theorem Follows.bind {m : Dialogue Q A α} {n : Dialogue Q A β} {f : α → Dialogue Q A γ}
    {g : β → Dialogue Q A δ} (first : Follows R m n)
    (next : ∀ a b, R a b → Follows S (f a) (g b)) : Follows S (m.bind f) (n.bind g) := by
  induction first with
  | done related => exact next _ _ related
  | note _ ih => exact .note ih
  | ask _ ih => exact .ask ih

theorem Follows.sayAll_bind (rs : List Record) {f : Unit → Dialogue Q A α} {n : Dialogue Q A β}
    (next : Follows R (f ()) n) : Follows R ((sayAll rs).bind f) n := by
  induction rs with
  | nil => exact next
  | cons r rs ih => exact .note ih

theorem Follows.play {m : Dialogue Q A α} {n : Dialogue Q A β} (h : Follows R m n) {σ : Type}
    (answer : (q : Q) → σ → A q × σ) (w : σ) :
    R (m.play answer w).value (n.play answer w).value ∧
      (m.play answer w).world = (n.play answer w).world ∧
      (m.play answer w).asked = (n.play answer w).asked := by
  induction h generalizing w with
  | done related => exact ⟨related, rfl, rfl⟩
  | note _ ih => exact ih w
  | @ask q _ _ _ ih =>
    obtain ⟨value, world, asked⟩ := ih (answer q w).1 (answer q w).2
    exact ⟨value, world, congrArg (q :: ·) asked⟩

theorem play_sayAll {σ : Type} (answer : (q : Q) → σ → A q × σ) (rs : List Record) (w : σ) :
    (sayAll rs).play answer w = ⟨(), w, rs, []⟩ := by
  induction rs with
  | nil => rfl
  | cons r rs ih => simp [sayAll, Dialogue.play, ih]

section Through
variable {Q' : Type} {A' : Q' → Type} {σ : Type} (handle : (q : Q) → Dialogue Q' A' (A q))
  (answer : (q : Q') → σ → A' q × σ)

/-- The answers that a dialogue gives to each question, with what it asks itself kept in order. -/
def answersBy (q : Q) (w : σ × List Q') : A q × (σ × List Q') :=
  let p := (handle q).play answer w.1
  (p.value, p.world, w.2 ++ p.asked)

theorem play_through (m : Dialogue Q A α) (w : σ) (before : List Q') :
    let p := m.play (answersBy handle answer) (w, before)
    let t := (m.through handle).play answer w
    t.value = p.value ∧ t.world = p.world.1 ∧ before ++ t.asked = p.world.2 := by
  induction m generalizing w before with
  | done a => simp [through, Dialogue.play]
  | note r next ih => exact ih w before
  | ask q next ih =>
    obtain ⟨value, world, asked⟩ := ih ((handle q).play answer w).value
      ((handle q).play answer w).world (before ++ ((handle q).play answer w).asked)
    simp only [through, play_bind]
    refine ⟨value, world, ?_⟩
    rw [← List.append_assoc]
    exact asked

end Through

end OpPolicy.Dialogue
