import Mathlib.Data.List.Forall2
import OpPolicy.Error

set_option autoImplicit false

/-!
Computations that may fail: when one of several steps succeeds, and which errors come out of them.
-/

namespace OpPolicy
variable {α β : Type}

theorem bind_eq_ok {x : Except Error α} {f : α → Except Error β} {b : β} :
    x >>= f = .ok b ↔ ∃ a, x = .ok a ∧ f a = .ok b := by
  cases x with
  | error e => simp [bind, Except.bind]
  | ok a => simp [bind, Except.bind]

/-- A list is read if each item is. -/
theorem mapM_eq_some_iff {f : α → Option β} {as : List α} {bs : List β} :
    as.mapM f = some bs ↔ List.Forall₂ (fun a b => f a = some b) as bs := by
  induction as generalizing bs with
  | nil => simp [eq_comm]
  | cons a as ih =>
    rw [List.mapM_cons, List.forall₂_cons_left_iff]
    simp only [Option.bind_eq_bind, Option.bind_eq_some_iff, Option.pure_def, Option.some.injEq, ih]
    constructor
    · rintro ⟨b, first, bs, others, rfl⟩
      exact ⟨b, bs, first, others, rfl⟩
    · rintro ⟨b, bs, first, others, rfl⟩
      exact ⟨b, first, bs, others, rfl⟩

theorem isSome_mapM (f : α → Option β) (as : List α) :
    (as.mapM f).isSome = as.all fun a => (f a).isSome := by
  induction as with
  | nil => rfl
  | cons a as ih =>
    rw [List.mapM_cons, List.all_cons, ← ih]
    cases f a <;> cases as.mapM f <;> rfl

/-- Whatever goes wrong is a mistake in the configuration. -/
def FailsByConfiguration (x : Except Error α) : Prop :=
  ∀ e, x = .error e → ∃ text, e = .configuration text

theorem failsByConfiguration_ok (a : α) : FailsByConfiguration (.ok a) := nofun

theorem failsByConfiguration_error (text : String) :
    FailsByConfiguration (.error (.configuration text) : Except Error α) := by
  rintro e ⟨⟩
  exact ⟨text, rfl⟩

theorem FailsByConfiguration.bind {x : Except Error α} {f : α → Except Error β}
    (first : FailsByConfiguration x) (next : ∀ a, FailsByConfiguration (f a)) :
    FailsByConfiguration (x >>= f) := by
  cases x with
  | error e =>
    rintro _ ⟨⟩
    exact first e rfl
  | ok a => exact next a

theorem FailsByConfiguration.foldlM {f : β → α → Except Error β}
    (step : ∀ b a, FailsByConfiguration (f b a)) (l : List α) (b : β) :
    FailsByConfiguration (l.foldlM f b) := by
  induction l generalizing b with
  | nil => exact failsByConfiguration_ok b
  | cons a l ih =>
    rw [List.foldlM_cons]
    exact (step b a).bind fun b => ih b

end OpPolicy
