import OpPolicy.Text.Runs

set_option autoImplicit false

/-!
Sets of code points as ranges. Those of a set in normal form ascend, and at least one code point
lies between any two of them.
-/

namespace OpPolicy.Text

abbrev Ranges := List (Nat × Nat)

namespace Ranges

def maxCodePoint : Nat := 0x10FFFF

def has (n : Nat) (ranges : Ranges) : Bool := ranges.any fun r => r.1 ≤ n && n ≤ r.2

/-- Join what touches, in ranges whose first code points ascend from that of `r`. -/
def join (r : Nat × Nat) : Ranges → Ranges
  | [] => [r]
  | s :: ranges =>
    if s.1 ≤ r.2 + 1 then join (r.1, max r.2 s.2) ranges else r :: join s ranges

def normalize (ranges : Ranges) : Ranges :=
  match ranges.mergeSort fun r s => r.1 ≤ s.1 with
  | [] => []
  | r :: ranges => join r ranges

/-- What ranges in normal form leave out from `next` on. -/
def gaps (next : Nat) : Ranges → Ranges
  | [] => if next ≤ maxCodePoint then [(next, maxCodePoint)] else []
  | r :: ranges => (if next < r.1 then [(next, r.1 - 1)] else []) ++ gaps (r.2 + 1) ranges

def complement (ranges : Ranges) : Ranges := gaps 0 ranges

def union (a b : Ranges) : Ranges := normalize (a ++ b)

def intersection (a b : Ranges) : Ranges := complement (union (complement a) (complement b))

@[simp] theorem has_cons {n : Nat} {r : Nat × Nat} {ranges : Ranges} :
    has n (r :: ranges) = ((r.1 ≤ n && n ≤ r.2) || has n ranges) := rfl

@[simp] theorem has_append {n : Nat} {a b : Ranges} : has n (a ++ b) = (has n a || has n b) := by
  simp [has]

theorem has_join {n : Nat} {r : Nat × Nat} {ranges : Ranges}
    (ascending : (r :: ranges).Pairwise fun r s => r.1 ≤ s.1) :
    has n (join r ranges) = has n (r :: ranges) := by
  induction ranges generalizing r with
  | nil => rfl
  | cons s ranges ih =>
    have first := List.pairwise_cons.mp ascending
    have le : r.1 ≤ s.1 := first.1 s (by simp)
    simp only [join]
    split
    · have rest : ((r.1, max r.2 s.2) :: ranges).Pairwise fun r s => r.1 ≤ s.1 :=
        List.pairwise_cons.mpr
          ⟨fun t ht => first.1 t (by simp [ht]), (List.pairwise_cons.mp first.2).2⟩
      rw [ih rest, Bool.eq_iff_iff]
      simp only [has_cons, Bool.or_eq_true, Bool.and_eq_true, decide_eq_true_eq]
      constructor
      · rintro (h | h)
        · by_cases hr : n ≤ r.2
          · exact .inl ⟨h.1, hr⟩
          · exact .inr (.inl ⟨by omega, by omega⟩)
        · exact .inr (.inr h)
      · rintro (h | h | h)
        · exact .inl ⟨h.1, by omega⟩
        · exact .inl ⟨by omega, by omega⟩
        · exact .inr h
    · simp only [has_cons, ih first.2]

theorem has_normalize (n : Nat) (ranges : Ranges) : has n (normalize ranges) = has n ranges := by
  have perm := List.mergeSort_perm ranges fun r s => decide (r.1 ≤ s.1)
  have ascending : (ranges.mergeSort fun r s => decide (r.1 ≤ s.1)).Pairwise fun r s =>
      decide (r.1 ≤ s.1) = true :=
    List.pairwise_mergeSort (fun a b c hab hbc => by simp_all; omega)
      (fun a b => by simp; omega) ranges
  have same : has n (ranges.mergeSort fun r s => r.1 ≤ s.1) = has n ranges := perm.any_eq
  rw [← same, normalize]
  cases h : ranges.mergeSort fun r s => r.1 ≤ s.1 with
  | nil => rfl
  | cons r rest =>
    rw [h] at ascending
    exact has_join (ascending.imp (by simp))

@[simp] theorem has_union {n : Nat} {a b : Ranges} :
    has n (union a b) = (has n a || has n b) := by
  rw [union, has_normalize, has_append]

/-- Read a code point in hexadecimal, or two with a hyphen between them. -/
def ofWord? (word : List Char) : Option (Nat × Nat) :=
  match word.splitOn '-' with
  | [n] => (hex? n).map fun n => (n, n)
  | [first, last] => do return (← hex? first, ← hex? last)
  | _ => none

def ofTable (table : String) : Ranges := (Runs.words table).filterMap ofWord?

/-- The code points with a value that is asked for. -/
def ofRuns {α : Type} (p : α → Bool) : Runs α → Ranges
  | [] => []
  | [(first, a)] => if p a then [(first, maxCodePoint)] else []
  | (first, a) :: (next, b) :: runs =>
    (if p a then [(first, next - 1)] else []) ++ ofRuns p ((next, b) :: runs)

end Ranges

end OpPolicy.Text
