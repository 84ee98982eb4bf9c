import OpPolicy.Text.Numeral

set_option autoImplicit false

/-!
Which texts are numerals. A number has many, with leading zeros or a plus sign in front, and a text
is a numeral of one number at most, the one that it is read as (`uint32?_eq_some_iff`). What a
number is printed as is one of its numerals (`writes_toString`).
-/

namespace OpPolicy.Numeral

/-- A text is a numeral of a number: one digit or more, after a plus sign or none. -/
def Writes (s : List Char) (n : Nat) : Prop :=
  ∃ ds, (s = ds ∨ s = '+' :: ds) ∧ ds ≠ [] ∧ (∀ c ∈ ds, c.isDigit = true) ∧
    Nat.ofDigitChars 10 ds 0 = n

theorem le_ofDigitChars (ds : List Char) (n : Nat) : n ≤ Nat.ofDigitChars 10 ds n := by
  induction ds generalizing n with
  | nil => exact Nat.le_refl n
  | cons c ds ih =>
    rw [Nat.ofDigitChars_cons]
    exact Nat.le_trans (by omega) (ih _)

/-- A value that is within the limit at the end has been within it all along. -/
theorem digits_eq_ok_iff {limit : Nat} {f : Fault} {n m : Nat} {s : List Char}
    (within : n ≤ limit) :
    digits limit f n s = .ok m ↔
      (∀ c ∈ s, c.isDigit = true) ∧ Nat.ofDigitChars 10 s n = m ∧ m ≤ limit := by
  induction s generalizing n with
  | nil =>
    simp only [digits, Except.ok.injEq, List.not_mem_nil, false_implies, implies_true, true_and,
      Nat.ofDigitChars_nil]
    exact ⟨fun eq => ⟨eq, eq ▸ within⟩, And.left⟩
  | cons c s ih =>
    have value : n * 10 + digit c = 10 * n + (c.toNat - '0'.toNat) := by
      rw [Nat.mul_comm]
      rfl
    rw [digits, List.forall_mem_cons, Nat.ofDigitChars_cons, ← value]
    by_cases isDigit : c.isDigit = true
    · by_cases fits : n * 10 + digit c ≤ limit
      · simp [isDigit, fits, ih fits]
      · have above := le_ofDigitChars s (n * 10 + digit c)
        simp only [isDigit, fits, if_true, if_false, reduceCtorEq, true_and, false_iff, not_and]
        intro _ eq
        omega
    · simp [isDigit]

theorem writes_plus_iff {ds : List Char} {n : Nat} :
    Writes ('+' :: ds) n ↔
      ds ≠ [] ∧ (∀ c ∈ ds, c.isDigit = true) ∧ Nat.ofDigitChars 10 ds 0 = n := by
  constructor
  · rintro ⟨ds', rfl | same, filled, digits, value⟩
    · exact absurd (digits '+' List.mem_cons_self) (by decide)
    · obtain rfl := List.tail_eq_of_cons_eq same
      exact ⟨filled, digits, value⟩
  · rintro ⟨filled, digits, value⟩
    exact ⟨ds, .inr rfl, filled, digits, value⟩

theorem writes_iff_of_unsigned {s : List Char} {n : Nat} (bare : ∀ ds, s ≠ '+' :: ds) :
    Writes s n ↔ s ≠ [] ∧ (∀ c ∈ s, c.isDigit = true) ∧ Nat.ofDigitChars 10 s 0 = n := by
  constructor
  · rintro ⟨ds, rfl | plus, filled, digits, value⟩
    · exact ⟨filled, digits, value⟩
    · exact absurd plus (bare ds)
  · rintro ⟨filled, digits, value⟩
    exact ⟨s, .inl rfl, filled, digits, value⟩

theorem unsigned_eq_ok_iff {limit n : Nat} {s : List Char} :
    unsigned limit s = .ok n ↔ Writes s n ∧ n ≤ limit := by
  unfold unsigned
  split
  · simp [writes_iff_of_unsigned]
  · simp [writes_plus_iff]
  · next ds more =>
    have filled : ds ≠ [] := fun empty => more (by rw [empty])
    simp [writes_plus_iff, filled, digits_eq_ok_iff, and_assoc]
  · next filled _ bare =>
    have filled : s ≠ [] := filled
    simp [writes_iff_of_unsigned bare, filled, digits_eq_ok_iff, and_assoc]

theorem uint32?_eq_some_iff {s : String} {n : UInt32} :
    uint32? s = some n ↔ Writes s.toList n.toNat := by
  have small : n.toNat ≤ maxUInt32 := Nat.le_of_lt_succ n.toNat_lt
  rw [uint32?, Option.map_eq_some_iff]
  constructor
  · rintro ⟨m, read, rfl⟩
    have read : unsigned maxUInt32 s.toList = .ok m := by
      cases outcome : unsigned maxUInt32 s.toList with
      | error f => simp [outcome, Except.toOption] at read
      | ok k => simpa [outcome, Except.toOption] using read
    obtain ⟨writes, fits⟩ := unsigned_eq_ok_iff.mp read
    rwa [UInt32.toNat_ofNat_of_lt' (Nat.lt_succ_of_le fits)]
  · intro writes
    have read : unsigned maxUInt32 s.toList = .ok n.toNat := unsigned_eq_ok_iff.mpr ⟨writes, small⟩
    exact ⟨n.toNat, by rw [read]; rfl, UInt32.ofNat_toNat⟩

theorem toList_toString (n : UInt32) : (toString n).toList = Nat.toDigits 10 n.toNat := by
  change (toString n.toNat).toList = _
  rw [Nat.toString_eq_ofList_toDigits, String.toList_ofList]

theorem isDigit_of_mem_toString {n : UInt32} {c : Char} (mem : c ∈ (toString n).toList) :
    c.isDigit = true := by
  rw [toList_toString] at mem
  exact Nat.isDigit_of_mem_toDigits (by decide) (by decide) mem

theorem toList_toString_ne_nil (n : UInt32) : (toString n).toList ≠ [] := by
  rw [toList_toString]
  exact Nat.toDigits_ne_nil

theorem writes_toString (n : UInt32) : Writes (toString n).toList n.toNat :=
  ⟨_, .inl rfl, toList_toString_ne_nil n, fun _ => isDigit_of_mem_toString, by
    rw [toList_toString, Nat.ofDigitChars_ten_toDigits]⟩

end OpPolicy.Numeral
