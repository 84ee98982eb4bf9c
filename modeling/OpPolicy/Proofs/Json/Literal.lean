import OpPolicy.Json.Literal

set_option autoImplicit false

/-!
Literals read back as they are spelled. A text escaped for JSON has no quote and no control
character left in it, so that its string literal ends where it should (`IsString.escape`), and means
the text (`unescape_escape`); an integer is spelled without a leading zero, so that it is one number
literal (`IsNumber.spellInteger`), and has the value it was spelled for (`integer?_spellInteger`).
-/

namespace OpPolicy.Json

section Escapes

theorem hex4?_control : ∀ n < 32,
    hex4? '0' '0' (lowerHex (n / 16)) (lowerHex n) = some n := by
  decide

/-- How a character is escaped: not at all, in short, or by its number. -/
theorem escapeChar_cases (c : Char) :
    (escapeChar c = [c] ∧ c ≠ '\x22' ∧ c ≠ '\\' ∧ ¬ c < ' ') ∨
    (∃ e, escapeChar c = ['\\', e] ∧ e ≠ 'u' ∧ shortEscape? e = some c) ∨
    (escapeChar c = ['\\', 'u', '0', '0', lowerHex (c.toNat / 16), lowerHex c.toNat] ∧
      c < ' ') := by
  unfold escapeChar
  -- the seven short escapes come first
  iterate 7
    split
    · subst c
      exact .inr (.inl ⟨_, rfl, by decide, rfl⟩)
  split
  · exact .inr (.inr ⟨rfl, ‹_›⟩)
  · exact .inl ⟨rfl, ‹_›, ‹_›, ‹_›⟩

theorem toNat_of_control {c : Char} (control : c < ' ') : c.toNat < 32 := control

theorem scanString_escapeChar (c : Char) (s : List Char) :
    scanString (escapeChar c ++ s) = (scanString s).map fun r => (escapeChar c ++ r.1, r.2) := by
  obtain ⟨same, quote, backslash, dark⟩ | ⟨e, short, long, means⟩ | ⟨number, control⟩ :=
    escapeChar_cases c
  · rw [same, List.cons_append, List.nil_append, scanString]
    · simp [backslash, dark]
    all_goals simp [quote, backslash]
  · rw [short, List.cons_append, List.cons_append, List.nil_append, scanString]
    · simp [means]
    · simp [long]
  · have hex := hex4?_control c.toNat (toNat_of_control control)
    simp [number, scanString, hex]

theorem unescape_escapeChar (c : Char) (s : List Char) :
    unescape (escapeChar c ++ s) = (unescape s).map (c :: ·) := by
  obtain ⟨same, -, backslash, -⟩ | ⟨e, short, long, means⟩ | ⟨number, control⟩ := escapeChar_cases c
  · rw [same, List.cons_append, List.nil_append, unescape]
    · simp [backslash]
    all_goals simp [backslash]
  · rw [short, List.cons_append, List.cons_append, List.nil_append, unescape]
    · simp [means]
    · simp [long]
  · have small := toNat_of_control control
    have hex := hex4?_control c.toNat small
    have leading : isLeading c.toNat = false := by simp [isLeading]; omega
    have trailing : isTrailing c.toNat = false := by simp [isTrailing]; omega
    simp [number, unescape, hex, leading, trailing]

theorem unescape_escape (s : List Char) : unescape (escape s) = some s := by
  unfold escape
  induction s with
  | nil => simp [unescape]
  | cons c s ih => rw [List.flatMap_cons, unescape_escapeChar, ih, Option.map_some]

end Escapes

/-- A spelling that a string literal can have between its quotes. -/
def IsString (spelling : List Char) : Prop :=
  ∀ rest, scanString (spelling ++ '\x22' :: rest) = some (spelling, rest)

theorem IsString.escape (s : List Char) : IsString (escape s) := by
  intro rest
  unfold Json.escape
  induction s with
  | nil => rw [List.flatMap_nil, List.nil_append, scanString]
  | cons c s ih =>
    rw [List.flatMap_cons, List.append_assoc, scanString_escapeChar, ih, Option.map_some]

section Numbers

/-- A text at which a number ends. -/
def EndsNumber (rest : List Char) : Prop :=
  ∀ c ∈ rest.head?, c.isDigit = false ∧ c ≠ '.' ∧ c ≠ 'e' ∧ c ≠ 'E'

/-- A spelling that is one number, wherever it can end. -/
structure IsNumber (spelling : List Char) : Prop where
  starts : ∃ c ∈ spelling.head?, c = '-' ∨ c.isDigit = true
  scans : ∀ rest, EndsNumber rest → scanNumber (spelling ++ rest) = some (spelling, rest)

theorem spanDigits_append {ds rest : List Char} (digits : ∀ c ∈ ds, c.isDigit = true)
    (ends : EndsNumber rest) : spanDigits (ds ++ rest) = (ds, rest) := by
  have stop : rest.takeWhile Char.isDigit = [] ∧ rest.dropWhile Char.isDigit = rest := by
    cases rest with
    | nil => exact ⟨rfl, rfl⟩
    | cons c rest => simp [(ends c rfl).1]
  rw [spanDigits, List.takeWhile_append_of_pos digits, List.dropWhile_append_of_pos digits, stop.1,
    stop.2, List.append_nil]

theorem scanFraction_of_ends {rest : List Char} (ends : EndsNumber rest) :
    scanFraction rest = some ([], rest) := by
  unfold scanFraction
  split
  · exact absurd rfl (ends '.' rfl).2.1
  · rfl

theorem scanExponent_of_ends {rest : List Char} (ends : EndsNumber rest) :
    scanExponent rest = some ([], rest) := by
  cases rest with
  | nil => rfl
  | cons c rest => rw [scanExponent, if_neg (by simp [(ends c rfl).2.2])]

/-- Digits that are a whole number: at least one, and no zero before another. -/
structure IsWhole (ds : List Char) : Prop where
  digits : ∀ c ∈ ds, c.isDigit = true
  filled : ds ≠ []
  leading : ds.head? = some '0' → ds = ['0']

theorem head?_toDigits_of_ten_le {n : Nat} (large : 10 ≤ n) :
    (Nat.toDigits 10 n).head? = (Nat.toDigits 10 (n / 10)).head? := by
  have split := Nat.toDigits_append_toDigits (b := 10) (n := n / 10) (d := n % 10) (by decide)
    (by omega) (by omega)
  rw [Nat.div_add_mod] at split
  rw [← split, List.head?_append, Option.or_of_isSome]
  exact List.isSome_head?.mpr Nat.toDigits_ne_nil

theorem IsWhole.toDigits (n : Nat) : IsWhole (Nat.toDigits 10 n) where
  digits _ := Nat.isDigit_of_mem_toDigits (by decide) (by decide)
  filled := Nat.toDigits_ne_nil
  leading zero := by
    induction n using Nat.strongRecOn with
    | ind n ih =>
      by_cases small : n < 10
      · rw [Nat.toDigits_of_lt_base small] at zero ⊢
        exact congrArg (fun c => [c]) (Option.some.inj zero)
      · rw [head?_toDigits_of_ten_le (by omega)] at zero
        have quotient := ih (n / 10) (by omega) zero
        have value := congrArg (Nat.ofDigitChars 10 · 0) quotient
        rw [Nat.ofDigitChars_ten_toDigits] at value
        have : n / 10 = 0 := value
        omega

theorem scanNumber_whole {sign ds rest : List Char} (signed : sign = [] ∨ sign = ['-'])
    (whole : IsWhole ds) (ends : EndsNumber rest) :
    scanNumber (sign ++ ds ++ rest) = some (sign ++ ds, rest) := by
  obtain ⟨d, more, rfl⟩ := List.exists_cons_of_ne_nil whole.filled
  have digit : d.isDigit = true := whole.digits d List.mem_cons_self
  have unsigned : d ≠ '-' := by
    rintro rfl
    exact absurd digit (by decide)
  by_cases zero : d = '0'
  · obtain rfl : more = [] := by simpa [zero] using whole.leading
    subst zero
    obtain rfl | rfl := signed <;>
      simp [scanNumber, scanFraction_of_ends ends, scanExponent_of_ends ends]
  · have span := spanDigits_append whole.digits ends
    rw [List.cons_append] at span
    obtain rfl | rfl := signed <;>
      simp [scanNumber, unsigned, zero, span, scanFraction_of_ends ends, scanExponent_of_ends ends]

theorem IsNumber.spellInteger (n : Int) : IsNumber (spellInteger n) := by
  cases n with
  | ofNat n =>
    have whole := IsWhole.toDigits n
    obtain ⟨d, more, same⟩ := List.exists_cons_of_ne_nil whole.filled
    refine ⟨⟨d, ?_, .inr (whole.digits d ?_)⟩, fun rest ends => ?_⟩
    · simp [Json.spellInteger, same]
    · simp [same]
    · exact scanNumber_whole (.inl rfl) whole ends
  | negSucc n =>
    refine ⟨⟨'-', rfl, .inl rfl⟩, fun rest ends => ?_⟩
    exact scanNumber_whole (.inr rfl) (.toDigits (n + 1)) ends

theorem integer?_of_digits {ds : List Char} (digits : ∀ c ∈ ds, c.isDigit = true) :
    integer? ds = some (Int.ofNat (Nat.ofDigitChars 10 ds 0)) := by
  unfold integer?
  split
  · exact absurd (digits '-' List.mem_cons_self) (by decide)
  · exact absurd (digits '-' List.mem_cons_self) (by decide)
  · exact if_pos (List.all_eq_true.mpr digits)

theorem integer?_minus {ds : List Char} (digits : ∀ c ∈ ds, c.isDigit = true)
    (nonzero : ds ≠ ['0']) :
    integer? ('-' :: ds) = some (-Int.ofNat (Nat.ofDigitChars 10 ds 0)) := by
  rw [integer?]
  · exact if_pos (List.all_eq_true.mpr digits)
  · exact nonzero

theorem integer?_spellInteger (n : Int) : integer? (spellInteger n) = some n := by
  cases n with
  | ofNat n =>
    rw [spellInteger, integer?_of_digits (IsWhole.toDigits n).digits, Nat.ofDigitChars_ten_toDigits]
  | negSucc n =>
    have nonzero : Nat.toDigits 10 (n + 1) ≠ ['0'] := by
      intro zero
      have value := congrArg (Nat.ofDigitChars 10 · 0) zero
      rw [Nat.ofDigitChars_ten_toDigits] at value
      exact absurd value (Nat.succ_ne_zero n)
    rw [spellInteger, integer?_minus (IsWhole.toDigits (n + 1)).digits nonzero,
      Nat.ofDigitChars_ten_toDigits]
    rfl

end Numbers

end OpPolicy.Json
